import TermStore.Proofs.Levels
import TermStore.Proofs.Reading

/-!
# Chains that can be followed

The look-ups of the second phase go through exactly when the rows of the batch's ids can be read and
the rows that these refer to, and so on; where a row is missing the chain ends (`Followed`). What a
level inserts refers to rows that the level before has found or made, so chains that could be
followed before can be followed afterwards.
-/

namespace TermStore

open Storage (TableSpec Record Cell Database)

/-! ### References from table to table -/

namespace Storage

/-- The first column of a table holds ids of another one. -/
def TableSpec.Refers (spec next : TableSpec) : Prop :=
  (spec = .termsInLanguage ∧ next = .textsInLanguage) ∨ (spec = .textsInLanguage ∧ next = .texts)

namespace TableSpec

variable {next : TableSpec}

theorem not_refers_texts : ¬ texts.Refers next := by
  rintro (⟨hspec, -⟩ | ⟨hspec, -⟩)
  · exact absurd hspec (by decide)
  · exact absurd hspec (by decide)

theorem refers_textsInLanguage_iff : textsInLanguage.Refers next ↔ next = texts := by
  constructor
  · rintro (⟨hspec, -⟩ | ⟨-, hnext⟩)
    · exact absurd hspec (by decide)
    · exact hnext
  · intro hnext
    exact Or.inr ⟨rfl, hnext⟩

theorem refers_termsInLanguage_iff : termsInLanguage.Refers next ↔ next = textsInLanguage := by
  constructor
  · rintro (⟨-, hnext⟩ | ⟨hspec, -⟩)
    · exact hnext
    · exact absurd hspec (by decide)
  · intro hnext
    exact Or.inl ⟨rfl, hnext⟩

end TableSpec

namespace Database

variable {db db' : Database} {spec other : TableSpec} {records : List Record} {id : Int}

/-- The row of an id can be read, and so can the rows that it leads to, as far as they are there. -/
inductive Followed (db : Database) : TableSpec → Int → Prop
  | intro {spec : TableSpec} {id : Int} (hspec : spec ∈ TableSpec.all)
      (hreadable : db.Readable spec id)
      (hnext : ∀ next first rest, spec.Refers next →
        db.Reads spec id (.integer first :: rest) → db.Followed next first) :
      db.Followed spec id

theorem Followed.readable (h : db.Followed spec id) : db.Readable spec id := by
  cases h with
  | intro _ hreadable _ => exact hreadable

/-- A chain that can be followed can be followed from the next row on. -/
theorem Followed.next (h : db.Followed spec id) {next : TableSpec} {first : Int} {rest : Record}
    (hrefers : spec.Refers next) (hreads : db.Reads spec id (.integer first :: rest)) :
    db.Followed next first := by
  cases h with
  | intro _ _ hnext => exact hnext next first rest hrefers hreads

/-- Chains can still be followed after an insert of records that lead on. -/
theorem Followed.gains (h : db.Followed other id) (hgains : db.Gains spec records db')
    (hspec : spec ∈ TableSpec.all)
    (hnew : ∀ next first rest, spec.Refers next → .integer first :: rest ∈ records →
      db'.Followed next first) : db'.Followed other id := by
  induction h with
  | intro hother hreadable _ ih =>
      refine .intro hother (hgains.readable hspec hother hreadable) ?_
      intro next first rest hrefers hreads
      rcases hgains.reads_cases hspec hother hreads with hold | ⟨rfl, hrecord, -⟩
      · exact ih next first rest hrefers hold
      · exact hnew next first rest hrefers hrecord

theorem followed_text (h : db.Readable .texts id) : db.Followed .texts id :=
  .intro TableSpec.mem_all_texts h fun _ _ _ hrefers _ =>
    absurd hrefers TableSpec.not_refers_texts

/-- A text in its language and its text, both with their rows, are a chain that can be followed. -/
theorem followed_language {textId : Int} {language text : String}
    (h : db.Has .textsInLanguage id [.integer textId, .text language])
    (htext : db.Has .texts textId [.text text]) : db.Followed .textsInLanguage id := by
  refine .intro TableSpec.mem_all_textsInLanguage h.readable
    fun next first rest hrefers hreads => ?_
  obtain rfl := TableSpec.refers_textsInLanguage_iff.1 hrefers
  have hrecord := hreads.functional h.reads
  simp only [List.cons.injEq, Cell.integer.injEq] at hrecord
  rw [hrecord.1]
  exact followed_text htext.readable

end Database

end Storage

namespace Acquisition

open Storage.Database (followed_text followed_language)

variable {batch : Batch} {db : Database}

/-! ### Look-ups that go through -/

/-- The look-ups of the second phase go through exactly when all ids of the batch can be
followed. -/
theorem exists_readRows_iff (hsound : db.Sound) :
    (∃ rows, readRows db batch = .ok rows) ↔
      ∀ acquired ∈ batch, db.Followed .termsInLanguage acquired.id := by
  constructor
  · rintro ⟨rows, hrows⟩ acquired hmem
    obtain ⟨hterms, hinLanguage, htexts⟩ := readRows_eq_ok_iff.1 hrows
    have hid : acquired.id ∈ idSet batch.ids := mem_idSet.2 (List.mem_map_of_mem hmem)
    have hreadable := (hsound.findIds_ok_iff TableSpec.mem_all_termsInLanguage).1 ⟨_, hterms⟩ _ hid
    refine .intro TableSpec.mem_all_termsInLanguage hreadable
      fun next middleId rest hrefers hreads => ?_
    obtain rfl := TableSpec.refers_termsInLanguage_iff.1 hrefers
    -- each look-up asks for the ids that the one before has read
    have hmiddle : middleId ∈ firstIds rows.terms := mem_firstIds.2
      ⟨_, _, (hsound.findIds_iff TableSpec.mem_all_termsInLanguage hterms).2 ⟨hid, hreads⟩⟩
    refine .intro TableSpec.mem_all_textsInLanguage ((hsound.findIds_ok_iff
      TableSpec.mem_all_textsInLanguage).1 ⟨_, hinLanguage⟩ _ hmiddle)
      fun next textId rest hrefers hreads => ?_
    obtain rfl := TableSpec.refers_textsInLanguage_iff.1 hrefers
    have htext : textId ∈ firstIds rows.inLanguage := mem_firstIds.2
      ⟨_, _, (hsound.findIds_iff TableSpec.mem_all_textsInLanguage hinLanguage).2
        ⟨hmiddle, hreads⟩⟩
    exact followed_text ((hsound.findIds_ok_iff TableSpec.mem_all_texts).1 ⟨_, htexts⟩ _ htext)
  · intro hfollowed
    have hterm : ∀ id ∈ idSet batch.ids, db.Followed .termsInLanguage id := by
      intro id hid
      obtain ⟨acquired, hmem, rfl⟩ := List.mem_map.1 (mem_idSet.1 hid)
      exact hfollowed acquired hmem
    obtain ⟨terms, hterms⟩ := (hsound.findIds_ok_iff TableSpec.mem_all_termsInLanguage).2
      fun id hid => (hterm id hid).readable
    have hmiddle : ∀ id ∈ firstIds terms, db.Followed .textsInLanguage id := by
      intro id hid
      obtain ⟨key, rest, hget⟩ := mem_firstIds.1 hid
      obtain ⟨hkey, hreads⟩ := (hsound.findIds_iff TableSpec.mem_all_termsInLanguage hterms).1 hget
      exact (hterm key hkey).next (TableSpec.refers_termsInLanguage_iff.2 rfl) hreads
    obtain ⟨inLanguage, hinLanguage⟩ := (hsound.findIds_ok_iff
      TableSpec.mem_all_textsInLanguage).2 fun id hid => (hmiddle id hid).readable
    have htext : ∀ id ∈ firstIds inLanguage, db.Followed .texts id := by
      intro id hid
      obtain ⟨key, rest, hget⟩ := mem_firstIds.1 hid
      obtain ⟨hkey, hreads⟩ :=
        (hsound.findIds_iff TableSpec.mem_all_textsInLanguage hinLanguage).1 hget
      exact (hmiddle key hkey).next (TableSpec.refers_textsInLanguage_iff.2 rfl) hreads
    obtain ⟨texts, htexts⟩ := (hsound.findIds_ok_iff TableSpec.mem_all_texts).2
      fun id hid => (htext id hid).readable
    exact ⟨⟨terms, inLanguage, texts⟩, readRows_eq_ok_iff.2 ⟨hterms, hinLanguage, htexts⟩⟩

/-! ### Chains over what levels insert -/

section Levels

variable {spec other : TableSpec} {needed : List Record} {id : Int}
  {start first second last before middle : Databases} {terms : List (Term × Int)}

/-- What a level supplies is gained in one insert, or there was nothing to supply. -/
theorem Supplies.gains (h : Supplies spec needed before middle) (hspec : spec ∈ TableSpec.all)
    (htakes : ∀ record ∈ needed, spec.Takes record) (hsound : before.primary.Sound) :
    middle = before ∨
      before.primary.Gains spec (before.primary.absent spec needed) middle.primary := by
  rcases h.change with ⟨-, hsame⟩ | ⟨-, count, db, hinsert, rfl⟩
  · exact Or.inl hsame
  · exact Or.inr (hsound.gains hspec (takes_absent _ htakes) hinsert)

/-- Only the table of the records is changed. -/
theorem Supplies.others (h : Supplies spec needed before middle) (hspec : spec ∈ TableSpec.all)
    (htakes : ∀ record ∈ needed, spec.Takes record) (hsound : before.primary.Sound) (name : String)
    (hname : Storage.foldName name ≠ Storage.foldName spec.name) :
    middle.primary.table name = before.primary.table name := by
  rcases h.gains hspec htakes hsound with rfl | hgains
  · rfl
  · exact hgains.others name hname

/-- A level inserts texts into columns of texts, so these hold texts afterwards if they did before.
-/
theorem Supplies.textual (h : Supplies spec needed before middle) (hspec : spec ∈ TableSpec.all)
    (htakes : ∀ record ∈ needed, spec.Takes record) (hsound : before.primary.Sound)
    (htextual : before.primary.Textual) : middle.primary.Textual := by
  rcases h.gains hspec htakes hsound with rfl | hgains
  · exact htextual
  · exact hgains.textual hspec (takes_absent _ htakes) htextual

/-- A level breaks no chain, provided that the rows its records refer to can be followed: that is
what the level before it has seen to. -/
theorem Supplies.followed (h : Supplies spec needed before middle) (hspec : spec ∈ TableSpec.all)
    (htakes : ∀ record ∈ needed, spec.Takes record) (hsound : before.primary.Sound)
    (hnew : ∀ next first rest, spec.Refers next → .integer first :: rest ∈ needed →
      middle.primary.Followed next first)
    (hid : before.primary.Followed other id) : middle.primary.Followed other id := by
  rcases h.gains hspec htakes hsound with rfl | hgains
  · exact hid
  · exact hid.gains hgains hspec fun next first rest hrefers hmem =>
      hnew next first rest hrefers (List.mem_filter.1 hmem).1

/-- In every state between the levels text columns hold texts, and chains can be followed that could
be followed before. -/
theorem Climbs.followed (h : Climbs terms start first second last) (hsound : start.primary.Sound)
    (htextual : start.primary.Textual) {met : Databases}
    (hmet : met = start ∨ met = first ∨ met = second ∨ met = last) :
    met.primary.Textual ∧ ∀ spec id, start.primary.Followed spec id →
      met.primary.Followed spec id := by
  obtain ⟨hfirst, hsecond, hlast⟩ := h.onward hsound
  have htakes := takes_eraseDups (takes_textRecords terms)
  have htakes₁ := takes_eraseDups (takes_map_languageRecord first.primary terms)
  have htakes₂ := takes_eraseDups (takes_map_termRecord first.primary second.primary terms)
  have htextual₁ := h.texts.textual TableSpec.mem_all_texts htakes hsound htextual
  have htextual₂ := h.inLanguage.textual TableSpec.mem_all_textsInLanguage htakes₁ hfirst.sound
    htextual₁
  have htextual₃ := h.terms.textual TableSpec.mem_all_termsInLanguage htakes₂ hsecond.sound
    htextual₂
  -- texts refer to nothing, and each other level to the rows of the one before
  have hfollowed₁ : ∀ spec id, start.primary.Followed spec id → first.primary.Followed spec id := by
    intro spec id hid
    exact h.texts.followed TableSpec.mem_all_texts htakes hsound
      (fun _ _ _ hrefers _ => absurd hrefers TableSpec.not_refers_texts) hid
  have hfollowed₂ : ∀ spec id, first.primary.Followed spec id →
      second.primary.Followed spec id := by
    intro spec id hid
    refine h.inLanguage.followed TableSpec.mem_all_textsInLanguage htakes₁ hfirst.sound
      (fun next textId rest hrefers hmem => ?_) hid
    obtain rfl := TableSpec.refers_textsInLanguage_iff.1 hrefers
    obtain ⟨t, ht, hrecord⟩ := List.mem_map.1 (List.mem_eraseDups.1 hmem)
    obtain ⟨textId', htext, heq⟩ := h.exists_text hsound ht
    rw [heq, List.cons.injEq, Cell.integer.injEq] at hrecord
    rw [← hrecord.1]
    exact followed_text (hsecond.grows.has TableSpec.mem_all_texts htext).readable
  have hfollowed₃ : ∀ spec id, second.primary.Followed spec id →
      last.primary.Followed spec id := by
    intro spec id hid
    refine h.terms.followed TableSpec.mem_all_termsInLanguage htakes₂ hsecond.sound
      (fun next middleId rest hrefers hmem => ?_) hid
    obtain rfl := TableSpec.refers_termsInLanguage_iff.1 hrefers
    obtain ⟨t, ht, hrecord⟩ := List.mem_map.1 (List.mem_eraseDups.1 hmem)
    obtain ⟨middleId', hmiddle, heq⟩ := h.exists_middle hsound ht
    obtain ⟨textId, htext, heq'⟩ := h.exists_text hsound ht
    rw [heq, List.cons.injEq, Cell.integer.injEq] at hrecord
    rw [heq'] at hmiddle
    rw [← hrecord.1]
    exact followed_language (hlast.grows.has TableSpec.mem_all_textsInLanguage hmiddle)
      ((hsecond.trans hlast).grows.has TableSpec.mem_all_texts htext)
  rcases hmet with rfl | rfl | rfl | rfl
  · exact ⟨htextual, fun _ _ hid => hid⟩
  · exact ⟨htextual₁, hfollowed₁⟩
  · exact ⟨htextual₂, fun spec id hid => hfollowed₂ spec id (hfollowed₁ spec id hid)⟩
  · exact ⟨htextual₃, fun spec id hid =>
      hfollowed₃ spec id (hfollowed₂ spec id (hfollowed₁ spec id hid))⟩

end Levels

end Acquisition

end TermStore
