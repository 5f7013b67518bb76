import TermStore.Proofs.Addition
import TermStore.Proofs.Resolving

/-!
# The round trip

What was acquired comes back when its ids are resolved: each slot with its texts, cut to the limit
and without repetition. The two directions meet at batches that are stored (`Batch.Stored`): the
first phase leaves one, and from one the distinct terms are read back. Those terms have their rows
already, so to acquire them again changes nothing and gives the same ids.
-/

namespace TermStore

open Storage (TableSpec)

/-! ### The slots of a document that comes back -/

namespace Document

variable {d : Document} {kind : TermKind} {language : String}

/-- Labels and descriptions have one text at most. -/
def Single (d : Document) : Prop :=
  ∀ kind language, kind.holdsMany = false → (d.textsAt kind language).length ≤ 1

theorem single_empty : empty.Single := by
  intro kind language _
  cases kind <;> exact Nat.zero_le 1

theorem Single.insert (h : d.Single) (kind : TermKind) (language text : String) :
    (d.insert kind language text).Single := by
  intro other wanted hother
  unfold textsAt
  rw [get?_insert]
  split
  · next hslot =>
    rw [added, ← hslot.1, hother]
    exact Nat.le_refl 1
  · exact h other wanted hother

/-- The texts of a slot, cut to the limit, each once. -/
def cutTexts (d : Document) (limit : Nat) (kind : TermKind) (language : String) : List String :=
  ((d.textsAt kind language).map (Text.truncate limit)).eraseDups

/-- The document that comes back: the distinct terms, cut to the limit, that the filter keeps. -/
def returned (d : Document) (limit : Nat) (filter : ResolveFilter) : Document :=
  .ofTerms ((d.truncatedTerms limit).eraseDups.filter filter.keeps)

theorem Single.length_cutTexts_le (h : d.Single) (limit : Nat) (hkind : kind.holdsMany = false) :
    (d.cutTexts limit kind language).length ≤ 1 := by
  have hone := h kind language hkind
  rw [← List.length_map (Text.truncate limit)] at hone
  unfold cutTexts
  rw [eraseDups_of_length_le_one hone]
  exact hone

/-- The distinct terms of a slot are its distinct texts. -/
theorem filter_kept (d : Document) (limit : Nat) (filter : ResolveFilter) (kind : TermKind)
    (language : String) :
    (((d.truncatedTerms limit).eraseDups.filter filter.keeps).filter
        (Term.isOf kind language)).map Term.text =
      if filter.accepts kind language then d.cutTexts limit kind language else [] := by
  by_cases haccepts : filter.accepts kind language = true
  · have hkeeps : ((d.truncatedTerms limit).eraseDups.filter filter.keeps).filter
        (Term.isOf kind language) =
          ((d.truncatedTerms limit).filter (Term.isOf kind language)).eraseDups := by
      rw [List.filter_filter, ← filter_eraseDups]
      refine List.filter_congr fun term _ => ?_
      by_cases hslot : Term.isOf kind language term = true
      · obtain ⟨rfl, rfl⟩ := Term.isOf_iff.1 hslot
        rw [hslot, ResolveFilter.keeps, haccepts]
        rfl
      · rw [Bool.eq_false_iff.2 hslot, Bool.false_and]
    rw [if_pos haccepts, hkeeps, map_eraseDups, filter_truncatedTerms]
    · rfl
    · intro first hfirst second hsecond htext
      obtain ⟨hkind, hlanguage⟩ := Term.isOf_iff.1 (List.mem_filter.1 hfirst).2
      obtain ⟨hkind', hlanguage'⟩ := Term.isOf_iff.1 (List.mem_filter.1 hsecond).2
      cases first
      cases second
      simp_all only
  · rw [if_neg haccepts, List.map_eq_nil_iff, List.filter_eq_nil_iff]
    intro term hmem hslot
    obtain ⟨rfl, rfl⟩ := Term.isOf_iff.1 hslot
    exact haccepts (List.mem_filter.1 hmem).2

/-- An accepted slot comes back with what its texts come to. -/
theorem Single.get?_returned (h : d.Single) (limit : Nat) (filter : ResolveFilter) :
    (d.returned limit filter).get? kind language =
      if filter.accepts kind language then gathered kind (d.cutTexts limit kind language)
      else none := by
  unfold returned
  rw [get?_ofTerms fun hkind => ?_, filter_kept]
  · split
    · rfl
    · rfl
  · rw [← List.length_map Term.text, filter_kept]
    split
    · exact h.length_cutTexts_le limit hkind
    · exact Nat.zero_le 1

/-- With no filter, the terms that come back are those of the document, cut to the limit. -/
theorem Single.mem_truncatedTerms_returned (h : d.Single) {limit : Nat} {term : Term} :
    term ∈ (d.returned limit .all).truncatedTerms limit ↔ term ∈ d.truncatedTerms limit := by
  have htexts : (d.returned limit .all).textsAt term.kind term.language =
      d.cutTexts limit term.kind term.language := by
    unfold textsAt
    rw [h.get?_returned, if_pos (ResolveFilter.accepts_all term.kind term.language)]
    exact toList_gathered fun hkind => h.length_cutTexts_le limit hkind
  rw [mem_truncatedTerms_iff, mem_truncatedTerms_iff, htexts]
  unfold cutTexts
  constructor
  · rintro ⟨text, hmem, hterm⟩
    obtain ⟨whole, hwhole, rfl⟩ := List.mem_map.1 (List.mem_eraseDups.1 hmem)
    rw [Text.truncate_truncate] at hterm
    exact ⟨whole, hwhole, hterm⟩
  · rintro ⟨whole, hwhole, hterm⟩
    refine ⟨_, List.mem_eraseDups.2 (List.mem_map_of_mem hwhole), ?_⟩
    rw [Text.truncate_truncate]
    exact hterm

end Document

/-! ### Who tells the kinds later on -/

/-- The kinds are told later on by their store itself, or, if their ids are in the table, by any
store that has them there, with what it remembers of them, be it nothing. -/
inductive KindStore.Shares (final : Databases) : KindStore → KindStore → Databases → Prop
  | itself (store : KindStore) : Shares final store store final
  | inTable (read other : Side) (ids : KindIds)
      (h : (KindStore.inTable other .primary).Faithful { final with kindIds := ids }) :
      Shares final (.inTable read .primary) (.inTable other .primary) { final with kindIds := ids }

namespace KindStore

variable {store reader : KindStore} {final later : Databases} {batch : Batch}

theorem Shares.same (h : store.Shares final reader later) :
    later.primary = final.primary ∧ later.replica = final.replica := by
  cases h with
  | itself => exact ⟨rfl, rfl⟩
  | inTable => exact ⟨rfl, rfl⟩

/-- A batch that is stored stays so for whoever tells the kinds. -/
theorem Shares.stored (h : store.Shares final reader later) (hfaithful : store.Faithful final)
    (hleads : batch.Leads final.primary)
    (hkinds : ∀ acquired ∈ batch, final.kindIds.get? acquired.term.kind = some acquired.kindId) :
    batch.Stored reader later := by
  have hused : ∀ kind id, batch.Uses kind id → final.kindIds.get? kind = some id := by
    rintro kind id ⟨acquired, hmem, rfl, rfl⟩
    exact hkinds acquired hmem
  cases h with
  | itself => exact ⟨hleads, hfaithful.names hused⟩
  | inTable read other ids h =>
      exact ⟨hleads, .inTable other h.recorded fun kind id hkind =>
        hfaithful.recorded kind id (hused kind id hkind)⟩

end KindStore

/-! ### Acquiring again -/

namespace Acquisition

variable {kinds : KindStore} {read : Side} {limits : Limits} {document : Document}
  {start after : Databases} {batch : Batch}

/-- What is remembered of the kinds stays right. -/
theorem faithful_acquire (hkinds : kinds.Faithful start) (hsound : start.primary.Sound)
    (hlags : start.Lags)
    (hrun : (acquire read .primary kinds limits document).run Databases.handler start =
      (.ok batch, after)) : kinds.Faithful after := by
  by_cases hterms : document.truncatedTerms limits.textBytes = []
  · rw [acquire_nil hterms] at hrun
    cases hrun
    exact hkinds
  · obtain ⟨kindIds, middle, typed, ids, hkindIds, -, hids, -⟩ := (run_acquire_iff hterms).1 hrun
    have hmiddle := (hkinds.standard.acquired_of_run hlags hsound hkindIds).onward
    have hasks := asks_acquireTermIds
      (s := (Seeker.replicaFirst read .primary).withAttempts limits.attempts)
      (permits_properCall rfl) typed
    exact (hkinds.acquire hlags hsound hkindIds).onward
      (hasks.proper.onward_of_run hmiddle.sound hids) (hasks.kindIds_of_run hids)

/-- Where terms are stored already, they are acquired without a change, under the ids that they
have. -/
theorem exists_run_acquire_of_stored (hstored : batch.Stored kinds start) (hkinds : kinds.Standard)
    (hsound : start.primary.Sound) (hlags : start.Lags)
    (hknown : ∀ acquired ∈ batch, start.kindIds.get? acquired.term.kind = some acquired.kindId)
    (hterms : ∀ term ∈ document.truncatedTerms limits.textBytes,
      ∃ acquired ∈ batch, acquired.term = term) (read : Side) :
    ∃ again, (acquire read .primary kinds limits document).run Databases.handler start =
        (.ok again, start) ∧
      again.map AcquiredTerm.term = document.truncatedTerms limits.textBytes ∧
      ∀ acquired ∈ again, acquired ∈ batch := by
  obtain ⟨again, hrun⟩ : ∃ again,
      (acquire read .primary kinds limits document).run Databases.handler start =
        (.ok again, start) := by
    by_cases hempty : document.truncatedTerms limits.textBytes = []
    · rw [acquire_nil hempty]
      exact ⟨[], rfl⟩
    have hknow : start.kindIds.Know (usedKinds (document.truncatedTerms limits.textBytes)) := by
      intro kind hkind
      obtain ⟨term, hterm, rfl⟩ := mem_usedKinds.1 hkind
      obtain ⟨acquired, hmem, rfl⟩ := hterms term hterm
      rw [hknown acquired hmem]
      rfl
    have hselect : ∀ term ∈ document.truncatedTerms limits.textBytes,
        (start.kindIds.select (usedKinds (document.truncatedTerms limits.textBytes))).get?
          term.kind = start.kindIds.get? term.kind := by
      intro term hterm
      rw [KindIds.get?_select, if_pos (mem_usedKinds.2 ⟨term, hterm, rfl⟩)]
    obtain ⟨typed, htyped⟩ : ∃ typed, (document.truncatedTerms limits.textBytes).mapM
        (withKindId (start.kindIds.select
          (usedKinds (document.truncatedTerms limits.textBytes)))) = .ok typed := by
      refine exists_mapM_eq_ok fun term hterm => ?_
      obtain ⟨acquired, hmem, hsame⟩ := hterms term hterm
      refine ⟨(term, acquired.kindId), withKindId_eq_ok_iff.2 ⟨rfl, ?_⟩⟩
      rw [hselect term hterm, ← hsame]
      exact hknown acquired hmem
    have hleads : ∀ t ∈ typed, ∃ id, start.primary.LeadsTo id t.2 t.1.language t.1.text := by
      intro t ht
      obtain ⟨term, hterm, hkind⟩ := mem_of_mapM_eq_ok htyped ht
      obtain ⟨rfl, hid⟩ := withKindId_eq_ok_iff.1 hkind
      obtain ⟨acquired, hmem, hsame⟩ := hterms t.1 hterm
      rw [hselect t.1 hterm, ← hsame, hknown acquired hmem] at hid
      rw [← hsame, ← Option.some.inj hid]
      exact ⟨acquired.id, hstored.leads acquired hmem⟩
    obtain ⟨ids, hids⟩ := (climbs_of_leads hsound hleads).exists_run
      (s := (Seeker.replicaFirst read .primary).withAttempts limits.attempts)
      (fun side _ => hlags.follows hsound side) rfl (Nat.le_max_left 1 _) hsound
    exact ⟨_, (run_acquire_iff hempty).2
      ⟨_, start, typed, ids, hkinds.run_acquire_of_know hknow, htyped, hids, rfl⟩⟩
  have hagain := (yields_acquire read .primary kinds limits document).run hrun
  obtain ⟨_, _, _, hlifts⟩ := exists_lifts hkinds hsound hlags hrun
  refine ⟨again, hrun, hagain, fun acquired hmem => ?_⟩
  obtain ⟨known, hknownMem, hsame⟩ :=
    hterms acquired.term (hagain ▸ List.mem_map_of_mem hmem)
  -- the occurrence and the one that is known have one term, so they have one id of its kind
  have hkindId := hlifts.kindIds acquired hmem
  rw [← hsame, hknown known hknownMem] at hkindId
  have hleads := hlifts.leads acquired hmem
  rw [← hsame, ← Option.some.inj hkindId] at hleads
  have hid := hsound.leadsTo_unique (hstored.leads known hknownMem) hleads
  have heq : acquired = known := by
    cases acquired
    cases known
    simp_all
  exact heq ▸ hknownMem

/-! ### There and back -/

/-- What comes of resolving ids, and of acquiring what was resolved again. -/
structure ComesBack (limits : Limits) (document : Document) (filter : ResolveFilter)
    (reader : KindStore) (ids : List Int) (later : Databases) (side : Side) (resolved : Document)
    (after : Databases) : Prop where
  run : (Resolution.resolve side .primary reader filter ids).run Databases.handler later =
    (.ok resolved, after)
  /-- The databases stay as they are. -/
  primary : after.primary = later.primary
  replica : after.replica = later.replica
  /-- An accepted slot holds its texts, cut to the limit and each once, and other slots are empty:
  aliases are a list of texts, and labels and descriptions are single ones. -/
  slots : ∀ kind language, resolved.get? kind language =
    if filter.accepts kind language then
      Document.gathered kind
        ((document.textsAt kind language).map (Text.truncate limits.textBytes)).eraseDups
    else none
  /-- No kind is mentioned without a text. -/
  compact : resolved.Compact
  /-- With no filter, what was resolved has its rows already, and the same ids. -/
  again : filter = .all → ∀ (limits' : Limits) (read : Side), limits'.textBytes = limits.textBytes →
    ∃ batch, (acquire read .primary reader limits' resolved).run Databases.handler after =
        (.ok batch, after) ∧
      (finalize .primary limits' batch).run Databases.handler after = (.ok batch.ids, after) ∧
      ∀ id, id ∈ batch.ids ↔ id ∈ ids

/-- What was acquired comes back. -/
theorem acquired_comes_back (hkinds : kinds.Faithful start) (read : Side) (limits : Limits)
    (document : Document) (hsingle : document.Single) (hsound : start.primary.Sound)
    (hlags : start.Lags)
    (hacquire : (acquire read .primary kinds limits document).run Databases.handler start =
      (.ok batch, after))
    {ids : List Int} {final : Databases}
    (hfinalize : (finalize .primary limits batch).run Databases.handler after = (.ok ids, final))
    {reader : KindStore} {later : Databases} (hreader : kinds.Shares final reader later)
    (side : Side) (filter : ResolveFilter) :
    ∃ resolved last, ComesBack limits document filter reader ids later side resolved last := by
  have honward := (asks_acquire hkinds.standard read limits document).onward_of_run hsound hacquire
  obtain ⟨_, _, _, hlifts⟩ := exists_lifts hkinds.standard hsound hlags hacquire
  -- the second phase keeps the ids
  rw [run_finalize_of_leads honward.sound hlifts.leads limits] at hfinalize
  cases hfinalize
  have hterms := (yields_acquire read .primary kinds limits document).run hacquire
  have hstored := hreader.stored (faithful_acquire hkinds hsound hlags hacquire) hlifts.leads
    hlifts.kindIds
  obtain ⟨hprimary, hreplica⟩ := hreader.same
  have hsound' : later.primary.Sound := hprimary ▸ honward.sound
  have hlags' : later.Lags := by
    unfold Databases.Lags
    rw [hreplica, hprimary]
    exact hlags.onward honward
  obtain ⟨kindIds, hrun, hfaithful, hknown⟩ :=
    Resolution.exists_run_resolve hstored hsound' hlags' side filter
  rw [hterms] at hrun
  refine ⟨document.returned limits.textBytes filter, { later with kindIds := kindIds },
    { run := hrun
      primary := rfl
      replica := rfl
      slots := fun kind language => hsingle.get?_returned limits.textBytes filter
      compact := Document.compact_ofTerms _
      again := ?_ }⟩
  rintro rfl limits' again hlimit
  have hstored' : batch.Stored reader { later with kindIds := kindIds } := by
    refine ⟨hstored.leads, hfaithful.names ?_⟩
    rintro kind id ⟨acquired, hmem, rfl, rfl⟩
    exact hknown acquired hmem
  have hmem : ∀ term, term ∈ (document.returned limits.textBytes .all).truncatedTerms
      limits'.textBytes ↔ ∃ acquired ∈ batch, acquired.term = term := by
    intro term
    rw [hlimit, hsingle.mem_truncatedTerms_returned, ← hterms, List.mem_map]
  obtain ⟨batch', hagain, hterms', hsub⟩ := exists_run_acquire_of_stored hstored'
    hfaithful.standard hsound' hlags' hknown (fun term => (hmem term).1) again
  have hfinal : (finalize .primary limits' batch').run Databases.handler
      { later with kindIds := kindIds } = (.ok batch'.ids, { later with kindIds := kindIds }) := by
    refine run_finalize_of_leads ?_ (fun acquired hacquired => ?_) limits'
    · exact hsound'
    · exact hstored.leads acquired (hsub acquired hacquired)
  refine ⟨batch', hagain, hfinal, fun id => ⟨fun hid => ?_, fun hid => ?_⟩⟩
  · obtain ⟨acquired, hacquired, rfl⟩ := List.mem_map.1 hid
    exact List.mem_map_of_mem (hsub acquired hacquired)
  · obtain ⟨acquired, hacquired, rfl⟩ := List.mem_map.1 hid
    obtain ⟨found, hfound, hsame⟩ := List.mem_map.1
      (hterms' ▸ (hmem acquired.term).2 ⟨acquired, hacquired, rfl⟩)
    rw [← hstored.eq_of_term_eq hsound' (hsub found hfound) hacquired hsame]
    exact List.mem_map_of_mem hfound

/-- A label in two languages, and aliases two of which are one when they are cut. -/
def spree : Document :=
  ((Document.empty.withLabel "de" "Berlin").withLabel "en" "Berlin").withAliases "en"
    ["Athens on the Spree", "Spree-Athen", "Athens of the North"]

/-- The texts are cut to six bytes. -/
def spreeBatch : Batch :=
  [⟨⟨.label, "de", "Berlin"⟩, 1, 2⟩, ⟨⟨.label, "en", "Berlin"⟩, 1, 1⟩,
    ⟨⟨.aliases, "en", "Athens"⟩, 2, 3⟩, ⟨⟨.aliases, "en", "Spree-"⟩, 2, 4⟩,
    ⟨⟨.aliases, "en", "Athens"⟩, 2, 3⟩]

/-- The databases after the first phase, with the kinds in the table. -/
def spreeAcquired : Databases :=
  ((acquire .replica .primary (.inTable .replica .primary) ⟨6, 5⟩ spree).run Databases.handler
    unheardLabel).2

/-- The databases after both phases. -/
def spreeStored : Databases :=
  ((finalize .primary ⟨6, 5⟩ spreeBatch).run Databases.handler spreeAcquired).2

/-- A process that remembers nothing resolves what another one acquired, all of it or only what is
in English. -/
theorem spree_comes_back :
    ((acquire .replica .primary (.inTable .replica .primary) ⟨6, 5⟩ spree).run Databases.handler
      unheardLabel).1 = .ok spreeBatch ∧
    ((finalize .primary ⟨6, 5⟩ spreeBatch).run Databases.handler spreeAcquired).1 =
      .ok [2, 1, 3, 4, 3] ∧
    (∃ resolved last, ComesBack ⟨6, 5⟩ spree .all (.inTable .replica .primary) [2, 1, 3, 4, 3]
      { spreeStored with kindIds := .none } .replica resolved last) ∧
    ∃ resolved last, ComesBack ⟨6, 5⟩ spree ⟨[], ["en"]⟩ (.inTable .replica .primary)
        [2, 1, 3, 4, 3] { spreeStored with kindIds := .none } .replica resolved last ∧
      resolved.get? .label "en" = some (.single "Berlin") ∧
      resolved.get? .aliases "en" = some (.several ["Athens", "Spree-"]) ∧
      ∀ kind, resolved.get? kind "de" = none := by
  have hacquire : ((acquire .replica .primary (.inTable .replica .primary) ⟨6, 5⟩ spree).run
      Databases.handler unheardLabel).1 = .ok spreeBatch := by decide +kernel
  have hfinalize : ((finalize .primary ⟨6, 5⟩ spreeBatch).run Databases.handler
      spreeAcquired).1 = .ok [2, 1, 3, 4, 3] := by decide +kernel
  have hsingle : spree.Single := ((((Document.single_empty.insert .label "de" "Berlin").insert
    .label "en" "Berlin").insert .aliases "en" "Athens on the Spree").insert .aliases "en"
      "Spree-Athen").insert .aliases "en" "Athens of the North"
  have hreader : (KindStore.inTable .replica .primary).Faithful
      { spreeStored with kindIds := .none } := KindStore.faithful_of_none (.inTable .replica) rfl
  have hacquired : (acquire .replica .primary (.inTable .replica .primary) ⟨6, 5⟩ spree).run
      Databases.handler unheardLabel = (.ok spreeBatch, spreeAcquired) := by
    unfold spreeAcquired
    exact Prod.fst_eq_iff.1 hacquire
  have hfinal : (finalize .primary ⟨6, 5⟩ spreeBatch).run Databases.handler spreeAcquired =
      (.ok [2, 1, 3, 4, 3], spreeStored) := by
    unfold spreeStored
    exact Prod.fst_eq_iff.1 hfinalize
  have hback := acquired_comes_back (KindStore.faithful_of_none (.inTable .replica) rfl) .replica
    ⟨6, 5⟩ spree hsingle sound_unheardLabel lags_unheardLabel hacquired hfinal
    (.inTable .replica .replica .none hreader) .replica
  obtain ⟨resolved, last, henglish⟩ := hback ⟨[], ["en"]⟩
  refine ⟨hacquire, hfinalize, hback .all, resolved, last, henglish, ?_, ?_, fun kind => ?_⟩
  · rw [henglish.slots]
    decide +kernel
  · rw [henglish.slots]
    decide +kernel
  · rw [henglish.slots, if_neg]
    simp [ResolveFilter.accepts_iff]

end Acquisition

end TermStore
