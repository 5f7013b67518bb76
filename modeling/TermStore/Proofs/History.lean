import TermStore.Proofs.Join
import TermStore.Proofs.Requests
import Mathlib.Data.Prod.Basic
import Mathlib.Logic.Relation

/-!
# The history of ids

On a primary that starts with fresh tables, calls of both phases come and go in any number and
order, each answered by the primary request by request and by the replica in whatever way, and each
may fail at any time; and a cleaner removes any rows at any time. Rows may dangle, and what was
inserted may be gone again; but a number, once given, is given to no other row. So an id never means
two records, nor the join two terms for it, at whatever times one looks.
-/

namespace TermStore

open Storage (TableSpec Table Record RecordIds Cell Database Row)

/-! ### Removing rows -/

namespace Storage

namespace Table

variable {t t' : Table} {spec : TableSpec}

/-- A table has lost rows, and nothing else has changed. -/
def Loses (t t' : Table) : Prop :=
  ∃ rows, t' = { t with rows := rows } ∧
    ∀ id values, rows.get? id = some values → t.rows.get? id = some values

theorem Loses.later (h : t.Loses t') : t.Later t' := by
  obtain ⟨rows, rfl, hrows⟩ := h
  exact ⟨rfl, fun counter hcounter => ⟨counter, hcounter, Int.le_refl counter⟩,
    fun id values hget => Or.inl (hrows id values hget)⟩

theorem Loses.sound (h : t.Loses t') (hsound : t.Sound spec) : t'.Sound spec := by
  obtain ⟨rows, rfl, hrows⟩ := h
  refine ⟨hsound.named, Alike.keeps (t := t) rfl hsound.keeps, ?_⟩
  intro index hindex hunique x hx y hy hagree
  have hold : ∀ {row : Row}, row ∈ rows.entries → row ∈ t.rows.entries := fun hrow =>
    SortedMap.mem_entries_iff.2 (hrows _ _ (SortedMap.mem_entries_iff.1 hrow))
  exact hsound.unique index hindex hunique x (hold hx) y (hold hy) hagree

theorem Loses.typed (h : t.Loses t') (htyped : t.Typed spec) : t'.Typed spec := by
  obtain ⟨rows, rfl, hrows⟩ := h
  exact fun id values hget => htyped id values (hrows id values hget)

theorem Loses.remembers (h : t.Loses t') (hremembers : t.Remembers) : t'.Remembers := by
  obtain ⟨rows, rfl, hrows⟩ := h
  obtain ⟨counter, hcounter, hle⟩ := hremembers
  exact ⟨counter, hcounter, fun id values hget => hle id values (hrows id values hget)⟩

end Table

namespace Database

variable {db db' : Database} {spec : TableSpec} {t t' : Table}

theorem loses_of_clear (hspec : spec ∈ TableSpec.all) (htable : db.table spec.name = .ok t)
    (hnamed : foldName t.name = foldName spec.name) (hclear : db.clear spec.name = .ok db') :
    db.Changes Table.Loses spec db' := by
  have hordinary : ∀ spec ∈ TableSpec.all, isSchemaName spec.name = false ∧
      sameName spec.name countersName = false := by decide +kernel
  obtain ⟨hschema, hcounters⟩ := hordinary spec hspec
  unfold clear at hclear
  rw [hschema, hcounters, htable] at hclear
  cases hwritable : db.checkWritable with
  | error fault => rw [hwritable] at hclear; cases hclear
  | ok _ =>
      rw [hwritable] at hclear
      obtain rfl := (Except.ok.inj hclear).symm
      refine changes_setTable htable hnamed ⟨.empty, rfl, fun id values hget => ?_⟩
      rw [SortedMap.get?_empty] at hget
      cases hget

/-- A delete takes rows from one table. -/
theorem loses_of_delete (hsound : db.Sound) (hspec : spec ∈ TableSpec.all)
    {ids : Option (List Int)} (hdelete : db.delete spec ids = .ok db') :
    db.Changes Table.Loses spec db' := by
  obtain ⟨t, htable, hnamed, hkeeps, -⟩ := hsound spec hspec
  cases ids with
  | none => exact loses_of_clear hspec htable hnamed hdelete
  | some ids =>
      cases ids with
      | nil =>
          -- no ids, no statement
          cases hdelete
          exact ⟨⟨t, t, htable, htable, t.rows, rfl, fun _ _ h => h⟩, fun _ _ => rfl⟩
      | cons id rest =>
          unfold delete at hdelete
          rw [htable] at hdelete
          cases hslot : t.column spec.idColumn with
          | error fault =>
              simp only [hslot, bind, Except.bind, reduceCtorEq] at hdelete
          | ok slot =>
              cases hwritable : db.checkWritable with
              | error fault =>
                  simp only [hslot, hwritable, bind, Except.bind, reduceCtorEq] at hdelete
              | ok _ =>
                  simp only [hslot, hwritable, bind, Except.bind, pure, Except.pure,
                    Except.ok.injEq] at hdelete
                  obtain rfl := hdelete.symm
                  refine changes_setTable htable hnamed ⟨_, rfl, fun id values hget => ?_⟩
                  exact (SortedMap.get?_filter_eq_some.1 hget).1

end Database

/-! ### Databases at two times -/

namespace Database

variable {db db' : Database} {spec : TableSpec} {id : Int}

/-- All tables know a number that none of their rows is above. -/
abbrev Remembers (db : Database) : Prop := db.Each fun _ t => t.Remembers

/-- A later state of the four tables, in which what is new has numbers that are new. -/
abbrev Later (db db' : Database) : Prop := db.Evolves Table.Later db'

/-- A row that is there at two times holds one record. -/
theorem Later.has_functional (h : db.Later db') (hremembers : db.Remembers)
    (hspec : spec ∈ TableSpec.all) {record record' : Record} (hhas : db.Has spec id record)
    (hhas' : db'.Has spec id record') : record = record' := by
  obtain ⟨t, htable, values, hget, hcells⟩ := hhas
  obtain ⟨t', htable', values', hget', hcells'⟩ := hhas'
  obtain ⟨after, hafter, hlater⟩ := Evolves.of_table h hspec htable
  obtain rfl := Except.ok.inj (htable'.symm.trans hafter)
  obtain ⟨counter, hcounter, hle⟩ := Each.of_table hremembers hspec htable
  rcases hlater.rows id values' hget' with hsame | habove
  · rw [hlater.alike.cells] at hcells'
    exact Table.Has.functional ⟨values, hget, hcells⟩ ⟨values', hsame, hcells'⟩
  · -- a new row's number is above the counter, and this one is not
    have := habove counter hcounter
    have := hle id values hget
    omega

/-- An id that leads to terms at two times leads to one term. -/
theorem Later.leadsTo_functional (h : db.Later db') (hremembers : db.Remembers)
    {kindId kindId' : Int} {language language' text text' : String}
    (hleads : db.LeadsTo id kindId language text)
    (hleads' : db'.LeadsTo id kindId' language' text') :
    kindId = kindId' ∧ language = language' ∧ text = text' := by
  obtain ⟨middleId, textId, hterm, hmiddle, htext⟩ := hleads
  obtain ⟨middleId', textId', hterm', hmiddle', htext'⟩ := hleads'
  have hterms := h.has_functional hremembers TableSpec.mem_all_termsInLanguage hterm hterm'
  simp only [List.cons.injEq, Cell.integer.injEq, and_true] at hterms
  obtain ⟨rfl, rfl⟩ := hterms
  have hmiddles := h.has_functional hremembers TableSpec.mem_all_textsInLanguage hmiddle hmiddle'
  simp only [List.cons.injEq, Cell.integer.injEq, Cell.text.injEq, and_true] at hmiddles
  obtain ⟨rfl, rfl⟩ := hmiddles
  have htexts := h.has_functional hremembers TableSpec.mem_all_texts htext htext'
  simp only [List.cons.injEq, Cell.text.injEq, and_true] at htexts
  exact ⟨rfl, rfl, htexts⟩

end Database

end Storage

/-! ### Calls that come and go -/

/-- A primary and the calls under way on it. -/
structure Site where
  primary : Database
  calls : List (Dialog Unit)

/-- A call whose result nobody waits for. -/
def Dialog.call {α : Type} (d : Dialog α) : Dialog Unit := d.bind fun _ => .done ()

/-- A call goes on: the primary answers what it is asked, and anything else is answered in any
way. -/
inductive Dialog.Answered (primary : Database) : Dialog Unit → Dialog Unit → Database → Prop
  | told {event : Event} {rest : Dialog Unit} : Answered primary (.note event rest) rest primary
  | primary {r : Request} {rest : Reply r → Dialog Unit} {kindIds : KindIds} {reply : Reply r}
      {after : Databases} (hr : r.OnPrimary)
      (hreply : Databases.reply r ⟨primary, none, kindIds⟩ = (.ok reply, after)) :
      Answered primary (.ask r rest) (rest reply) after.primary
  | elsewhere {r : Request} {rest : Reply r → Dialog Unit} (hr : ¬ r.OnPrimary)
      (reply : Reply r) : Answered primary (.ask r rest) (rest reply) primary

namespace Site

/-- What can happen next. A call whose request fails is dropped, whether or not the request was
carried out. -/
inductive Step : Site → Site → Prop
  | acquire {primary : Database} {calls : List (Dialog Unit)} {kinds : KindStore}
      (hkinds : kinds.Standard) (read : Side) (limits : Limits) (document : Document) :
      Step ⟨primary, calls⟩
        ⟨primary, (Acquisition.acquire read .primary kinds limits document).call :: calls⟩
  | finalize {primary : Database} {calls : List (Dialog Unit)} (limits : Limits) (batch : Batch) :
      Step ⟨primary, calls⟩ ⟨primary, (Acquisition.finalize .primary limits batch).call :: calls⟩
  | answer {primary primary' : Database} {before later : List (Dialog Unit)}
      {call next : Dialog Unit} (h : call.Answered primary next primary') :
      Step ⟨primary, before ++ call :: later⟩ ⟨primary', before ++ next :: later⟩
  | drop {primary : Database} {before later : List (Dialog Unit)} {call : Dialog Unit} :
      Step ⟨primary, before ++ call :: later⟩ ⟨primary, before ++ later⟩
  | delete {primary primary' : Database} {calls : List (Dialog Unit)} {spec : TableSpec}
      {ids : Option (List Int)} (hspec : spec ∈ TableSpec.all)
      (h : primary.delete spec ids = .ok primary') : Step ⟨primary, calls⟩ ⟨primary', calls⟩

/-- The states that can follow one, at once or later. -/
abbrev Leads : Site → Site → Prop := Relation.ReflTransGen Step

/-- What is true at all times. -/
structure Fine (s : Site) : Prop where
  sound : s.primary.Sound
  typed : s.primary.Typed
  remembers : s.primary.Remembers
  asks : ∀ call ∈ s.calls, call.Asks Request.Proper

theorem fine_of_fresh {s : Site} (hfresh : s.primary.Fresh) (hcalls : s.calls = []) : s.Fine where
  sound := hfresh.sound
  typed := hfresh.typed
  remembers spec hspec := by
    obtain ⟨t, htable, hfresh⟩ := hfresh spec hspec
    exact ⟨t, htable, hfresh.remembers⟩
  asks call hmem := by
    rw [hcalls] at hmem
    cases hmem

/-- A change of one table that keeps it in order, and makes a later state of it, does so for the
primary. -/
theorem Fine.changes {R : Table → Table → Prop} {s : Site} (h : s.Fine) {spec : TableSpec}
    (hspec : spec ∈ TableSpec.all) {primary' : Database}
    (hchanges : s.primary.Changes R spec primary')
    (hsound : ∀ {t t'}, R t t' → t.Sound spec → t'.Sound spec)
    (htyped : ∀ {t t'}, R t t' → t.Typed spec → t'.Typed spec)
    (hremembers : ∀ {t t'}, R t t' → t.Remembers → t'.Remembers)
    (hlater : ∀ {t t'}, R t t' → t.Later t') :
    primary'.Sound ∧ primary'.Typed ∧ primary'.Remembers ∧ s.primary.Later primary' :=
  ⟨hchanges.each hspec h.sound fun hP hR => hsound hR hP,
    hchanges.each hspec h.typed fun hP hR => htyped hR hP,
    hchanges.each hspec h.remembers fun hP hR => hremembers hR hP,
    hchanges.evolves h.sound hspec Table.Later.refl hlater⟩

theorem Fine.later_refl {s : Site} (h : s.Fine) : s.primary.Later s.primary :=
  Database.Each.evolves h.sound Table.Later.refl

/-- A reply of the primary changes it in an orderly way. -/
theorem Fine.reply {s : Site} (h : s.Fine) {r : Request} (hr : r.Proper) {kindIds : KindIds}
    {outcome : Except Failure (Reply r)} {after : Databases}
    (hreply : Databases.reply r ⟨s.primary, none, kindIds⟩ = (outcome, after)) :
    after.primary.Sound ∧ after.primary.Typed ∧ after.primary.Remembers ∧
      s.primary.Later after.primary := by
  have hcases : (Databases.reply r ⟨s.primary, none, kindIds⟩).2.primary = s.primary ∨ _ :=
    (Databases.reply_cases hr h.sound).2
  rw [hreply] at hcases
  rcases hcases with hsame | ⟨spec, hspec, records, htakes, hgains⟩
  · rw [hsame]
    exact ⟨h.sound, h.typed, h.remembers, h.later_refl⟩
  · exact h.changes hspec hgains (fun hgain => hgain.sound) (fun hgain => hgain.typed htakes)
      (fun hgain => hgain.remembers) fun hgain => hgain.later

theorem Fine.answer {s : Site} (h : s.Fine) {call next : Dialog Unit} {primary' : Database}
    (hcall : call.Asks Request.Proper) (hanswer : call.Answered s.primary next primary') :
    next.Asks Request.Proper ∧ primary'.Sound ∧ primary'.Typed ∧ primary'.Remembers ∧
      s.primary.Later primary' := by
  cases hanswer with
  | told => exact ⟨hcall, h.sound, h.typed, h.remembers, h.later_refl⟩
  | primary hr hreply => exact ⟨hcall.2 _, h.reply hcall.1 hreply⟩
  | elsewhere hr reply => exact ⟨hcall.2 reply, h.sound, h.typed, h.remembers, h.later_refl⟩

/-- A step keeps everything in order, and leads to a later state of the primary. -/
theorem Fine.step {s s' : Site} (h : s.Fine) (hstep : Step s s') :
    s'.Fine ∧ s.primary.Later s'.primary := by
  cases hstep with
  | acquire hkinds read limits document =>
      refine ⟨⟨h.sound, h.typed, h.remembers, fun call hmem => ?_⟩, h.later_refl⟩
      rcases List.mem_cons.1 hmem with rfl | hmem
      · exact (Acquisition.asks_acquire hkinds read limits document).bind fun _ => trivial
      · exact h.asks call hmem
  | finalize limits batch =>
      refine ⟨⟨h.sound, h.typed, h.remembers, fun call hmem => ?_⟩, h.later_refl⟩
      rcases List.mem_cons.1 hmem with rfl | hmem
      · exact (Acquisition.asks_finalize_proper limits batch).bind fun _ => trivial
      · exact h.asks call hmem
  | @answer primary primary' before later call next hanswer =>
      have hcall := h.asks call (List.mem_append_right _ List.mem_cons_self)
      obtain ⟨hnext, hsound, htyped, hremembers, hlater⟩ := h.answer hcall hanswer
      refine ⟨⟨hsound, htyped, hremembers, fun other hmem => ?_⟩, hlater⟩
      rcases List.mem_append.1 hmem with hmem | hmem
      · exact h.asks other (List.mem_append_left _ hmem)
      · rcases List.mem_cons.1 hmem with rfl | hmem
        · exact hnext
        · exact h.asks other (List.mem_append_right _ (List.mem_cons_of_mem _ hmem))
  | drop =>
      refine ⟨⟨h.sound, h.typed, h.remembers, fun other hmem => ?_⟩, h.later_refl⟩
      rcases List.mem_append.1 hmem with hmem | hmem
      · exact h.asks other (List.mem_append_left _ hmem)
      · exact h.asks other (List.mem_append_right _ (List.mem_cons_of_mem _ hmem))
  | delete hspec hdelete =>
      obtain ⟨hsound, htyped, hremembers, hlater⟩ := h.changes hspec
        (Database.loses_of_delete h.sound hspec hdelete) Table.Loses.sound Table.Loses.typed
        Table.Loses.remembers Table.Loses.later
      exact ⟨⟨hsound, htyped, hremembers, h.asks⟩, hlater⟩

theorem Fine.leads {s s' : Site} (h : s.Fine) (hleads : Leads s s') :
    s'.Fine ∧ s.primary.Later s'.primary := by
  induction hleads with
  | refl => exact ⟨h, h.later_refl⟩
  | tail _ hstep ih =>
      obtain ⟨hfine, hlater⟩ := ih.1.step hstep
      exact ⟨hfine, Database.Evolves.trans Table.Later.trans ih.2 hlater⟩

/-- A call that is carried on alone to its end is a way for things to go. -/
theorem leads_of_run {d : Dialog Unit} (hd : d.Asks Request.Proper) {primary : Database}
    (hsound : primary.Sound) {kindIds : KindIds} {after : Databases} {calls : List (Dialog Unit)}
    (hrun : d.run Databases.handler ⟨primary, none, kindIds⟩ = (.ok (), after)) :
    Leads ⟨primary, d :: calls⟩ ⟨after.primary, .done () :: calls⟩ := by
  induction d generalizing primary kindIds with
  | done result =>
      obtain rfl := (Prod.mk.inj hrun).2
      exact .refl
  | fail failure => cases hrun
  | note event rest ih =>
      exact .head (@Step.answer _ _ [] calls _ _ .told) (ih hd hsound hrun)
  | ask r rest ih =>
      simp only [Dialog.run, Databases.handler] at hrun
      rcases hreply : Databases.reply r ⟨primary, none, kindIds⟩ with ⟨outcome, middle⟩
      rw [hreply] at hrun
      obtain ⟨hreplica, hcases⟩ : (Databases.reply r ⟨primary, none, kindIds⟩).2.replica = none ∧
        ((Databases.reply r ⟨primary, none, kindIds⟩).2.primary = primary ∨ _) :=
          Databases.reply_cases hd.1 hsound
      rw [hreply] at hreplica hcases
      have hmiddle : middle = ⟨middle.primary, none, middle.kindIds⟩ := by rw [← hreplica]
      have hsound' : middle.primary.Sound := by
        rcases hcases with hsame | ⟨spec, hspec, records, -, hgains⟩
        · rw [hsame]
          exact hsound
        · exact hgains.sound hsound hspec
      cases outcome with
      | error failure => cases hrun
      | ok reply =>
          rw [hmiddle] at hrun
          have hrest := ih reply (hd.2 reply) hsound' hrun
          -- a reply from elsewhere may be any, so it may be this one
          by_cases hr : r.OnPrimary
          · exact .head (@Step.answer _ _ [] calls _ _ (.primary hr hreply)) hrest
          · have hsame : (Databases.reply r ⟨primary, none, kindIds⟩).2.primary = primary :=
              Databases.reply_elsewhere hd.1 hr
            rw [hreply] at hsame
            rw [hsame] at hrest
            exact .head (@Step.answer _ _ [] calls _ _ (.elsewhere hr reply)) hrest

end Site

/-- Whatever calls come and go, fail or are dropped, and whatever rows are removed: of two moments
in the history of a primary that started with fresh tables, an id of a table is at both of them that
of one record, if it is there; at each moment every row holds a record and no two rows hold the
same; and the join, which always goes through, finds for an id the same term at both moments, if it
finds any. -/
theorem ids_never_reused {start s s' : Site} (hfresh : start.primary.Fresh)
    (hcalls : start.calls = []) (hs : Site.Leads start s) (hs' : Site.Leads s s') :
    (∀ spec ∈ TableSpec.all, ∀ id record record', s.primary.Has spec id record →
      s'.primary.Has spec id record' → record = record') ∧
    s.primary.Typed ∧
    (∀ spec ∈ TableSpec.all, ∀ record id id', s.primary.Has spec id record →
      s.primary.Has spec id' record → id = id') ∧
    (∀ ids, ∃ found, s.primary.chains ids = .ok found) ∧
    ∀ ids ids' found found' id chain chain', s.primary.chains ids = .ok found →
      s'.primary.chains ids' = .ok found' → found.get? id = some chain →
      found'.get? id = some chain' → chain' = chain := by
  obtain ⟨hfine, -⟩ := (Site.fine_of_fresh hfresh hcalls).leads hs
  obtain ⟨hfine', hlater⟩ := hfine.leads hs'
  refine ⟨fun spec hspec id record record' => hlater.has_functional hfine.remembers hspec,
    hfine.typed, fun spec hspec record id id' => hfine.sound.has_unique hspec, fun ids => ?_, ?_⟩
  · obtain ⟨found, hfound, -⟩ := Database.exists_chains hfine.sound hfine.typed ids
    exact ⟨found, hfound⟩
  · intro ids ids' found found' id chain chain' hchains hchains' hget hget'
    obtain ⟨_, hfound, hiff⟩ := Database.exists_chains hfine.sound hfine.typed ids
    obtain rfl := Except.ok.inj (hchains.symm.trans hfound)
    obtain ⟨_, hfound', hiff'⟩ := Database.exists_chains hfine'.sound hfine'.typed ids'
    obtain rfl := Except.ok.inj (hchains'.symm.trans hfound')
    have hleads := ((hiff id chain).1 hget).2
    have hleads' := ((hiff' id chain').1 hget').2
    obtain ⟨hkind, hlanguage, htext⟩ := hlater.leadsTo_functional hfine.remembers hleads hleads'
    cases chain
    cases chain'
    simp only [Database.Chain.mk.injEq]
    exact ⟨hkind.symm, hlanguage.symm, htext.symm⟩

/-- A call for one label. -/
def labelCall : Dialog Unit :=
  (Acquisition.acquire .replica .primary .inMemory .default
    (Document.empty.withLabel "en" "Berlin")).call

/-- A database after that call. -/
def labelled (db : Database) : Database :=
  (labelCall.run Databases.handler ⟨db, none, .none⟩).2.primary

/-- A database after all texts were removed. -/
def withoutTexts (db : Database) : Database := (db.delete .texts none).toOption.getD db

/-- A label is stored, its text is removed, and it is stored again: all three ids are new. -/
theorem removed_label_gets_new_ids :
    ((labelled Database.empty.migrate.database).chains [1, 2]).toOption.map SortedMap.entries =
      some [(1, ⟨1, "en", "Berlin"⟩)] ∧
    ((labelled (withoutTexts (labelled Database.empty.migrate.database))).chains
      [1, 2]).toOption.map SortedMap.entries = some [(2, ⟨1, "en", "Berlin"⟩)] ∧
    ∀ spec ∈ TableSpec.all, ∀ id record record',
      (labelled Database.empty.migrate.database).Has spec id record →
      (labelled (withoutTexts (labelled Database.empty.migrate.database))).Has spec id record' →
      record = record' := by
  rw [Database.migrate_empty]
  have hasks : labelCall.Asks Request.Proper :=
    (Acquisition.asks_acquire .inMemory .replica _ _).bind fun _ => trivial
  have hlabel : ∀ {db : Database} {calls : List (Dialog Unit)}, db.Sound →
      (labelCall.run Databases.handler ⟨db, none, .none⟩).1 = .ok () →
      Site.Leads ⟨db, calls⟩ ⟨labelled db, .done () :: calls⟩ := fun hsound hok =>
    .head (.acquire .inMemory .replica .default (Document.empty.withLabel "en" "Berlin"))
      (Site.leads_of_run hasks hsound (Prod.fst_eq_iff.1 hok))
  have hfirst : Site.Leads ⟨Database.migrated, []⟩
      ⟨labelled Database.migrated, [.done ()]⟩ :=
    hlabel Database.fresh_migrated.sound (by decide +kernel)
  have hdelete : (labelled Database.migrated).delete .texts none =
      .ok (withoutTexts (labelled Database.migrated)) := by
    have hok : ((labelled Database.migrated).delete .texts none).toOption.isSome =
        true := by decide +kernel
    unfold withoutTexts
    cases hresult : (labelled Database.migrated).delete .texts none with
    | ok db => rfl
    | error fault =>
        rw [hresult] at hok
        cases hok
  have hfine := ((Site.fine_of_fresh Database.fresh_migrated rfl).leads hfirst).1
  have hremoved : Site.Step ⟨labelled Database.migrated, [.done ()]⟩
      ⟨withoutTexts (labelled Database.migrated), [.done ()]⟩ :=
    .delete TableSpec.mem_all_texts hdelete
  have hsecond : Site.Leads ⟨withoutTexts (labelled Database.migrated), [.done ()]⟩
      ⟨labelled (withoutTexts (labelled Database.migrated)),
        [.done (), .done ()]⟩ :=
    hlabel (hfine.step hremoved).1.sound (by decide +kernel)
  exact ⟨by decide +kernel, by decide +kernel,
    (ids_never_reused Database.fresh_migrated rfl hfirst (.head hremoved hsecond)).1⟩

end TermStore
