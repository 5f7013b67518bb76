import TermStore.Proofs.Resolving
import TermStore.Proofs.Retry

/-!
# Ids of kinds that last

Stores of kinds work on one primary, one call after another. Meanwhile, also between the requests
of a call, others add rows of kinds; the replica has whatever part of them has arrived; and any
request may break off. No row of a kind is changed or removed.

A store of kinds learns ids from three sources: it makes them, looks them up by name, or reads the
names of given ids; and what it once remembers it never asks for again. What carries the results is
that the ids it remembers are those of the kinds' rows on the primary (`Databases.Right`). Each
request keeps this up, whatever the others did before it and however the call ends
(`Dialog.Upholds`); so each answer is right, and as the rows stay, it stays right.

Bytes are the exception. A row that spells the name of a kind in bytes reads as that name, but no
look-up of the name finds it; so it is assumed that there are none (`Database.Spelled`).
-/

namespace TermStore

open Storage (TableSpec Table Record RecordIds Cell Database)

/-! ### Rows that name kinds -/

namespace Storage.Database

variable {db db' : Database} {spec : TableSpec} {records : List Record}

/-- No row spells the name of a kind in bytes: what reads as the name of a kind is its text. -/
def Spelled (db : Database) : Prop :=
  ∀ kind id, db.Reads .kinds id (KindStore.recordOf kind) →
    db.Has .kinds id (KindStore.recordOf kind)

theorem Spelled.gains (h : db.Spelled) (hdb : db.Sound) (hspec : spec ∈ TableSpec.all)
    (hgains : db.Gains spec records db') : db'.Spelled := by
  intro kind id hreads
  rcases hgains.reads_cases hspec TableSpec.mem_all_kinds hreads with hold | ⟨-, -, hhas⟩
  · exact (hgains.grows hdb hspec).has TableSpec.mem_all_kinds (h kind id hold)
  · exact hhas

/-- What a row of the one database reads as, it reads as in the other one. -/
theorem RowsWithin.reads (h : db.RowsWithin spec db') {id : Int} {record : Record}
    (hreads : db.Reads spec id record) : db'.Reads spec id record := by
  obtain ⟨t₀, htable₀, values, hget, hcells⟩ := hreads
  obtain ⟨t, t', htable, htable', hwithin⟩ := h
  obtain rfl := Except.ok.inj (htable.symm.trans htable₀)
  obtain ⟨values', hget', hsame⟩ := hwithin id values hget
  exact ⟨t', htable', values', hget', hsame ▸ hcells⟩

/-- A fresh table has nothing that another one could lack. -/
theorem Fresh.rowsWithin (h : db.Fresh) (h' : db'.Sound) (hspec : spec ∈ TableSpec.all) :
    db.RowsWithin spec db' := by
  obtain ⟨t, htable, hfresh⟩ := h spec hspec
  obtain ⟨t', htable', -⟩ := h' spec hspec
  refine ⟨t, t', htable, htable', fun id values hget => ?_⟩
  rw [hfresh.rows, SortedMap.get?_empty] at hget
  cases hget

/-- A row that a look-up of a kind's name selects holds that name. -/
theorem Sound.exact_recordOf (h : db.Sound) (kind : TermKind) :
    db.Exact .kinds (KindStore.recordOf kind) := by
  obtain ⟨t, htable, hsound⟩ := h .kinds TableSpec.mem_all_kinds
  refine ⟨t, htable, fun id values _ hmatches => ?_⟩
  -- only a text agrees with a text
  have hagrees := (hsound.keeps.matches_iff (TableSpec.takes_kinds kind.name)).1 hmatches
  obtain ⟨value, rest, hvalue, hrest, hcells⟩ := List.forall₂_cons_right_iff.1 hagrees
  rw [hcells, List.forall₂_nil_right_iff.1 hrest]
  cases value with
  | text name => rw [beq_iff_eq.1 (show (name == kind.name) = true from hvalue)]; rfl
  | _ => cases hvalue

theorem Sound.exists_has_of_matches (h : db.Sound) {kind : TermKind}
    (hmatches : db.Matches .kinds (KindStore.recordOf kind)) :
    ∃ id, db.Has .kinds id (KindStore.recordOf kind) := by
  obtain ⟨t, htable, row, hrow, hmatches⟩ := hmatches
  obtain ⟨t', htable', hexact⟩ := h.exact_recordOf kind
  obtain rfl := Except.ok.inj (htable.symm.trans htable')
  have hget := SortedMap.mem_entries_iff.1 hrow
  exact ⟨row.1, t, htable, row.2, hget, hexact row.1 row.2 hget hmatches⟩

end Storage.Database

namespace KindStore

/-- All records of a list are names of kinds. -/
def AllNames (records : List Record) : Prop :=
  ∀ record ∈ records, ∃ kind, record = recordOf kind

theorem AllNames.takes {records : List Record} (h : AllNames records) :
    ∀ record ∈ records, TableSpec.kinds.Takes record := by
  intro record hrecord
  obtain ⟨kind, rfl⟩ := h record hrecord
  exact TableSpec.takes_kinds kind.name

theorem allNames_map (kinds : List TermKind) : AllNames (kinds.map recordOf) := by
  intro record hrecord
  obtain ⟨kind, -, rfl⟩ := List.mem_map.1 hrecord
  exact ⟨kind, rfl⟩

end KindStore

/-! ### Databases that others add kinds to -/

namespace Databases

/-- What others may have made of the databases: the primary has gained rows of kinds, and the
replica has some of the primary's. The other tables may hold anything. -/
structure KindsMeanwhile (before after : Databases) : Prop where
  sound : after.primary.Sound
  rows : before.primary.RowsWithin .kinds after.primary
  lags : ∀ replica ∈ after.replica, replica.Sound ∧ replica.RowsWithin .kinds after.primary
  kindIds : after.kindIds = before.kindIds

/-- The primary is in order, and the ids that are remembered are those of the kinds' rows. -/
structure Right (databases : Databases) : Prop where
  sound : databases.primary.Sound
  spelled : databases.primary.Spelled
  recorded : KindStore.Recorded databases.kindIds databases.primary

variable {before middle now after : Databases}

theorem KindsMeanwhile.trans (h : before.KindsMeanwhile middle) (h' : middle.KindsMeanwhile after) :
    before.KindsMeanwhile after :=
  ⟨h'.sound, h.rows.trans h'.rows, h'.lags, h'.kindIds.trans h.kindIds⟩

/-- The rows of kinds on either store are on the primary. -/
theorem KindsMeanwhile.database (h : before.KindsMeanwhile now) (side : Side) :
    (now.database side).Sound ∧ (now.database side).RowsWithin .kinds now.primary := by
  have hprimary := Database.RowsWithin.refl h.sound TableSpec.mem_all_kinds
  cases side with
  | primary => exact ⟨h.sound, hprimary⟩
  | replica =>
      unfold Databases.database
      cases hreplica : now.replica with
      | none => exact ⟨h.sound, hprimary⟩
      | some replica => exact h.lags replica hreplica

theorem KindsMeanwhile.right (h : before.KindsMeanwhile now) (hright : before.Right)
    (hspelled : now.primary.Spelled) : now.Right where
  sound := h.sound
  spelled := hspelled
  recorded kind id hid := h.rows.has (hright.recorded kind id (h.kindIds ▸ hid))

end Databases

/-! ### What a dialog upholds -/

namespace Dialog

variable {α β : Type} {failed : Failure → Prop} {post : α → Databases → Prop}
  {before : Databases}

/-- Among others that add kinds, each request of a dialog leaves the rows of kinds, and what is
remembered of them is right afterwards. The dialog fails only in given ways, and has only results
that satisfy a condition. -/
def Upholds (failed : Failure → Prop) (post : α → Databases → Prop) :
    Dialog α → Databases → Prop
  | .done result, before => post result before
  | .fail failure, _ => failed failure
  | .note _ next, before => next.Upholds failed post before
  | .ask request next, before =>
    -- the reply comes from what the databases are by then
    ∀ now, before.KindsMeanwhile now → now.Right →
      now.primary.RowsWithin .kinds (Databases.reply request now).2.primary ∧
      (Databases.reply request now).2.Right ∧
      match Databases.reply request now with
      | (.ok reply, after) => (next reply).Upholds failed post after
      | (.error failure, _) => failed failure

theorem Upholds.bind {mid : α → Databases → Prop} {post : β → Databases → Prop} {d : Dialog α}
    {next : α → Dialog β} (h : d.Upholds failed mid before)
    (hnext : ∀ result after, mid result after → (next result).Upholds failed post after) :
    (d.bind next).Upholds failed post before := by
  induction d generalizing before with
  | done result => exact hnext result before h
  | fail => exact h
  | note event rest ih => exact ih h
  | ask r rest ih =>
      intro now hmeanwhile hright
      obtain ⟨hrows, hafter, hreply⟩ := h now hmeanwhile hright
      refine ⟨hrows, hafter, ?_⟩
      rcases hresult : Databases.reply r now with ⟨outcome, after⟩
      rw [hresult] at hreply
      cases outcome with
      | ok reply => exact ih reply hreply
      | error failure => exact hreply

theorem Upholds.mono {other : α → Databases → Prop} {d : Dialog α}
    (h : d.Upholds failed post before)
    (hpost : ∀ result after, post result after → other result after) :
    d.Upholds failed other before := by
  rw [← bind_done d]
  exact h.bind hpost

/-! ### Single requests -/

/-- A request that changes nothing is answered as the databases are by then. -/
theorem upholds_ask {r : Request} {next : Reply r → Dialog α}
    (h : ∀ now, before.KindsMeanwhile now → now.Right →
      (∃ reply, Databases.reply r now = (.ok reply, now) ∧
        (next reply).Upholds failed post now) ∨
      ∃ failure, Databases.reply r now = (.error failure, now) ∧ failed failure) :
    (ask r next).Upholds failed post before := by
  intro now hmeanwhile hright
  have hrefl := Database.RowsWithin.refl hright.sound TableSpec.mem_all_kinds
  rcases h now hmeanwhile hright with ⟨reply, hreply, hnext⟩ | ⟨failure, hreply, hfailure⟩
  · rw [hreply]
    exact ⟨hrefl, hright, hnext⟩
  · rw [hreply]
    exact ⟨hrefl, hright, hfailure⟩

theorem upholds_known {next : KindIds → Dialog α}
    (h : ∀ now, before.KindsMeanwhile now → now.Right →
      (next before.kindIds).Upholds failed post now) :
    (ask .known next).Upholds failed post before :=
  upholds_ask fun now hmeanwhile hright =>
    Or.inl ⟨now.kindIds, rfl, by rw [hmeanwhile.kindIds]; exact h now hmeanwhile hright⟩

theorem upholds_remember {ids : KindIds} {next : Unit → Dialog α}
    (hids : KindStore.Recorded ids before.primary)
    (h : ∀ now, before.KindsMeanwhile now →
      (next ()).Upholds failed post { now with kindIds := ids }) :
    (ask (.remember ids) next).Upholds failed post before := fun now hmeanwhile hright =>
  ⟨Database.RowsWithin.refl hright.sound TableSpec.mem_all_kinds,
    ⟨hright.sound, hright.spelled, fun kind id hid => hmeanwhile.rows.has (hids kind id hid)⟩,
    h now hmeanwhile⟩

/-- An insert of names of kinds goes through, unless the primary refuses it. -/
theorem upholds_insert {records : List Record} {next : Nat → Dialog α}
    (hnames : KindStore.AllNames records)
    (hfailed : ∀ db fault, Database.Sound db → db.insertIgnoring .kinds records = .error fault →
      failed (.storage fault))
    (h : ∀ added after, before.primary.RowsWithin .kinds after.primary →
      after.kindIds = before.kindIds →
      (∀ record ∈ records, ∃ id, after.primary.Has .kinds id record) →
      (next added).Upholds failed post after) :
    ((insert .primary .kinds records).bind next).Upholds failed post before := by
  intro now hmeanwhile hright
  cases hinsert : now.primary.insertIgnoring .kinds records with
  | error fault =>
      simp only [Databases.reply, Databases.database, hinsert]
      exact ⟨.refl hright.sound TableSpec.mem_all_kinds, hright,
        hfailed now.primary fault hright.sound hinsert⟩
  | ok result =>
      obtain ⟨added, db⟩ := result
      have hgains := hright.sound.gains TableSpec.mem_all_kinds hnames.takes hinsert
      have hsound := hgains.sound hright.sound TableSpec.mem_all_kinds
      have hrows : now.primary.RowsWithin .kinds db :=
        (hgains.grows hright.sound TableSpec.mem_all_kinds).within .kinds TableSpec.mem_all_kinds
      simp only [Databases.reply, Databases.database, hinsert, Databases.setDatabase]
      refine ⟨hrows, ⟨hsound, hright.spelled.gains hright.sound TableSpec.mem_all_kinds hgains,
        fun kind id hid => hrows.has (hright.recorded kind id hid)⟩, ?_⟩
      refine h added _ (hmeanwhile.rows.trans hrows) hmeanwhile.kindIds fun record hrecord => ?_
      obtain ⟨kind, rfl⟩ := hnames record hrecord
      exact hsound.exists_has_of_matches (hgains.matched hrecord)

/-- A look-up of names of kinds goes through, and finds the rows of the store that is asked. -/
theorem upholds_find {side : Side} {records : List Record} {next : RecordIds → Dialog α}
    (hnames : KindStore.AllNames records)
    (h : ∀ now, before.KindsMeanwhile now → ∀ found : RecordIds,
      (∀ record id, found.get? record = some id ↔
        record ∈ records ∧ (now.database side).Has .kinds id record) →
      (next found).Upholds failed post now) :
    ((find side .kinds records).bind next).Upholds failed post before := by
  refine upholds_ask fun now hmeanwhile hright => ?_
  obtain ⟨hsound, hrows⟩ := hmeanwhile.database side
  obtain ⟨found, hfind⟩ := (hsound.find_ok_iff TableSpec.mem_all_kinds hnames.takes).2 (by
    intro record hrecord
    obtain ⟨kind, rfl⟩ := hnames record hrecord
    exact hsound.exact_recordOf kind)
  exact Or.inl ⟨found, congrArg now.readOnly hfind,
    h now hmeanwhile found fun record id =>
      hsound.find_iff TableSpec.mem_all_kinds hnames.takes hfind⟩

/-- A look-up of ids finds what the rows of the store that is asked read as. -/
theorem upholds_findIds {side : Side} {ids : List Int}
    {next : SortedMap Int Record → Dialog α} (hfailed : ∀ fault, failed (.storage fault))
    (h : ∀ now, before.KindsMeanwhile now → now.Right → ∀ found : SortedMap Int Record,
      (∀ id record, found.get? id = some record → now.primary.Reads .kinds id record) →
      (next found).Upholds failed post now) :
    ((findIds side .kinds ids).bind next).Upholds failed post before := by
  refine upholds_ask fun now hmeanwhile hright => ?_
  obtain ⟨hsound, hrows⟩ := hmeanwhile.database side
  cases hfind : (now.database side).findIds .kinds ids with
  | error fault => exact Or.inr ⟨.storage fault, congrArg now.readOnly hfind, hfailed fault⟩
  | ok found =>
      refine Or.inl ⟨found, congrArg now.readOnly hfind,
        h now hmeanwhile hright found fun id record hget => ?_⟩
      exact hrows.reads ((hsound.findIds_iff TableSpec.mem_all_kinds hfind).1 hget).2

end Dialog

/-! ### The dialogs of a store of kinds -/

namespace Acquisition

open KindStore (AllNames)

variable {failed : Failure → Prop} {before : Databases} {records needed : List Record}
  {found : RecordIds} {left made : Nat}

theorem Held.rows {db db' : Database} (h : Held .kinds found db)
    (hrows : db.RowsWithin .kinds db') : Held .kinds found db' :=
  fun record id hget => hrows.has (h record id hget)

/-- What a search for kinds comes to: what it finds is on the primary, and nothing that was needed
is missing. -/
structure KindsSought (needed : List Record) (found : RecordIds) (before : Databases)
    (after : RecordIds) (now : Databases) : Prop where
  held : Held .kinds after now.primary
  complete : Complete needed found after
  kindIds : now.kindIds = before.kindIds

/-- Where all needed kinds have rows, one look-up on the primary finds them. -/
theorem upholds_seekOnPrimary_of_has (hnames : AllNames needed)
    (hhas : ∀ record ∈ needed, ∃ id, before.primary.Has .kinds id record)
    (hheld : Held .kinds found before.primary) :
    (seekOnPrimary .primary .kinds left made needed found).Upholds failed
      (KindsSought needed found before) before := by
  unfold seekOnPrimary
  split
  · next hempty => exact ⟨hheld, complete_of_isEmpty hempty, rfl⟩
  · refine Dialog.upholds_find hnames fun now hmeanwhile present hpresent => ?_
    have hnone : missing needed present = [] := by
      refine List.filter_eq_nil_iff.2 fun record hrecord => ?_
      obtain ⟨id, hid⟩ := hhas record hrecord
      have hget := (hpresent record id).2 ⟨hrecord, hmeanwhile.rows.has hid⟩
      simpa using SortedMap.contains_iff.2 ⟨id, hget⟩
    rw [hnone]
    exact ⟨(hheld.rows hmeanwhile.rows).union fun record id hget => ((hpresent record id).1 hget).2,
      Complete.step (complete_of_isEmpty (by rw [hnone]; rfl)), hmeanwhile.kindIds⟩

/-- A search on the primary finds all needed kinds, with one insert at most. -/
theorem upholds_seekOnPrimary (hnames : AllNames needed)
    (hfailed : ∀ records db fault, Database.Sound db →
      db.insertIgnoring .kinds records = .error fault → failed (.storage fault))
    (hheld : Held .kinds found before.primary) :
    (seekOnPrimary .primary .kinds (left + 1) made needed found).Upholds failed
      (KindsSought needed found before) before := by
  unfold seekOnPrimary
  split
  · next hempty => exact ⟨hheld, complete_of_isEmpty hempty, rfl⟩
  · refine Dialog.upholds_find hnames fun now hmeanwhile present hpresent => ?_
    have hunion := (hheld.rows hmeanwhile.rows).union fun record id hget =>
      ((hpresent record id).1 hget).2
    show Dialog.Upholds _ _ (ite _ _ _) _
    split
    · next hempty => exact ⟨hunion, Complete.step (complete_of_isEmpty hempty), hmeanwhile.kindIds⟩
    · have hmissing : AllNames (missing needed present) :=
        fun record hmem => hnames record (List.mem_filter.1 hmem).1
      refine Dialog.upholds_insert hmissing (hfailed _) fun added after hrows hkindIds hhas => ?_
      refine (upholds_seekOnPrimary_of_has hmissing hhas (hunion.rows hrows)).mono
        fun found now hsought => ?_
      exact ⟨hsought.held, hsought.complete.step,
        hsought.kindIds.trans (hkindIds.trans hmeanwhile.kindIds)⟩

/-- Each kind gets the id of its row. -/
theorem upholds_acquireIds (hnames : AllNames records)
    (hfailed : ∀ records db fault, Database.Sound db →
      db.insertIgnoring .kinds records = .error fault → failed (.storage fault)) (read : Side) :
    (acquireIds (.replicaFirst read .primary) .kinds records).Upholds failed
      (fun entries now => (∀ entry ∈ entries, now.primary.Has .kinds entry.2 entry.1) ∧
        entries.map Prod.fst = records ∧ now.kindIds = before.kindIds) before := by
  have hwanted : AllNames records.eraseDups :=
    fun record hmem => hnames record (List.mem_eraseDups.1 hmem)
  show Dialog.Upholds _ _ (ite _ _ _) _
  split
  · next hempty =>
    rw [eq_nil_of_isEmpty_eraseDups hempty]
    exact ⟨fun _ hmem => absurd hmem List.not_mem_nil, rfl, rfl⟩
  · refine Dialog.upholds_find hwanted fun now hmeanwhile found hfound => ?_
    have hheld : Held .kinds found now.primary := fun record id hget =>
      (hmeanwhile.database read).2.has ((hfound record id).1 hget).2
    have hmissing : AllNames (missing records.eraseDups found) :=
      fun record hmem => hwanted record (List.mem_filter.1 hmem).1
    have hsearch : (seekOnPrimary .primary .kinds 5 0 (missing records.eraseDups found)
        found).Upholds failed (KindsSought _ found now) now :=
      upholds_seekOnPrimary hmissing hfailed hheld
    refine hsearch.bind fun after later hsought => ?_
    have hall : ∀ record ∈ records, ∃ id, after.get? record = some id := by
      refine fun record hrecord => SortedMap.contains_iff.1 (hsought.complete record ?_)
      by_cases hknown : found.contains record = true
      · exact Or.inr hknown
      · refine Or.inl (List.mem_filter.2 ⟨List.mem_eraseDups.2 hrecord, ?_⟩)
        simpa using hknown
    obtain ⟨entries, hentries, -⟩ := exists_assemble .kinds hall
    rw [hentries]
    refine ⟨fun entry hentry => ?_, map_fst_assemble hentries,
      hsought.kindIds.trans hmeanwhile.kindIds⟩
    obtain ⟨record, -, hassembled⟩ := mem_of_mapM_eq_ok hentries hentry
    split at hassembled
    · next id hget =>
      cases hassembled
      exact hsought.held record id hget
    · cases hassembled

end Acquisition

namespace KindStore

variable {α : Type} {failed : Failure → Prop} {post : α → Databases → Prop} {before : Databases}
  {kinds : List TermKind} {wanted : List Int}

/-- What is learned of rows of the primary is remembered, also where it ends at a name of no
kind. -/
theorem upholds_learn {entries : List (Record × Int)} {next : KindIds → Dialog α}
    (hentries : ∀ kind id, (recordOf kind, id) ∈ entries →
      before.primary.Has .kinds id (recordOf kind))
    (hfailed : ∀ ids failure, learned before.kindIds entries = (ids, .error failure) →
      failed failure)
    (h : ∀ now, before.KindsMeanwhile now → ∀ ids, learned before.kindIds entries = (ids, .ok ()) →
      (next ids).Upholds failed post { now with kindIds := ids }) :
    ((learn entries).bind next).Upholds failed post before := by
  rw [learn_eq]
  refine Dialog.upholds_known fun now hnow hright => ?_
  refine Dialog.upholds_remember (fun kind id hid => ?_) fun later hlater => ?_
  · rcases get?_learned rfl hid with hbefore | hmem
    · exact hright.recorded kind id (hnow.kindIds ▸ hbefore)
    · exact hnow.rows.has (hentries kind id hmem)
  · show Dialog.Upholds _ _ (((Dialog.ofExcept (learned before.kindIds entries).2).bind fun _ =>
      .done (learned before.kindIds entries).1).bind next) _
    rcases hlearned : learned before.kindIds entries with ⟨ids, outcome⟩
    cases outcome with
    | error failure => exact hfailed ids failure hlearned
    | ok => exact h later (hnow.trans hlater) ids hlearned

/-- The primary has refused to insert. -/
def Refused (failure : Failure) : Prop :=
  ∃ db records fault, Database.Sound db ∧ db.insertIgnoring .kinds records = .error fault ∧
    failure = .storage fault

theorem mem_unknownKinds {ids : KindIds} {kind : TermKind} :
    kind ∈ unknownKinds ids kinds ↔ kind ∈ kinds ∧ ids.get? kind = none := by
  unfold unknownKinds
  rw [List.mem_eraseDups, List.mem_filter, Option.isNone_iff_eq_none]

/-- Ids are acquired for all kinds, unless the primary refuses to insert. -/
theorem upholds_acquire (read : Side) (kinds : List TermKind) (before : Databases) :
    ((inTable read .primary).acquire kinds).Upholds Refused
      (fun result after => result = after.kindIds.select kinds ∧ after.kindIds.Know kinds)
      before := by
  rw [inTable_acquire_eq]
  refine Dialog.upholds_known fun now hnow _ => ?_
  split
  · next hempty =>
    rw [← hnow.kindIds] at hempty ⊢
    exact ⟨rfl, isEmpty_unknownKinds_iff.1 hempty⟩
  · refine (Acquisition.upholds_acquireIds (allNames_map _)
      (fun records db fault hsound hrefused => ⟨db, records, fault, hsound, hrefused, rfl⟩)
      read).bind fun entries after hacquired => ?_
    obtain ⟨hentries, hrecords, hkindIds⟩ := hacquired
    replace hkindIds := hkindIds.trans hnow.kindIds
    obtain ⟨ids, hlearned⟩ := exists_learned after.kindIds fun entry hentry =>
      allNames_map _ entry.1 (hrecords ▸ List.mem_map_of_mem hentry)
    refine upholds_learn (fun kind id hmem => hentries _ hmem) ?_ fun later _ ids' hlearned' => ?_
    · intro ids' failure hfailed
      rw [hlearned] at hfailed
      cases hfailed
    · rw [hkindIds] at hlearned'
      exact ⟨rfl, know_learned hrecords hlearned'⟩

theorem inTable_lookup_eq (read : Side) (kinds : List TermKind) :
    (inTable read .primary).lookup kinds =
      .ask .known fun ids =>
        if (unknownKinds ids kinds).isEmpty then .done (ids.select kinds)
        else
          (Dialog.find read .kinds ((unknownKinds ids kinds).map recordOf)).bind fun found =>
            let keep (found : RecordIds) : Dialog KindIds :=
              (learn found.entries).bind fun ids => .done (ids.select kinds)
            if (Acquisition.missing ((unknownKinds ids kinds).map recordOf) found).isEmpty then
              keep found
            else
              (Dialog.find .primary .kinds
                (Acquisition.missing ((unknownKinds ids kinds).map recordOf) found)).bind
                fun rest => keep (found.union rest) := rfl

/-- The kinds that were found are learned, and with those that were known before they are all that
are called for. -/
theorem upholds_keep {found : RecordIds} {called : TermKind → Prop}
    (hheld : ∀ record id, found.get? record = some id →
      (∃ kind, record = recordOf kind) ∧ before.primary.Has .kinds id record)
    (hall : ∀ kind, called kind → (before.kindIds.get? kind).isSome = true ∨
      found.contains (recordOf kind) = true) :
    ((learn found.entries).bind fun ids => .done (ids.select kinds)).Upholds failed
      (fun result after => result = after.kindIds.select kinds ∧
        ∀ kind, called kind → (after.kindIds.get? kind).isSome = true) before := by
  have hentries : ∀ entry ∈ found.entries, (∃ kind, entry.1 = recordOf kind) ∧
      before.primary.Has .kinds entry.2 entry.1 := fun entry hentry =>
    hheld entry.1 entry.2 (SortedMap.mem_entries_iff.1 hentry)
  obtain ⟨ids, hlearned⟩ := exists_learned before.kindIds fun entry hentry =>
    (hentries entry hentry).1
  refine upholds_learn (fun kind id hmem => (hentries _ hmem).2) (fun ids' failure hfailed => ?_)
    fun last _ ids' hlearned' => ⟨rfl, fun kind hcalled => isSome_get?_learned hlearned' ?_⟩
  · rw [hlearned] at hfailed
    cases hfailed
  · refine (hall kind hcalled).imp_right fun hfound => ?_
    obtain ⟨id, hid⟩ := SortedMap.contains_iff.1 hfound
    exact List.mem_map_of_mem (f := Prod.fst) (SortedMap.mem_entries_iff.2 hid)

/-- Ids are looked up, without fail, for all kinds that have a row on the primary. -/
theorem upholds_lookup (read : Side) (kinds : List TermKind) (before : Databases) :
    ((inTable read .primary).lookup kinds).Upholds (fun _ => False)
      (fun result after => result = after.kindIds.select kinds ∧ ∀ kind,
        (kind ∈ kinds ∧ ∃ id, before.primary.Has .kinds id (recordOf kind)) →
          (after.kindIds.get? kind).isSome = true) before := by
  rw [inTable_lookup_eq]
  refine Dialog.upholds_known fun now hnow _ => ?_
  split
  · next hempty =>
    rw [← hnow.kindIds] at hempty ⊢
    exact ⟨rfl, fun kind hkind => isEmpty_unknownKinds_iff.1 hempty kind hkind.1⟩
  have hwanted : ∀ later : Databases, now.KindsMeanwhile later → ∀ kind ∈ kinds,
      (later.kindIds.get? kind).isSome = true ∨
        recordOf kind ∈ (unknownKinds before.kindIds kinds).map recordOf := by
    intro later hlater kind hkind
    rw [hlater.kindIds.trans hnow.kindIds]
    by_cases hknown : before.kindIds.get? kind = none
    · exact Or.inr (List.mem_map_of_mem (mem_unknownKinds.2 ⟨hkind, hknown⟩))
    · exact Or.inl (Option.isSome_iff_ne_none.2 hknown)
  have hnames := allNames_map (unknownKinds before.kindIds kinds)
  refine Dialog.upholds_find hnames fun later hlater found hfound => ?_
  have hheld : ∀ record id, found.get? record = some id → (∃ kind, record = recordOf kind) ∧
      later.primary.Has .kinds id record := by
    intro record id hget
    obtain ⟨hmem, hhas⟩ := (hfound record id).1 hget
    exact ⟨hnames record hmem, (hlater.database read).2.has hhas⟩
  show Dialog.Upholds _ _ (ite _ _ _) _
  split
  · next hempty =>
    refine upholds_keep hheld fun kind hcalled =>
      (hwanted later hlater kind hcalled.1).imp_right fun hrecord => ?_
    simpa using List.filter_eq_nil_iff.1 (List.isEmpty_iff.1 hempty) _ hrecord
  · have hmissing : AllNames (Acquisition.missing ((unknownKinds before.kindIds kinds).map
        recordOf) found) := fun record hmem => hnames record (List.mem_filter.1 hmem).1
    refine Dialog.upholds_find hmissing fun last hlast rest hrest => ?_
    refine upholds_keep (fun record id hget => ?_) fun kind hcalled =>
      (hwanted last (hlater.trans hlast) kind hcalled.1).imp_right fun hrecord =>
        Acquisition.contains_union.2 ?_
    · rw [SortedMap.get?_union] at hget
      rcases Option.or_eq_some_iff.1 hget with hget | ⟨-, hget⟩
      · obtain ⟨hmem, hhas⟩ := (hrest record id).1 hget
        exact ⟨hmissing record hmem, hhas⟩
      · obtain ⟨hname, hhas⟩ := hheld record id hget
        exact ⟨hname, hlast.rows.has hhas⟩
    · by_cases hknown : found.contains (recordOf kind) = true
      · exact Or.inl hknown
      · -- the replica has no row of the kind, so the primary is asked, which still has it
        obtain ⟨id, hid⟩ := hcalled.2
        refine Or.inr (SortedMap.contains_iff.2 ⟨id, (hrest _ id).2 ⟨?_, ?_⟩⟩)
        · exact List.mem_filter.2 ⟨hrecord, by simpa using hknown⟩
        · exact ((hnow.trans hlater).trans hlast).rows.has hid

/-- A look-up asks for no insert. -/
theorem asks_lookup (read : Side) (kinds : List TermKind) :
    ((inTable read .primary).lookup kinds).Asks (Request.Within []) := by
  have hkeep : ∀ entries : List (Record × Int),
      ((learn entries).bind fun ids => .done (ids.select kinds)).Asks (Request.Within []) := by
    intro entries
    rw [learn_eq]
    refine ⟨trivial, fun ids => ⟨trivial, fun _ => Dialog.Asks.bind ?_ fun _ => trivial⟩⟩
    exact (Dialog.asks_ofExcept _).bind fun _ => trivial
  rw [inTable_lookup_eq]
  refine ⟨trivial, fun ids => ?_⟩
  show Dialog.Asks _ (ite _ _ _)
  split
  · exact trivial
  · refine ⟨trivial, fun found => ?_⟩
    show Dialog.Asks _ (ite _ _ _)
    split
    · exact hkeep _
    · exact ⟨trivial, fun rest => hkeep _⟩

/-- A row cannot be read, or names no kind. -/
def Unreadable (failure : Failure) : Prop :=
  (∃ fault, failure = .storage fault) ∨ ∃ name, failure = .unknownKind name

/-- Kinds are read, and remembered, as the primary names them. -/
theorem upholds_resolve (read : Side) (wanted : List Int) (before : Databases) :
    ((inTable read .primary).resolve wanted).Upholds Unreadable
      (fun result after => result = after.kindIds.kindsOf wanted) before := by
  have hstorage : ∀ fault, Unreadable (.storage fault) := fun fault => Or.inl ⟨fault, rfl⟩
  rw [inTable_resolve_eq]
  refine Dialog.upholds_known fun now hnow _ => ?_
  split
  · rw [← hnow.kindIds]
    rfl
  refine Dialog.Upholds.bind (?_ : Dialog.Upholds _ (fun found later => later.primary.Spelled ∧
    ∀ id record, found.get? id = some record → later.primary.Reads .kinds id record) _ _) ?_
  · refine Dialog.upholds_findIds hstorage fun later hlater hright found hfound => ?_
    show Dialog.Upholds _ _ (ite _ _ _) _
    split
    · exact ⟨hright.spelled, hfound⟩
    · refine Dialog.upholds_findIds hstorage fun last hlast hright' rest hrest => ?_
      refine ⟨hright'.spelled, fun id record hget => ?_⟩
      rw [SortedMap.get?_union] at hget
      rcases Option.or_eq_some_iff.1 hget with hget | ⟨-, hget⟩
      · exact hrest id record hget
      · exact hlast.rows.reads (hfound id record hget)
  · intro found later hread
    obtain ⟨hspelled, hfound⟩ := hread
    refine upholds_learn (fun kind id hmem => ?_) (fun ids failure hfailed =>
      Or.inr (exists_unknownKind_of_learned hfailed)) fun last _ ids _ => rfl
    obtain ⟨entry, hentry, heq⟩ := List.mem_map.1 hmem
    obtain ⟨hrecord, hid⟩ := Prod.mk.inj heq
    refine hspelled kind id (hfound id (recordOf kind) (SortedMap.mem_entries_iff.1 ?_))
    rwa [← hrecord, ← hid]

end KindStore

/-! ### Others at work -/

/-- What goes on around the requests of dialogs, which are counted from zero. -/
structure Others where
  /-- What has become of the databases by the time of a request. -/
  meanwhile : Nat → Databases → Databases
  /-- Whether a call on a store breaks off: with which failure, and whether after its effect. -/
  broken : Nat → Option (Failure × Bool)

namespace Others

/-- Others add rows of kinds, and the replica has some of the primary's. -/
def AddKinds (others : Others) : Prop :=
  ∀ n (before : Databases), before.primary.Sound →
    before.KindsMeanwhile (others.meanwhile n before)

/-- Nobody spells the name of a kind in bytes. -/
def Spell (others : Others) : Prop :=
  ∀ n (before : Databases), before.primary.Spelled →
    (others.meanwhile n before).primary.Spelled

/-- The databases answer when others have been at work, and the requests are counted. -/
def handler (others : Others) : Handler (Databases × Nat) where
  reply r world :=
    let now := others.meanwhile world.2 world.1
    match if r.isCall then others.broken world.2 else none with
    | some (failure, effect) =>
      (.error failure, (if effect then (Databases.reply r now).2 else now, world.2 + 1))
    | none => ((Databases.reply r now).1, ((Databases.reply r now).2, world.2 + 1))
  note _ world := world

/-- A call breaks off between two moments. -/
def Breaks (others : Others) (start stop : Nat) (failure : Failure) : Prop :=
  ∃ n effect, start ≤ n ∧ n < stop ∧ others.broken n = some (failure, effect)

variable {others : Others} {α : Type} {failed : Failure → Prop} {post : α → Databases → Prop}
  {before after : Databases} {start stop : Nat}

/-- What a dialog comes to among others. -/
structure CameTo (others : Others) (failed : Failure → Prop) (post : α → Databases → Prop)
    (before : Databases) (start : Nat) (outcome : Except Failure α) (after : Databases)
    (stop : Nat) : Prop where
  counted : start ≤ stop
  rows : before.primary.RowsWithin .kinds after.primary
  right : after.Right
  result : ∀ result, outcome = .ok result → post result after
  failure : ∀ failure, outcome = .error failure → failed failure ∨ others.Breaks start stop failure

/-- A request is answered as the databases are by then, or it breaks off before its effect or
after. -/
theorem reply_handler (others : Others) (r : Request) (before : Databases) (n : Nat) :
    others.handler.reply r (before, n) =
      ((Databases.reply r (others.meanwhile n before)).1,
        ((Databases.reply r (others.meanwhile n before)).2, n + 1)) ∨
    ∃ failure effect met, others.broken n = some (failure, effect) ∧
      others.handler.reply r (before, n) = (.error failure, (met, n + 1)) ∧
      (met = others.meanwhile n before ∨
        met = (Databases.reply r (others.meanwhile n before)).2) := by
  simp only [handler]
  by_cases hcall : r.isCall = true
  · rw [if_pos hcall]
    rcases hbroken : others.broken n with _ | ⟨failure, effect⟩
    · exact Or.inl rfl
    · cases effect with
      | true => exact Or.inr ⟨failure, true, _, rfl, rfl, Or.inr rfl⟩
      | false => exact Or.inr ⟨failure, false, _, rfl, rfl, Or.inl rfl⟩
  · rw [if_neg hcall]
    exact Or.inl rfl

/-- Whatever the others do and wherever a call breaks off, what is upheld is upheld. -/
theorem cameTo_of_run (hadd : others.AddKinds) (hspell : others.Spell) {d : Dialog α}
    (h : d.Upholds failed post before) (hright : before.Right) {outcome : Except Failure α}
    (hrun : d.run others.handler (before, start) = (outcome, (after, stop))) :
    others.CameTo failed post before start outcome after stop := by
  induction d generalizing before start with
  | done result =>
      cases hrun
      exact ⟨Nat.le_refl _, .refl hright.sound TableSpec.mem_all_kinds, hright,
        fun _ hresult => Except.ok.inj hresult ▸ h, fun _ hfailure => nomatch hfailure⟩
  | fail failure =>
      cases hrun
      exact ⟨Nat.le_refl _, .refl hright.sound TableSpec.mem_all_kinds, hright,
        fun _ hresult => (nomatch hresult),
        fun _ hfailure => Or.inl (Except.error.inj hfailure ▸ h)⟩
  | note event rest ih => exact ih h hright hrun
  | ask r rest ih =>
      have hmeanwhile := hadd start before hright.sound
      have hnow := hmeanwhile.right hright (hspell start before hright.spelled)
      obtain ⟨hrows, hafter, hreply⟩ := h _ hmeanwhile hnow
      rcases others.reply_handler r before start with
        hanswered | ⟨failure, effect, met, hbroken, hbreaks, hmet⟩
      · simp only [Dialog.run, hanswered] at hrun
        rcases hanswer : Databases.reply r (others.meanwhile start before) with ⟨answer, middle⟩
        rw [hanswer] at hrun hrows hafter hreply
        cases answer with
        | error failure =>
            cases hrun
            exact ⟨Nat.le_succ _, hmeanwhile.rows.trans hrows, hafter,
              fun _ hresult => (nomatch hresult),
              fun _ hfailure => Or.inl (Except.error.inj hfailure ▸ hreply)⟩
        | ok reply =>
            have hrest := ih reply hreply hafter hrun
            refine ⟨Nat.le_of_succ_le hrest.counted,
              (hmeanwhile.rows.trans hrows).trans hrest.rows, hrest.right, hrest.result,
              fun failure hfailure => (hrest.failure failure hfailure).imp_right ?_⟩
            rintro ⟨n, effect, hle, hlt, hbroken⟩
            exact ⟨n, effect, Nat.le_of_succ_le hle, hlt, hbroken⟩
      · simp only [Dialog.run, hbreaks] at hrun
        cases hrun
        refine ⟨Nat.le_succ _, ?_, ?_, fun _ hresult => (nomatch hresult), fun _ hfailure =>
          Or.inr ⟨start, effect, Nat.le_refl _, Nat.lt_succ_self _, ?_⟩⟩
        · rcases hmet with rfl | rfl
          · exact hmeanwhile.rows
          · exact hmeanwhile.rows.trans hrows
        · rcases hmet with rfl | rfl
          · exact hnow
          · exact hafter
        · rw [hbroken, Except.error.inj hfailure]

end Others

/-! ### Calls of many stores -/

/-- What a store of kinds is asked. -/
inductive KindCall
  | acquire (kinds : List TermKind)
  | lookup (kinds : List TermKind)
  | resolve (ids : List Int)

/-- What it answers. -/
inductive KindAnswer
  | numbers (ids : KindIds)
  | names (kinds : SortedMap Int TermKind)
  deriving DecidableEq

/-- An answer tells the id of a kind. -/
def KindAnswer.Tells (kind : TermKind) (id : Int) : KindAnswer → Prop
  | .numbers ids => ids.get? kind = some id
  | .names kinds => kinds.get? id = some kind

/-- A call of a store that reads from a side first and writes to the primary. -/
def KindCall.dialog (read : Side) : KindCall → Dialog KindAnswer
  | .acquire kinds =>
    ((KindStore.inTable read .primary).acquire kinds).bind fun ids => .done (.numbers ids)
  | .lookup kinds =>
    ((KindStore.inTable read .primary).lookup kinds).bind fun ids => .done (.numbers ids)
  | .resolve ids =>
    ((KindStore.inTable read .primary).resolve ids).bind fun kinds => .done (.names kinds)

/-- The ways in which a call fails by itself. -/
def KindCall.Failed : KindCall → Failure → Prop
  | .acquire _ => KindStore.Refused
  | .lookup _ => fun _ => False
  | .resolve _ => KindStore.Unreadable

/-- The answer to a call: ids for all kinds that are acquired, and for those of the kinds looked up
that had a row when the call began. -/
def KindCall.Answered (start : Database) : KindCall → KindAnswer → Prop
  | .acquire kinds, answer => ∃ ids, answer = .numbers ids ∧
      ∀ kind, (ids.get? kind).isSome = true ↔ kind ∈ kinds
  | .lookup kinds, answer => ∃ ids, answer = .numbers ids ∧
      (∀ kind, (ids.get? kind).isSome = true → kind ∈ kinds) ∧
      ∀ kind ∈ kinds, (∃ id, start.Has .kinds id (KindStore.recordOf kind)) →
        (ids.get? kind).isSome = true
  | .resolve ids, answer => ∃ kinds, answer = .names kinds ∧
      ∀ id kind, kinds.get? id = some kind → id ∈ ids

variable {read : Side} {before : Databases}

/-- What a call comes to by itself: it fails in its own ways only, and its answer, which is right,
tells what is remembered in the end. -/
theorem KindCall.upholds (call : KindCall) (read : Side) (before : Databases) :
    (call.dialog read).Upholds call.Failed (fun answer after =>
      call.Answered before.primary answer ∧
      ∀ kind id, answer.Tells kind id → after.kindIds.get? kind = some id) before := by
  have hselect : ∀ {ids : KindIds} {kinds : List TermKind} {kind : TermKind} {id : Int},
      (ids.select kinds).get? kind = some id ↔ kind ∈ kinds ∧ ids.get? kind = some id := by
    intro ids kinds kind id
    rw [KindIds.get?_select]
    split <;> simp [*]
  cases call with
  | acquire kinds =>
      refine (KindStore.upholds_acquire read kinds before).bind ?_
      rintro result after ⟨rfl, hknow⟩
      refine ⟨⟨_, rfl, fun kind => ?_⟩, fun kind id htells => (hselect.1 htells).2⟩
      rw [KindIds.get?_select]
      split
      · next hkind => exact iff_of_true (hknow kind hkind) hkind
      · next hkind => exact iff_of_false (by decide) hkind
  | lookup kinds =>
      refine (KindStore.upholds_lookup read kinds before).bind ?_
      rintro result after ⟨rfl, hall⟩
      refine ⟨⟨_, rfl, fun kind hkind => ?_, fun kind hkind hrow => ?_⟩,
        fun kind id htells => (hselect.1 htells).2⟩
      · obtain ⟨id, hid⟩ := Option.isSome_iff_exists.1 hkind
        exact (hselect.1 hid).1
      · rw [KindIds.get?_select, if_pos hkind]
        exact hall kind ⟨hkind, hrow⟩
  | resolve ids =>
      refine (KindStore.upholds_resolve read ids before).bind ?_
      rintro result after rfl
      exact ⟨⟨_, rfl, fun id kind hkind => (KindIds.of_get?_kindsOf hkind).1⟩,
        fun kind id htells => (KindIds.of_get?_kindsOf htells).2⟩

/-- A primary and its replica, what each of many stores of kinds remembers, and how many requests
there have been. -/
structure Registry (ι : Type) where
  primary : Database
  replica : Option Database
  kindIds : ι → KindIds
  requests : Nat

/-- Which store is called, which side it reads from first, and for what. -/
structure Visit (ι : Type) where
  store : ι
  read : Side
  call : KindCall

/-- A call that is over. -/
structure Visited (ι : Type) where
  visit : Visit ι
  before : Registry ι
  outcome : Except Failure KindAnswer
  after : Registry ι

namespace Registry

variable {ι : Type}

/-- The databases as a store sees them. -/
def seenBy (s : Registry ι) (i : ι) : Databases := ⟨s.primary, s.replica, s.kindIds i⟩

variable [DecidableEq ι]

/-- A call of one store, among others. -/
def visit (others : Others) (s : Registry ι) (v : Visit ι) : Visited ι :=
  let (outcome, (after, requests)) :=
    (v.call.dialog v.read).run others.handler (s.seenBy v.store, s.requests)
  ⟨v, s, outcome,
    ⟨after.primary, after.replica, Function.update s.kindIds v.store after.kindIds, requests⟩⟩

/-- Calls one after another, and what is there in the end. -/
def run (others : Others) : Registry ι → List (Visit ι) → List (Visited ι) × Registry ι
  | s, [] => ([], s)
  | s, v :: rest =>
    let visited := s.visit others v
    let (later, last) := visited.after.run others rest
    (visited :: later, last)

end Registry

/-- What is to be said of a call that is over: rows of kinds have stayed, what it told is on the
primary, and it was answered unless it failed in one of its own ways or broke off. -/
structure Visited.Right {ι : Type} (others : Others) (visited : Visited ι) : Prop where
  rows : visited.before.primary.RowsWithin .kinds visited.after.primary
  tells : ∀ answer, visited.outcome = .ok answer → ∀ kind id, answer.Tells kind id →
    visited.after.primary.Has .kinds id (KindStore.recordOf kind)
  answered : (∃ answer, visited.outcome = .ok answer ∧
      visited.visit.call.Answered visited.before.primary answer) ∨
    ∃ failure, visited.outcome = .error failure ∧ (visited.visit.call.Failed failure ∨
      others.Breaks visited.before.requests visited.after.requests failure)

namespace Registry

variable {ι : Type} {others : Others} {s : Registry ι}

/-- The primary is in order, and whatever a store remembers is right. -/
structure Fine (s : Registry ι) : Prop where
  sound : s.primary.Sound
  spelled : s.primary.Spelled
  recorded : ∀ i, KindStore.Recorded (s.kindIds i) s.primary

theorem Fine.seenBy (h : s.Fine) (i : ι) : (s.seenBy i).Right :=
  ⟨h.sound, h.spelled, h.recorded i⟩

theorem fine_of_none (hsound : s.primary.Sound) (hspelled : s.primary.Spelled)
    (hnone : ∀ i, s.kindIds i = .none) : s.Fine := by
  refine ⟨hsound, hspelled, fun i kind id hid => ?_⟩
  rw [hnone i] at hid
  cases kind <;> cases hid

variable [DecidableEq ι]

/-- A call keeps all in order that stores remember, its own and the others. -/
theorem Fine.visit (h : s.Fine) (hadd : others.AddKinds) (hspell : others.Spell) (v : Visit ι) :
    (s.visit others v).Right others ∧ (s.visit others v).after.Fine := by
  rcases hrun : (v.call.dialog v.read).run others.handler (s.seenBy v.store, s.requests) with
    ⟨outcome, after, requests⟩
  have hcame := Others.cameTo_of_run hadd hspell
    (v.call.upholds v.read (s.seenBy v.store)) (h.seenBy v.store) hrun
  have hvisit : s.visit others v = ⟨v, s, outcome, ⟨after.primary, after.replica,
      Function.update s.kindIds v.store after.kindIds, requests⟩⟩ := by
    unfold Registry.visit
    rw [hrun]
  rw [hvisit]
  refine ⟨⟨hcame.rows, fun answer hanswer kind id htells => ?_, ?_⟩,
    ⟨hcame.right.sound, hcame.right.spelled, fun i kind id hid => ?_⟩⟩
  · exact hcame.right.recorded kind id ((hcame.result answer hanswer).2 kind id htells)
  · cases outcome with
    | ok answer => exact Or.inl ⟨answer, rfl, (hcame.result answer rfl).1⟩
    | error failure => exact Or.inr ⟨failure, rfl, hcame.failure failure rfl⟩
  · -- the store that was called remembers what it learned, and all others what they did before
    replace hid : (Function.update s.kindIds v.store after.kindIds i).get? kind = some id := hid
    by_cases hi : i = v.store
    · subst hi
      rw [Function.update_self] at hid
      exact hcame.right.recorded kind id hid
    · rw [Function.update_of_ne hi] at hid
      exact hcame.rows.has (h.recorded i kind id hid)

/-- Of calls one after another each is right, and the rows of kinds are there to the end. -/
theorem Fine.run (h : s.Fine) (hadd : others.AddKinds) (hspell : others.Spell)
    (visits : List (Visit ι)) :
    (s.run others visits).2.Fine ∧
    s.primary.RowsWithin .kinds (s.run others visits).2.primary ∧
    ∀ visited ∈ (s.run others visits).1, visited.Right others ∧
      visited.after.primary.RowsWithin .kinds (s.run others visits).2.primary := by
  induction visits generalizing s with
  | nil => exact ⟨h, .refl h.sound TableSpec.mem_all_kinds, fun _ hmem => nomatch hmem⟩
  | cons v rest ih =>
      obtain ⟨hvisited, hfine⟩ := h.visit hadd hspell v
      obtain ⟨hlast, hrows, hrest⟩ := ih hfine
      have hbefore : (s.visit others v).before = s := rfl
      refine ⟨hlast, (hbefore ▸ hvisited.rows).trans hrows, fun visited hmem => ?_⟩
      rcases List.mem_cons.1 hmem with rfl | hmem
      · exact ⟨hvisited, hrows⟩
      · exact hrest visited hmem

end Registry

/-- Any number of stores of kinds, new at first, are called in any order, each on a primary that
others add kinds to and with a replica that has some of them; and calls break off. Each id that an
answer tells is that of the kind's row on the primary, then and to the end; so among all answers, of
whichever stores and times, ids are equal exactly when the kinds are. An acquisition that does not
break off, nor is refused by the primary, gives an id for each kind; a look-up that does not break
off gives one for each kind that had a row, and never inserts. -/
theorem kind_ids_stable {ι : Type} [DecidableEq ι] {others : Others} {start : Registry ι}
    (hadd : others.AddKinds) (hspell : others.Spell) (hsound : start.primary.Sound)
    (hspelled : start.primary.Spelled) (hnew : ∀ i, start.kindIds i = .none)
    (visits : List (Visit ι)) :
    (∀ visited ∈ (start.run others visits).1, ∀ answer, visited.outcome = .ok answer →
      ∀ kind id, answer.Tells kind id →
        visited.after.primary.Has .kinds id (KindStore.recordOf kind) ∧
        (start.run others visits).2.primary.Has .kinds id (KindStore.recordOf kind)) ∧
    (∀ first ∈ (start.run others visits).1, ∀ second ∈ (start.run others visits).1,
      ∀ answer answer', first.outcome = .ok answer → second.outcome = .ok answer' →
        ∀ kind kind' id id', answer.Tells kind id → answer'.Tells kind' id' →
          (id = id' ↔ kind = kind')) ∧
    (∀ visited ∈ (start.run others visits).1,
      (∃ answer, visited.outcome = .ok answer ∧
        visited.visit.call.Answered visited.before.primary answer) ∨
      ∃ failure, visited.outcome = .error failure ∧ (visited.visit.call.Failed failure ∨
        others.Breaks visited.before.requests visited.after.requests failure)) ∧
    ∀ read kinds, ((KindCall.lookup kinds).dialog read).Asks (Request.Within []) := by
  have hfine := Registry.fine_of_none hsound hspelled hnew
  obtain ⟨hfine', -, hright⟩ := hfine.run hadd hspell visits
  have hlast : ∀ visited ∈ (start.run others visits).1, ∀ answer, visited.outcome = .ok answer →
      ∀ kind id, answer.Tells kind id →
        (start.run others visits).2.primary.Has .kinds id (KindStore.recordOf kind) :=
    fun visited hmem answer hanswer kind id htells =>
      (hright visited hmem).2.has ((hright visited hmem).1.tells answer hanswer kind id htells)
  refine ⟨fun visited hmem answer hanswer kind id htells =>
    ⟨(hright visited hmem).1.tells answer hanswer kind id htells,
      hlast visited hmem answer hanswer kind id htells⟩, ?_,
    fun visited hmem => (hright visited hmem).1.answered, ?_⟩
  · intro first hfirst second hsecond answer answer' hanswer hanswer' kind kind' id id' htells
      htells'
    have hrow := hlast first hfirst answer hanswer kind id htells
    have hrow' := hlast second hsecond answer' hanswer' kind' id' htells'
    constructor
    · rintro rfl
      exact KindStore.recordOf_injective (hrow.functional hrow')
    · rintro rfl
      exact hfine'.sound.has_unique TableSpec.mem_all_kinds hrow hrow'
  · exact fun read kinds => (KindStore.asks_lookup read kinds).bind fun _ => trivial

/-- Nobody does anything, and there is no replica. -/
def Others.quiet : Others := ⟨fun _ databases => { databases with replica := none }, fun _ => none⟩

/-- The replica is always empty, and the first insert breaks off after its effect. -/
def Others.disturbing : Others where
  meanwhile _ databases := { databases with replica := some .migrated }
  broken n := if n = 3 then some (.storage .noRows, true) else none

/-- A primary, and stores of kinds that remember nothing yet. -/
def newRegistry (primary : Database) : Registry Bool := ⟨primary, none, fun _ => .none, 0⟩

/-- A store fails to acquire kinds, though their rows are made; another one looks them up and reads
them; and the first one tries again. -/
def disturbedVisits : List (Visit Bool) :=
  [⟨false, .replica, .acquire [.label, .aliases]⟩,
    ⟨true, .replica, .lookup [.aliases, .description]⟩,
    ⟨true, .replica, .resolve [1, 5]⟩,
    ⟨false, .replica, .acquire [.aliases, .label]⟩]

theorem disturbed_kind_ids :
    ((newRegistry .migrated).run .disturbing disturbedVisits).1.map Visited.outcome =
      [.error (.storage .noRows), .ok (.numbers ⟨none, none, some 2⟩),
        .ok (.names (.ofList [(1, .label)])), .ok (.numbers ⟨some 1, none, some 2⟩)] ∧
    ∀ visited ∈ ((newRegistry .migrated).run .disturbing disturbedVisits).1, ∀ answer,
      visited.outcome = .ok answer → ∀ kind id, answer.Tells kind id →
        ((newRegistry .migrated).run .disturbing disturbedVisits).2.primary.Has .kinds id
          (KindStore.recordOf kind) := by
  have hfresh := Database.fresh_migrated
  have hadd : Others.disturbing.AddKinds := by
    refine fun _ before hsound => ⟨hsound, .refl hsound TableSpec.mem_all_kinds, ?_, rfl⟩
    rintro replica ⟨⟩
    exact ⟨hfresh.sound, hfresh.rowsWithin hsound TableSpec.mem_all_kinds⟩
  have hspelled : Database.Spelled .migrated := fun kind id hreads =>
    hfresh.typed.textual.has_of_reads TableSpec.mem_all_kinds (TableSpec.takes_kinds _) hreads
  have hsound : (newRegistry .migrated).primary.Sound := hfresh.sound
  obtain ⟨htells, -⟩ := kind_ids_stable hadd (fun _ _ h => h) hsound hspelled (fun _ => rfl)
    disturbedVisits
  refine ⟨by decide +kernel, fun visited hmem answer hanswer kind id htold => ?_⟩
  exact (htells visited hmem answer hanswer kind id htold).2

/-- A primary with a row that spells the name of labels in bytes. -/
def bytesNamed : Database :=
  Database.only .migrated .kinds 2 [.blob [0x6c, 0x61, 0x62, 0x65, 0x6c]]

/-- One store acquires an id for labels, and another one reads the bytes as their name: the two then
give different ids for one kind, though nobody else does anything. -/
theorem kind_ids_differ_on_bytes :
    Others.quiet.AddKinds ∧ bytesNamed.Sound ∧
    ((newRegistry bytesNamed).run .quiet [⟨false, .replica, .acquire [.label]⟩,
        ⟨true, .replica, .resolve [2]⟩, ⟨true, .replica, .acquire [.label]⟩]).1.map
        Visited.outcome =
      [.ok (.numbers ⟨some 3, none, none⟩), .ok (.names (.ofList [(2, .label)])),
        .ok (.numbers ⟨some 2, none, none⟩)] := by
  refine ⟨fun _ before hsound => ⟨hsound, .refl hsound TableSpec.mem_all_kinds, ?_, rfl⟩,
    Database.fresh_migrated.sound.only TableSpec.mem_all_kinds 2 _, by decide +kernel⟩
  rintro replica ⟨⟩

end TermStore
