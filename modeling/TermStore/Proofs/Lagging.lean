import TermStore.Proofs.Faults

/-!
# Replicas that lag behind

A replica is filled from the primary, so all its rows are rows of the primary under the same ids,
but some may not have arrived yet (`Database.Within`). What is compared are the cells of the rows;
the two databases may be laid out differently. What such a replica has, the primary has, and a
look-up that the primary answers is answered by the replica as well.
-/

namespace TermStore

open Storage (TableSpec Table Record RecordIds Cell Database Values)

namespace Storage

/-- The rows of a table are all rows of another one, with the same cells. -/
def Table.Within (spec : TableSpec) (t t' : Table) : Prop :=
  ∀ id values, t.rows.get? id = some values → ∃ values', t'.rows.get? id = some values' ∧
    t'.cells spec (id, values') = t.cells spec (id, values)

theorem Table.Extends.within {t t' : Table} (h : t.Extends t') (spec : TableSpec) :
    t.Within spec t' :=
  fun id values hget => ⟨values, h.2 id values hget, h.1.cells spec (id, values)⟩

namespace Database

variable {db db' db'' : Database} {spec : TableSpec} {record : Record} {id : Int}

/-- The rows of one table of a database are all rows of that table of another one. -/
def RowsWithin (spec : TableSpec) (db db' : Database) : Prop :=
  ∃ t t', db.table spec.name = .ok t ∧ db'.table spec.name = .ok t' ∧ t.Within spec t'

namespace RowsWithin

theorem refl (h : db.Sound) (hspec : spec ∈ TableSpec.all) : db.RowsWithin spec db := by
  obtain ⟨t, htable, -⟩ := h spec hspec
  exact ⟨t, t, htable, htable, fun _ values hget => ⟨values, hget, rfl⟩⟩

theorem trans (h : db.RowsWithin spec db') (h' : db'.RowsWithin spec db'') :
    db.RowsWithin spec db'' := by
  obtain ⟨t, middle, htable, hmiddle, hwithin⟩ := h
  obtain ⟨middle', t', hmiddle', htable', hwithin'⟩ := h'
  obtain rfl := Except.ok.inj (hmiddle.symm.trans hmiddle')
  refine ⟨t, t', htable, htable', fun id values hget => ?_⟩
  obtain ⟨values', hget', hcells⟩ := hwithin id values hget
  obtain ⟨values'', hget'', hcells'⟩ := hwithin' id values' hget'
  exact ⟨values'', hget'', hcells'.trans hcells⟩

/-- What the one database has, the other one has. -/
theorem has (h : db.RowsWithin spec db') (hhas : db.Has spec id record) :
    db'.Has spec id record := by
  obtain ⟨t₀, htable₀, values, hget, hcells⟩ := hhas
  obtain ⟨t, t', htable, htable', hwithin⟩ := h
  obtain rfl := Except.ok.inj (htable.symm.trans htable₀)
  obtain ⟨values', hget', hcells'⟩ := hwithin id values hget
  exact ⟨t', htable', values', hget', hcells'.trans hcells⟩

end RowsWithin

/-- The rows of the four tables of a database are all rows of another one. -/
def Within (db db' : Database) : Prop :=
  ∀ spec ∈ TableSpec.all, ∃ t t', db.table spec.name = .ok t ∧ db'.table spec.name = .ok t' ∧
    t.Within spec t'

theorem Grows.within (h : db.Grows db') : db.Within db' := by
  intro spec hspec
  obtain ⟨t, t', htable, htable', hextends⟩ := h spec hspec
  exact ⟨t, t', htable, htable', hextends.within spec⟩

theorem Within.trans (h : db.Within db') (h' : db'.Within db'') : db.Within db'' :=
  fun spec hspec => RowsWithin.trans (h spec hspec) (h' spec hspec)

theorem Within.has (h : db.Within db') (hspec : spec ∈ TableSpec.all)
    (hhas : db.Has spec id record) : db'.Has spec id record :=
  RowsWithin.has (h spec hspec) hhas

/-- A row of the one database holds what it holds in the other one. -/
theorem Within.has_of_row (h : db.Within db') (hspec : spec ∈ TableSpec.all)
    (hhas : db'.Has spec id record) {t : Table} (htable : db.table spec.name = .ok t)
    {values : Values} (hget : t.rows.get? id = some values) : db.Has spec id record := by
  obtain ⟨t₀', htable₀', held, hheld, hcells⟩ := hhas
  obtain ⟨t₀, t', htable₀, htable', hwithin⟩ := h spec hspec
  obtain rfl := Except.ok.inj (htable.symm.trans htable₀)
  obtain rfl := Except.ok.inj (htable'.symm.trans htable₀')
  obtain ⟨values', hget', hcells'⟩ := hwithin id values hget
  obtain rfl := Option.some.inj (hget'.symm.trans hheld)
  exact ⟨t, htable, values, hget, hcells'.symm.trans hcells⟩

/-- What a row of the one database reads as, it holds, if the other one holds a record there. -/
theorem Within.has_of_reads (h : db.Within db') (hspec : spec ∈ TableSpec.all)
    (hhas : db'.Has spec id record) {other : Record} (hreads : db.Reads spec id other) :
    db.Has spec id other := by
  have hrow := hreads
  obtain ⟨t, htable, values, hget, -⟩ := hrow
  have hown := h.has_of_row hspec hhas htable hget
  rw [hreads.functional hown.reads]
  exact hown

theorem Within.readable (h : db.Within db') (hspec : spec ∈ TableSpec.all)
    (hhas : db'.Has spec id record) : db.Readable spec id := by
  obtain ⟨t, -, htable, -, -⟩ := h spec hspec
  refine ⟨t, htable, fun values hget => ?_⟩
  obtain ⟨t', htable', hreads⟩ := (h.has_of_row hspec hhas htable hget).reads
  obtain rfl := Except.ok.inj (htable.symm.trans htable')
  exact ⟨record, hreads⟩

theorem Within.leadsTo (h : db.Within db') {kindId : Int} {language text : String}
    (hleads : db.LeadsTo id kindId language text) : db'.LeadsTo id kindId language text := by
  obtain ⟨middleId, textId, hterm, hmiddle, htext⟩ := hleads
  exact ⟨middleId, textId, h.has TableSpec.mem_all_termsInLanguage hterm,
    h.has TableSpec.mem_all_textsInLanguage hmiddle, h.has TableSpec.mem_all_texts htext⟩

/-- A row that matches a record matches it in the other database, too. -/
theorem Within.exact (h : db.Within db') (hsound : db.Sound) (hsound' : db'.Sound)
    (hspec : spec ∈ TableSpec.all) (htakes : spec.Takes record) (hexact : db'.Exact spec record) :
    db.Exact spec record := by
  obtain ⟨t₀', htable₀', hexact⟩ := hexact
  obtain ⟨t, t', htable, htable', hwithin⟩ := h spec hspec
  obtain rfl := Except.ok.inj (htable'.symm.trans htable₀')
  refine ⟨t, htable, fun id values hget hmatches => ?_⟩
  obtain ⟨values', hget', hcells⟩ := hwithin id values hget
  have hkeeps := (hsound.of_table hspec htable).keeps
  have hkeeps' := (hsound'.of_table hspec htable').keeps
  rw [← hcells]
  refine hexact id values' hget' ((hkeeps'.matches_iff htakes).2 ?_)
  rw [hcells]
  exact (hkeeps.matches_iff htakes).1 hmatches

end Database

end Storage

namespace Databases

variable {databases before after : Databases} {side : Side}

/-- A store has no rows but those of the primary. -/
structure Follows (databases : Databases) (side : Side) : Prop where
  sound : (databases.database side).Sound
  within : (databases.database side).Within databases.primary

/-- The replica, where there is one of its own, has no rows but those of the primary. -/
def Lags (databases : Databases) : Prop :=
  ∀ replica ∈ databases.replica, replica.Sound ∧ replica.Within databases.primary

theorem follows_primary (h : databases.primary.Sound) : databases.Follows .primary :=
  ⟨h, h.grows_refl.within⟩

theorem Lags.follows (h : databases.Lags) (hsound : databases.primary.Sound) (side : Side) :
    databases.Follows side := by
  cases side with
  | primary => exact follows_primary hsound
  | replica =>
      cases hreplica : databases.replica with
      | none =>
          have hsame : databases.database .replica = databases.primary := by
            unfold database
            rw [hreplica]
            rfl
          exact ⟨hsame ▸ hsound, hsame ▸ hsound.grows_refl.within⟩
      | some replica =>
          have hsame : databases.database .replica = replica := by
            unfold database
            rw [hreplica]
            rfl
          obtain ⟨hsound', hwithin⟩ := h replica hreplica
          exact ⟨hsame ▸ hsound', hsame ▸ hwithin⟩

/-- A store that follows the primary follows it later on, too. -/
theorem Follows.onward (h : before.Follows side) (honward : before.Onward after) :
    after.Follows side := by
  rcases before.database_onward side with haside | hon
  · have hsame := haside after honward
    exact ⟨hsame ▸ h.sound, hsame ▸ h.within.trans honward.grows.within⟩
  · have hsame := hon after honward.replica
    exact ⟨hsame ▸ honward.sound, hsame ▸ honward.sound.grows_refl.within⟩

theorem Lags.onward (h : before.Lags) (honward : before.Onward after) : after.Lags := by
  intro replica hreplica
  rw [honward.replica] at hreplica
  obtain ⟨hsound, hwithin⟩ := h replica hreplica
  exact ⟨hsound, hwithin.trans honward.grows.within⟩

end Databases

end TermStore
