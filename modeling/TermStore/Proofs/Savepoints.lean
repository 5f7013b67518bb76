import TermStore.Session.Migrating
import TermStore.Proofs.Maps

/-!
# Going back to a savepoint

Whatever was done since a savepoint was set, a program that goes back to it leaves its connection as
it was, or as one that gave its transaction up (`Marked.release_rollBack_after`). With this the
program of a migration is told as a whole: `Database.apply` says what all its statements and its
entry in the ledger do to a database, and on a connection without a transaction the program does
just that, or nothing (`Connection.applyMigration_of`). The statements come to this one by one
(`Marked.executeAll_cases`); what each of them leaves alone is that a database is closed to writing
or not, which no savepoint brings back.
-/

namespace TermStore.Session

open Storage (Database Table Fault)

namespace Marked

/-- Whatever was done since the savepoint was set, going back leaves the connection as it was, or as
a connection that gave its transaction up. -/
theorem release_rollBack_after (connection : Connection) {database : Database}
    (hreadOnly : database.readOnly = connection.database.readOnly) (fault : Fault) :
    (({ connection.setMark with connection.database := database }).after fault).rollBack.release =
      connection.after fault := by
  obtain ⟨tables, readOnly⟩ := database
  obtain rfl : readOnly = connection.database.readOnly := hreadOnly
  unfold after Connection.after
  by_cases hfull : fault = .full
  · rw [if_pos hfull, if_pos hfull]
    cases hsaved : connection.saved <;>
      simp [Connection.setMark, rollBack, release, hsaved]
  · rw [if_neg hfull, if_neg hfull]
    rfl

end Marked

/-- A failed call leaves a connection as it was, unless it finds no number left inside a
transaction. -/
theorem Connection.after_all_or_nothing (connection : Connection) (fault : Fault) :
    (fault ≠ .full ∨ connection.saved = none → connection.after fault = connection) ∧
      ∀ begun, fault = .full → connection.saved = some begun →
        connection.after fault = ⟨{ connection.database with tables := begun }, none⟩ := by
  unfold after
  refine ⟨fun hkept => ?_, fun begun hfull hsaved => ?_⟩
  · by_cases hfull : fault = .full
    · have hsaved := hkept.resolve_left (not_not_intro hfull)
      rw [if_pos hfull]
      obtain ⟨database, saved⟩ := connection
      obtain rfl : saved = none := hsaved
      rfl
    · rw [if_neg hfull]
  · rw [if_pos hfull, hsaved]
    rfl

end TermStore.Session

/-! ### What the statements of a migration do -/

namespace TermStore.Storage.Database

variable {db db' : Database}

/-- A table is made where there is none of its name. -/
theorem ensureTable_cases {name key : String} {columns : List Column} {counter : Option Int}
    (h : db.ensureTable name key columns counter = .ok db') :
    db.hasTable name = true ∧ db' = db ∨
      db.hasTable name = false ∧
        db' = db.setTable ⟨name, some key, columns, counter, .empty, []⟩ := by
  unfold ensureTable at h
  split at h
  · next hhas => exact Or.inl ⟨hhas, (Except.ok.inj h).symm⟩
  · next hnot =>
    obtain ⟨_, -, h⟩ := bind_eq_ok_iff.1 h
    obtain ⟨_, -, h⟩ := bind_eq_ok_iff.1 h
    exact Or.inr ⟨Bool.eq_false_iff.2 hnot, (Except.ok.inj h).symm⟩

/-- An index is added to a table where there is none of its name. -/
theorem ensureIndex_cases {name : String} {index : Index}
    (h : db.ensureIndex name index = .ok db') :
    db' = db ∨ ∃ t, db.table name = .ok t ∧
      db' = db.setTable { t with indexes := t.indexes ++ [index] } := by
  unfold ensureIndex at h
  obtain ⟨t, htable, h⟩ := bind_eq_ok_iff.1 h
  split at h
  · cases h
  · split at h
    · exact Or.inl (Except.ok.inj h).symm
    · obtain ⟨_, -, h⟩ := bind_eq_ok_iff.1 h
      obtain ⟨_, -, h⟩ := bind_eq_ok_iff.1 h
      split at h
      · cases h
      · exact Or.inr ⟨t, htable, (Except.ok.inj h).symm⟩

/-- A statement does not open a database to writing, nor close it. -/
theorem readOnly_of_execute {statement : Statement} (h : db.execute statement = .ok db') :
    db'.readOnly = db.readOnly := by
  cases statement with
  | makeTable name key columns =>
      rcases ensureTable_cases h with ⟨-, rfl⟩ | ⟨-, rfl⟩ <;> rfl
  | makeIndex name index =>
      rcases ensureIndex_cases h with rfl | ⟨t, -, rfl⟩ <;> rfl

/-- What a migration comes to: all its statements are carried out and it is entered in the ledger,
or it fails. -/
def apply (db : Database) (migration : Migration) : Except MigrationFault Database :=
  match migration.statements.foldlM execute db with
  | .error _ => .error (.statementFailed migration.version migration.name)
  | .ok changed =>
    match changed.enterVersion migration.version (.text migration.name) with
    | .error _ => .error (.notEntered migration.version migration.name)
    | .ok entered => .ok entered

end TermStore.Storage.Database

/-! ### Migrations as a whole -/

namespace TermStore.Session

open Storage (Database Statement Migration Fault)

namespace Marked

/-- Statements that are carried out one by one do what they do to the database; where one fails, the
database is left as the statements before it made it. -/
theorem executeAll_cases (marked : Marked) (statements : List Statement) :
    (∃ database, statements.foldlM Database.execute marked.connection.database = .ok database ∧
      database.readOnly = marked.connection.database.readOnly ∧
      marked.executeAll statements = (.ok (), { marked with connection.database := database })) ∨
    ∃ fault cause database,
      statements.foldlM Database.execute marked.connection.database = .error fault ∧
      database.readOnly = marked.connection.database.readOnly ∧
      marked.executeAll statements =
        (.error cause, ({ marked with connection.database := database }).after cause) := by
  induction statements generalizing marked with
  | nil => exact Or.inl ⟨marked.connection.database, rfl, rfl, rfl⟩
  | cons statement rest ih =>
      rw [List.foldlM_cons, executeAll]
      cases hone : marked.connection.database.execute statement with
      | error fault =>
          have hexecute : marked.execute (schemaStatement statement) =
              (.error fault, marked.after fault) := by
            simp [execute, schemaStatement, hone, bind, Except.bind]
          rw [hexecute]
          exact Or.inr ⟨fault, fault, marked.connection.database, rfl, rfl, rfl⟩
      | ok middle =>
          have hexecute : marked.execute (schemaStatement statement) =
              (.ok (), { marked with connection.database := middle }) := by
            simp [execute, schemaStatement, hone, bind, Except.bind, pure, Except.pure]
          have hmiddle := Database.readOnly_of_execute hone
          rw [hexecute]
          rcases ih { marked with connection.database := middle } with
            ⟨database, hfold, hreadOnly, hall⟩ | ⟨fault, cause, database, hfold, hreadOnly, hall⟩
          · exact Or.inl ⟨database, hfold, hreadOnly.trans hmiddle, hall⟩
          · exact Or.inr ⟨fault, cause, database, hfold, hreadOnly.trans hmiddle, hall⟩

end Marked

namespace Connection

/-- The program of a migration does what the migration comes to, or leaves the connection as a
failed call does. -/
theorem applyMigration_cases (connection : Connection) (migration : Migration) :
    (∃ changed, connection.database.apply migration = .ok changed ∧
      connection.applyMigration migration = (.ok (), { connection with database := changed })) ∨
    ∃ fault cause, connection.database.apply migration = .error fault ∧
      connection.applyMigration migration = (.error fault, connection.after cause) := by
  unfold applyMigration Database.apply
  rcases Marked.executeAll_cases connection.setMark migration.statements with
    ⟨database, hfold, hreadOnly, hall⟩ | ⟨fault, cause, database, hfold, hreadOnly, hall⟩
  · have hstatements : migration.statements.foldlM Database.execute connection.database =
        .ok database := hfold
    rw [hstatements, hall]
    cases hentry : database.enterVersion migration.version (.text migration.name) with
    | ok entered =>
        refine Or.inl ⟨entered, by simp only [hentry], ?_⟩
        simp only [Marked.execute, entryStatement, hentry, bind, Except.bind, pure, Except.pure]
        rfl
    | error fault =>
        refine Or.inr ⟨_, fault, by simp only [hentry]; rfl, ?_⟩
        simp only [Marked.execute, entryStatement, hentry, bind, Except.bind]
        exact Prod.ext rfl (Marked.release_rollBack_after connection hreadOnly fault)
  · have hstatements : migration.statements.foldlM Database.execute connection.database =
        .error fault := hfold
    rw [hstatements, hall]
    exact Or.inr ⟨_, cause, rfl,
      Prod.ext rfl (Marked.release_rollBack_after connection hreadOnly cause)⟩

/-- On a connection without a transaction a migration is applied as a whole or not at all. -/
theorem applyMigration_of (db : Database) (migration : Migration) :
    (Connection.of db).applyMigration migration =
      match db.apply migration with
      | .ok changed => (.ok (), .of changed)
      | .error fault => (.error fault, .of db) := by
  rcases applyMigration_cases (.of db) migration with
    ⟨changed, happly, hprogram⟩ | ⟨fault, cause, happly, hprogram⟩
  · rw [hprogram, show db.apply migration = .ok changed from happly]
    rfl
  · rw [hprogram, show db.apply migration = .error fault from happly,
      ((Connection.of db).after_all_or_nothing cause).1 (Or.inr rfl)]

end Connection

end TermStore.Session
