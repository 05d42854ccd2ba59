import Mathlib
import CasperSidecar.Database.MigrationManager

/-!
# Database.MigrationFailures

`execute_migration` (`database/writer_generator.rs`) with every database
operation it awaits allowed to fail: `begin` of the transaction, the
statements and the script (`Migration.run`), the `commit` or the `rollback`,
and the insert of the version row by `store_version_based_on_result`, which
runs on the connection pool after the transaction has ended.  Each `?`
returns the error at once.

`MigrationScriptExecutor` documents that the statements and the script are
all-or-nothing.  The version row is not part of that transaction: when the
commit succeeds and the insert of `(version, true)` fails, the migration's
changes are committed, the `Migration` table does not record them and
`execute_migration` returns the error (`migration_committed_without_version_row`).
With no operation failing the model is `Database.executeMigration`
(`executeMigrationUnder_reliable`).
-/

namespace CasperSidecar

variable {σ : Type}

/-- Which database operations of one `execute_migration` fail, besides the statements
and the script, whose failures are those of `Migration.run`. -/
structure MigrationFaults where
  beginFails : Bool
  commitFails : Bool
  rollbackFails : Bool
  versionInsertFails : Bool
deriving DecidableEq, Repr

/-- No operation fails. -/
def MigrationFaults.reliable : MigrationFaults := ⟨false, false, false, false⟩

/-- The ghost record of a versioned migration whose transaction ran, with whether its
changes were committed. -/
def Database.recordExecution (db : Database σ) (maybeVersion : Option UInt32) (committed : Bool) :
    Database σ :=
  match maybeVersion with
  | some version => { db with executions := db.executions ++ [(version, committed)] }
  | none => db

/-- `store_version_based_on_result` when the insert on the pool may fail: its error
replaces the outcome and no row is added. -/
def Database.storeVersionBasedOnResultUnder (db : Database σ) (maybeVersion : Option UInt32)
    (res : Except DatabaseWriteError Unit) (insertFails : Bool) :
    Database σ × Except DatabaseWriteError Unit :=
  match maybeVersion with
  | none => (db, res)
  | some version =>
      if insertFails then (db, .error .database)
      else db.storeVersionBasedOnResult (some version) res

/-- `execute_migration` under `faults`: a failed `begin`, or statements that cannot be
built, return before anything runs; a successful run is committed and a failed one rolled back, and a failure of either
returns at once; otherwise the outcome is recorded on the pool. -/
def Database.executeMigrationUnder (db : Database σ) (migration : Migration σ)
    (faults : MigrationFaults) : Database σ × Except DatabaseWriteError Unit :=
  if faults.beginFails then (db, .error .database)
  -- `get_migrations(..)?` returns before the transaction runs anything
  else if !migration.producesStatements then (db, .error .unhandled)
  else
    match migration.run db.state with
    | .ok state =>
        if faults.commitFails then (db.recordExecution migration.version false, .error .database)
        else
          ({ db with state }.recordExecution migration.version true).storeVersionBasedOnResultUnder
            migration.version (.ok ()) faults.versionInsertFails
    | .error err =>
        if faults.rollbackFails then (db.recordExecution migration.version false, .error .database)
        else
          (db.recordExecution migration.version false).storeVersionBasedOnResultUnder
            migration.version (.error err) faults.versionInsertFails

/-- **With no failing operation the model is `execute_migration` of
`Database.MigrationManager`.** -/
theorem executeMigrationUnder_reliable (db : Database σ) (migration : Migration σ) :
    db.executeMigrationUnder migration .reliable = db.executeMigration migration := by
  obtain ⟨version, producesStatements, run⟩ := migration
  simp only [Database.executeMigrationUnder, MigrationFaults.reliable, Database.executeMigration]
  cases producesStatements with
  | false => rfl
  | true =>
      cases run db.state with
      | ok state => cases version <;> rfl
      | error err => cases version <;> rfl

/-- **The version row is not in the migration's transaction.**  For a versioned
migration whose statements are built and, with its script, succeed, on a database whose
`Migration` table has no `(version, true)` row: when the commit succeeds and the insert of the version
row fails, the migration's changes are committed, the table does not hold
`(version, true)`, and `execute_migration` returns an error. -/
theorem migration_committed_without_version_row (db : Database σ) {migration : Migration σ}
    {version : UInt32} {state : σ} (hversion : migration.version = some version)
    (hbuilt : migration.producesStatements = true) (hrun : migration.run db.state = .ok state)
    (hfresh : (version, true) ∉ db.migrationTable.rows) :
    (db.executeMigrationUnder migration ⟨false, false, false, true⟩).1.state = state ∧
      (version, true) ∈ (db.executeMigrationUnder migration ⟨false, false, false, true⟩).1.executions ∧
      (version, true) ∉
        (db.executeMigrationUnder migration ⟨false, false, false, true⟩).1.migrationTable.rows ∧
      (db.executeMigrationUnder migration ⟨false, false, false, true⟩).2 = .error .database := by
  simp only [Database.executeMigrationUnder, hbuilt, hrun, hversion, Database.recordExecution,
    Database.storeVersionBasedOnResultUnder, if_true, Bool.not_true, Bool.false_eq_true, if_false]
  exact ⟨trivial, List.mem_append_right _ (List.mem_singleton_self _), hfresh, trivial⟩

/-- The first migration of a fresh database, whose version insert fails after the
commit: its changes are in, its row is not. -/
theorem migration_committed_without_version_row_fresh :
    ((Database.fresh 0).executeMigrationUnder ⟨some 1, true, fun n => .ok (n + 1)⟩
        ⟨false, false, false, true⟩).1.state = 1 ∧
      (1, true) ∈ ((Database.fresh 0).executeMigrationUnder ⟨some 1, true, fun n => .ok (n + 1)⟩
        ⟨false, false, false, true⟩).1.executions ∧
      (1, true) ∉ ((Database.fresh 0).executeMigrationUnder ⟨some 1, true, fun n => .ok (n + 1)⟩
        ⟨false, false, false, true⟩).1.migrationTable.rows ∧
      ((Database.fresh 0).executeMigrationUnder ⟨some 1, true, fun n => .ok (n + 1)⟩
        ⟨false, false, false, true⟩).2 = .error .database :=
  migration_committed_without_version_row (Database.fresh 0) rfl rfl rfl
    (by simp [Database.fresh, MigrationTable.empty])

end CasperSidecar
