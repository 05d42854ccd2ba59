import Mathlib

/-!
# Database.Types

The tables of the sidecar's database (`sidecar/src/sql/tables`) and the
writer's and the reader's error types (`types/database.rs`).  Driver errors are
kept by kind: `From<sqlx::Error>` maps the unique-constraint codes of PostgreSQL (`23505`)
and SQLite (`1555`, `2067`) to `UniqueConstraint`, naming the table, and every
other driver error to `Database`.
-/

namespace CasperSidecar

/-- The tables of the database. -/
inductive Table where
  | blockAdded
  | deployAccepted
  | deployEvent
  | deployExpired
  | deployProcessed
  | eventLog
  | eventType
  | fault
  | finalitySignature
  | migration
  | shutdown
  | step
deriving DecidableEq, Repr

/-- `DatabaseWriteError`. -/
inductive DatabaseWriteError where
  /-- The data could not be serialised. -/
  | serialisation
  /-- The SQL could not be constructed. -/
  | sqlConstruction
  /-- The database rejected an insert that would break a unique constraint of `table`. -/
  | uniqueConstraint (table : Table)
  /-- The database rejected the statement otherwise. -/
  | database
  /-- Anything else. -/
  | unhandled
deriving DecidableEq, Repr

/-- `DatabaseReadError`. -/
inductive DatabaseReadError where
  /-- The requested record was not present. -/
  | notFound
  /-- The stored JSON did not deserialize. -/
  | serialisation
  /-- Any other error, a failed connection among them. -/
  | unhandled
deriving DecidableEq, Repr

end CasperSidecar
