import Mathlib
import CasperSidecar.Lib.UniqueIndex
import CasperSidecar.Types.SseData
import CasperSidecar.Database.Types

/-!
# Database.EventStore

The event tables of the sidecar's database and the writers that fill them
(`sql/tables/*.rs`, the `save_*` functions of `database/writer_generator.rs`).

Every row is kept as its table and the values it takes in the table's unique
indexes, the only columns on which an insert can fail:

* `event_log`: the autoincrement primary key `event_log_id`, and the unique
  index on (`event_source_address`, `event_id`, `event_type_id`, `event_key`);
* `BlockAdded`: the unique `height` and the primary key (`block_hash`, `height`);
* `DeployAccepted`, `DeployProcessed`, `DeployExpired`: `deploy_hash`;
* `DeployEvent`: (`deploy_hash`, `event_log_id`);
* `Fault`: (`era`, `public_key`); `FinalitySignature`: (`block_hash`, `public_key`);
  `Step`: `era`; `Shutdown`: (`event_source_address`, `shutdown_timestamp`).

The raw JSON columns and the foreign keys to `event_log` cannot make a writer's
insert fail and are left out.  The `event_key` text each writer formats (hex
hashes and keys, era numbers, the source and a Unix time) is kept as the fields
it is formatted from; the formatting is injective for each event type.

A writer runs `save_event_log` and its own inserts in one transaction, committed
only when every insert succeeds (`EventStore.saveEvent`); a unique-index
violation is reported as `DatabaseWriteError::UniqueConstraint` naming the
table, as `From<sqlx::Error>` does for the PostgreSQL and SQLite codes.
-/

namespace CasperSidecar

open UniqueIndex

/-- `EventTypeId`, the `event_type` rows the initial migration inserts. -/
inductive EventTypeId where
  | blockAdded
  | deployAccepted
  | deployExpired
  | deployProcessed
  | fault
  | finalitySignature
  | step
  | shutdown
deriving DecidableEq, Repr

/-- The `event_key` column, as the fields each writer formats it from. -/
inductive EventKey where
  /-- `hex::encode` of a block or deploy hash. -/
  | hash (digest : Digest)
  /-- `format!("{era_id} {public_key}")` of a fault. -/
  | eraPublicKey (era : EraId) (publicKey : PublicKey)
  /-- `format!("{block_hash} {public_key}")` of a finality signature. -/
  | blockHashPublicKey (blockHash : BlockHash) (publicKey : PublicKey)
  /-- `era_id.to_string()` of a step. -/
  | era (era : EraId)
  /-- `format!("{}-{}", event_source_address, unix_timestamp)` of a shutdown. -/
  | sourceTimestamp (source : String) (unixTimestamp : UInt64)
deriving DecidableEq

/-- A value of one unique index of one table. -/
inductive IndexKey where
  | eventLogId (eventLogId : Nat)
  | eventLog (source : String) (eventId : UInt32) (eventTypeId : EventTypeId) (eventKey : EventKey)
  | blockAddedHeight (height : UInt64)
  | blockAdded (blockHash : BlockHash) (height : UInt64)
  | deployAccepted (deployHash : DeployHash)
  | deployEvent (deployHash : DeployHash) (eventLogId : Nat)
  | deployExpired (deployHash : DeployHash)
  | deployProcessed (deployHash : DeployHash)
  | fault (era : EraId) (publicKey : PublicKey)
  | finalitySignature (blockHash : BlockHash) (publicKey : PublicKey)
  | step (era : EraId)
  | shutdown (source : String) (shutdownTimestamp : UInt64)
deriving DecidableEq

/-- The table an index belongs to, which a violation of it names. -/
def IndexKey.table : IndexKey → Table
  | .eventLogId _ | .eventLog .. => .eventLog
  | .blockAddedHeight _ | .blockAdded .. => .blockAdded
  | .deployAccepted _ => .deployAccepted
  | .deployEvent .. => .deployEvent
  | .deployExpired _ => .deployExpired
  | .deployProcessed _ => .deployProcessed
  | .fault .. => .fault
  | .finalitySignature .. => .finalitySignature
  | .step _ => .step
  | .shutdown .. => .shutdown

/-- A row: its table and its unique-index values. -/
structure Row where
  table : Table
  keys : List IndexKey
deriving DecidableEq

/-- The event tables: their rows under the unique indexes, and the next value of the
`event_log_id` autoincrement. -/
structure EventStore where
  tables : Store Row.keys
  nextEventLogId : Nat

/-- The tables with no rows. -/
def EventStore.empty : EventStore := ⟨⟨[], List.nodup_nil⟩, 1⟩

/-- The row `save_event_log` inserts. -/
def eventLogRow (eventLogId : Nat) (eventTypeId : EventTypeId) (eventSourceAddress : String)
    (eventId : UInt32) (eventKey : EventKey) : Row :=
  ⟨.eventLog, [.eventLogId eventLogId, .eventLog eventSourceAddress eventId eventTypeId eventKey]⟩

/-- What every `save_*` writer does: in one transaction, `save_event_log`, then the
writer's own rows, which may refer to the new `event_log_id`; the transaction commits
when every insert succeeds and rolls back at the first violation. -/
def EventStore.saveEvent (store : EventStore) (eventTypeId : EventTypeId)
    (eventSourceAddress : String) (eventId : UInt32) (eventKey : EventKey)
    (rows : Nat → List Row) : Except DatabaseWriteError EventStore :=
  let eventLogId := store.nextEventLogId
  match store.tables.insertAll
      (eventLogRow eventLogId eventTypeId eventSourceAddress eventId eventKey :: rows eventLogId) with
  | .error value => .error (.uniqueConstraint value.table)
  | .ok tables => .ok ⟨tables, eventLogId + 1⟩

/-! ## The writers -/

/-- `save_block_added`: the height is `block.header.height`, the key the block hash. -/
def EventStore.saveBlockAdded (store : EventStore) (blockHash : BlockHash) (block : JsonBlock)
    (eventId : UInt32) (eventSourceAddress : String) : Except DatabaseWriteError EventStore :=
  store.saveEvent .blockAdded eventSourceAddress eventId (.hash blockHash.inner) fun _ =>
    [⟨.blockAdded, [.blockAddedHeight block.height, .blockAdded blockHash block.height]⟩]

/-- `save_deploy_accepted`: the `DeployAccepted` row and its `DeployEvent` row. -/
def EventStore.saveDeployAccepted (store : EventStore) (deploy : Deploy) (eventId : UInt32)
    (eventSourceAddress : String) : Except DatabaseWriteError EventStore :=
  store.saveEvent .deployAccepted eventSourceAddress eventId (.hash deploy.hash.inner)
    fun eventLogId =>
      [⟨.deployAccepted, [.deployAccepted deploy.hash]⟩,
        ⟨.deployEvent, [.deployEvent deploy.hash eventLogId]⟩]

/-- `save_deploy_processed`: the `DeployProcessed` row and its `DeployEvent` row. -/
def EventStore.saveDeployProcessed (store : EventStore) (deployHash : DeployHash)
    (eventId : UInt32) (eventSourceAddress : String) : Except DatabaseWriteError EventStore :=
  store.saveEvent .deployProcessed eventSourceAddress eventId (.hash deployHash.inner)
    fun eventLogId =>
      [⟨.deployProcessed, [.deployProcessed deployHash]⟩,
        ⟨.deployEvent, [.deployEvent deployHash eventLogId]⟩]

/-- `save_deploy_expired`: the `DeployExpired` row and its `DeployEvent` row. -/
def EventStore.saveDeployExpired (store : EventStore) (deployHash : DeployHash)
    (eventId : UInt32) (eventSourceAddress : String) : Except DatabaseWriteError EventStore :=
  store.saveEvent .deployExpired eventSourceAddress eventId (.hash deployHash.inner)
    fun eventLogId =>
      [⟨.deployExpired, [.deployExpired deployHash]⟩,
        ⟨.deployEvent, [.deployEvent deployHash eventLogId]⟩]

/-- `save_fault`. -/
def EventStore.saveFault (store : EventStore) (eraId : EraId) (publicKey : PublicKey)
    (eventId : UInt32) (eventSourceAddress : String) : Except DatabaseWriteError EventStore :=
  store.saveEvent .fault eventSourceAddress eventId (.eraPublicKey eraId publicKey) fun _ =>
    [⟨.fault, [.fault eraId publicKey]⟩]

/-- `save_finality_signature`: keyed by the signed block's hash and the signer. -/
def EventStore.saveFinalitySignature (store : EventStore) (finalitySignature : FinalitySignature)
    (eventId : UInt32) (eventSourceAddress : String) : Except DatabaseWriteError EventStore :=
  store.saveEvent .finalitySignature eventSourceAddress eventId
    (.blockHashPublicKey finalitySignature.blockHash finalitySignature.publicKey) fun _ =>
      [⟨.finalitySignature,
        [.finalitySignature finalitySignature.blockHash finalitySignature.publicKey]⟩]

/-- `save_step`. -/
def EventStore.saveStep (store : EventStore) (eraId : EraId) (eventId : UInt32)
    (eventSourceAddress : String) : Except DatabaseWriteError EventStore :=
  store.saveEvent .step eventSourceAddress eventId (.era eraId) fun _ =>
    [⟨.step, [.step eraId]⟩]

/-- `save_shutdown`: the event key carries the writer's Unix time; the row's
`shutdown_timestamp` is the database's `CURRENT_TIMESTAMP` at the insert. -/
def EventStore.saveShutdown (store : EventStore) (eventId : UInt32) (eventSourceAddress : String)
    (unixTimestamp currentTimestamp : UInt64) : Except DatabaseWriteError EventStore :=
  store.saveEvent .shutdown eventSourceAddress eventId
    (.sourceTimestamp eventSourceAddress unixTimestamp) fun _ =>
      [⟨.shutdown, [.shutdown eventSourceAddress currentTimestamp]⟩]

/-! ## The shared transaction -/

/-- **A committed writer** appended its `event_log` row and its own rows. -/
theorem EventStore.rows_of_saveEvent_eq_ok {store store' : EventStore} {eventTypeId : EventTypeId}
    {source : String} {eventId : UInt32} {eventKey : EventKey} {rows : Nat → List Row}
    (h : store.saveEvent eventTypeId source eventId eventKey rows = .ok store') :
    store'.tables.rows = store.tables.rows ++
      (eventLogRow store.nextEventLogId eventTypeId source eventId eventKey ::
        rows store.nextEventLogId) := by
  simp only [EventStore.saveEvent] at h
  split at h
  · cases h
  · rename_i tables hinsert
    cases h
    exact Store.rows_of_insertAll_eq_ok hinsert

/-- **A writer repeating a stored value fails**: a row it inserts shares a unique-index
value with a stored row. -/
theorem EventStore.saveEvent_ne_ok_of_clash {store store' : EventStore} {eventTypeId : EventTypeId}
    {source : String} {eventId : UInt32} {eventKey : EventKey} {rows : Nat → List Row}
    {row stored : Row} {key : IndexKey} (hrow : row ∈ rows store.nextEventLogId)
    (hstored : stored ∈ store.tables.rows) (hkey : key ∈ row.keys) (hkey' : key ∈ stored.keys) :
    store.saveEvent eventTypeId source eventId eventKey rows ≠ .ok store' := by
  simp only [EventStore.saveEvent]
  split
  · exact fun h => by cases h
  · rename_i tables hinsert
    exact absurd hinsert
      (Store.insertAll_ne_ok_of_clash (List.mem_cons_of_mem _ hrow) hstored hkey hkey' tables)

/-- **A failed writer** reports a unique-index violation of a table it writes to. -/
theorem EventStore.saveEvent_eq_error {store : EventStore} {eventTypeId : EventTypeId}
    {source : String} {eventId : UInt32} {eventKey : EventKey} {rows : Nat → List Row}
    {err : DatabaseWriteError}
    (h : store.saveEvent eventTypeId source eventId eventKey rows = .error err) :
    ∃ row ∈ eventLogRow store.nextEventLogId eventTypeId source eventId eventKey ::
        rows store.nextEventLogId,
      ∃ value ∈ row.keys, err = .uniqueConstraint value.table := by
  simp only [EventStore.saveEvent] at h
  split at h
  · rename_i value hinsert
    cases h
    obtain ⟨row, hrow, hvalue⟩ := Store.exists_mem_keys_of_insertAll_eq_error hinsert
    exact ⟨row, hrow, value, hvalue, rfl⟩
  · cases h

end CasperSidecar
