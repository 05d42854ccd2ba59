import Mathlib
import CasperSidecar.Lib.Transition
import CasperSidecar.Lib.Records
import CasperSidecar.Database.EventStore

/-!
# Sidecar.EventHandling

The sidecar's consumer of inbound events (`sidecar/src/main.rs`):
`handle_single_event` saves each event from the node connections through the
writer of its kind and sends it on the outbound channel when
`handle_database_save_result` sees `Ok`; `Shutdown` also goes out when its row
already existed, and `ApiVersion` goes through the `ApiVersionManager`
(`api_version_manager.rs`), which lets out only a version newer than every one
seen.

The consumers run `handle_single_event` one event at a time
(`start_single_threaded_events_consumer`) or one task per inbound filter
(`start_multi_threaded_events_consumer`).  Each writer's transaction is one
atomic step on the database; between a handler's save and its send, other
handlers run.  The model lets any number of handlers be between their save
and their send (`Sidecar.sending`), so it covers both consumers and every
interleaving of events from any number of nodes.  A transaction may also
fail for a reason of the driver (`dbFails`), which rolls it back.

Over every run the events sent downstream take pairwise distinct keys in the
tables of their kinds, and each was sent after its row and its `event_log`
row were committed (`outbound_committed`).  The `ApiVersion` messages sent are the
records of the versions handled, the versions greater than every one handled before
them, so they increase (`api_versions_sent_when_newer`).
-/

namespace CasperSidecar

/-! ## The `ApiVersionManager` -/

/-- `ApiVersionManager`: the newest protocol version seen. -/
structure ApiVersionManager where
  newestProtocolVersion : Option ProtocolVersion
deriving DecidableEq

/-- `ApiVersionManager::store_version`: whether the version is newer than every one
seen, with the manager that has stored it then. -/
def ApiVersionManager.storeVersion (m : ApiVersionManager) (protocolVersion : ProtocolVersion) :
    Bool × ApiVersionManager :=
  match m.newestProtocolVersion with
  | some current =>
      if current.lt protocolVersion then (true, ⟨some protocolVersion⟩) else (false, m)
  | none => (true, ⟨some protocolVersion⟩)

/-! ## The consumer -/

/-- `listener::SseEvent`: an event from a node connection. -/
structure SseEvent where
  id : UInt32
  data : SseData
  source : String
  jsonData : Option String
  inboundFilter : Filter
deriving DecidableEq

/-- A message on the outbound channel: the data, the inbound filter it came from, and
the node's raw JSON when it has to be re-sent as received. -/
abbrev OutboundMessage := SseData × Option Filter × Option String

/-- The consumer side of the sidecar: the database's event tables, the API version
manager, the handlers past their save and before their send, and what was sent on the
outbound channel, oldest first. -/
structure Sidecar where
  store : EventStore
  apiVersionManager : ApiVersionManager
  sending : List OutboundMessage
  outbound : List OutboundMessage

/-- The sidecar started over a database holding `store`. -/
def Sidecar.init (store : EventStore) : Sidecar := ⟨store, ⟨none⟩, [], []⟩

/-- A writer's transaction as the handler sees it: a driver error (a lost connection,
a busy database, a failed commit) rolls it back like a violation does. -/
def transactionResult (dbFails : Bool) (res : Except DatabaseWriteError EventStore) :
    Except DatabaseWriteError EventStore :=
  if dbFails then .error .database else res

/-- `handle_database_save_result`: on `Ok` the handler goes on to send the event; on
any error it only logs. -/
def Sidecar.handleDatabaseSaveResult (s : Sidecar) (res : Except DatabaseWriteError EventStore)
    (message : OutboundMessage) : Sidecar :=
  match res with
  | .ok store => { s with store, sending := s.sending ++ [message] }
  | .error _ => s

/-- `handle_shutdown`: the shutdown is sent when saved and also when its row already
existed, so that every outbound filter it came on sees it. -/
def Sidecar.handleShutdown (s : Sidecar) (res : Except DatabaseWriteError EventStore)
    (message : OutboundMessage) : Sidecar :=
  match res with
  | .ok store => { s with store, sending := s.sending ++ [message] }
  | .error (.uniqueConstraint _) => { s with sending := s.sending ++ [message] }
  | .error _ => s

/-- `handle_api_version`: under the manager's lock, a newer version is stored and sent
before the lock is released. -/
def Sidecar.handleApiVersion (s : Sidecar) (version : ProtocolVersion) (filter : Filter) :
    Sidecar :=
  match s.apiVersionManager.storeVersion version with
  | (true, apiVersionManager) =>
      { s with apiVersionManager, outbound := s.outbound ++ [(.apiVersion version, some filter, none)] }
  | (false, apiVersionManager) => { s with apiVersionManager }

/-- `handle_single_event`, up to the send: the writer of the event's kind, then
`handle_database_save_result`.  The shutdown writer reads two clocks: the writer's
Unix time for the event key and the database's `CURRENT_TIMESTAMP` for the row. -/
def Sidecar.handleSingleEvent (s : Sidecar) (event : SseEvent) (dbFails : Bool)
    (unixTimestamp currentTimestamp : UInt64) : Sidecar :=
  let message : OutboundMessage := (event.data, some event.inboundFilter, event.jsonData)
  match event.data with
  | .sidecarVersion _ => s
  | .apiVersion version => s.handleApiVersion version event.inboundFilter
  | .blockAdded blockHash block =>
      s.handleDatabaseSaveResult
        (transactionResult dbFails (s.store.saveBlockAdded blockHash block event.id event.source))
        message
  | .deployAccepted deploy =>
      s.handleDatabaseSaveResult
        (transactionResult dbFails (s.store.saveDeployAccepted deploy event.id event.source))
        message
  | .deployProcessed deployHash .. =>
      s.handleDatabaseSaveResult
        (transactionResult dbFails (s.store.saveDeployProcessed deployHash event.id event.source))
        message
  | .deployExpired deployHash =>
      s.handleDatabaseSaveResult
        (transactionResult dbFails (s.store.saveDeployExpired deployHash event.id event.source))
        message
  | .fault eraId publicKey _ =>
      s.handleDatabaseSaveResult
        (transactionResult dbFails (s.store.saveFault eraId publicKey event.id event.source))
        message
  | .finalitySignature finalitySignature =>
      s.handleDatabaseSaveResult
        (transactionResult dbFails
          (s.store.saveFinalitySignature finalitySignature event.id event.source))
        message
  | .step eraId _ =>
      s.handleDatabaseSaveResult
        (transactionResult dbFails (s.store.saveStep eraId event.id event.source)) message
  | .shutdown =>
      s.handleShutdown
        (transactionResult dbFails
          (s.store.saveShutdown event.id event.source unixTimestamp currentTimestamp))
        message

/-- What happens next in the consumer: a handler takes an event through its save, or
the `i`-th handler past its save completes its send. -/
inductive Sidecar.Action where
  | handle (event : SseEvent) (dbFails : Bool) (unixTimestamp currentTimestamp : UInt64)
  | send (i : Nat)

def Sidecar.step (s : Sidecar) : Sidecar.Action → Option Sidecar
  | .handle event dbFails unixTimestamp currentTimestamp =>
      some (s.handleSingleEvent event dbFails unixTimestamp currentTimestamp)
  | .send i =>
      if h : i < s.sending.length then
        some { s with sending := s.sending.eraseIdx i, outbound := s.outbound ++ [s.sending[i]] }
      else none

/-- The states the consumer reaches from a database holding `store`. -/
def Sidecar.Reachable (store : EventStore) : Sidecar → Prop :=
  Transition.Reachable Sidecar.step (.init store)

/-- A send is enabled for a handler past its save, and moves its message to the
channel. -/
theorem Sidecar.step_send {s s' : Sidecar} {i : Nat} (h : s.step (.send i) = some s') :
    ∃ hi : i < s.sending.length,
      s' = { s with sending := s.sending.eraseIdx i, outbound := s.outbound ++ [s.sending[i]] } := by
  simp only [Sidecar.step] at h
  split at h
  · rename_i hi
    exact ⟨hi, (Option.some.inj h).symm⟩
  · cases h

/-! ## Where an event of each kind is recorded -/

/-- For the seven kinds stored in tables of their own: the `event_log` type and key an
event is logged under, and the row it takes in its kind's table. -/
def SseData.record? : SseData → Option (EventTypeId × EventKey × Row)
  | .blockAdded blockHash block =>
      some (.blockAdded, .hash blockHash.inner,
        ⟨.blockAdded, [.blockAddedHeight block.height, .blockAdded blockHash block.height]⟩)
  | .deployAccepted deploy =>
      some (.deployAccepted, .hash deploy.hash.inner, ⟨.deployAccepted, [.deployAccepted deploy.hash]⟩)
  | .deployProcessed deployHash .. =>
      some (.deployProcessed, .hash deployHash.inner, ⟨.deployProcessed, [.deployProcessed deployHash]⟩)
  | .deployExpired deployHash =>
      some (.deployExpired, .hash deployHash.inner, ⟨.deployExpired, [.deployExpired deployHash]⟩)
  | .fault eraId publicKey _ =>
      some (.fault, .eraPublicKey eraId publicKey, ⟨.fault, [.fault eraId publicKey]⟩)
  | .finalitySignature fs =>
      some (.finalitySignature, .blockHashPublicKey fs.blockHash fs.publicKey,
        ⟨.finalitySignature, [.finalitySignature fs.blockHash fs.publicKey]⟩)
  | .step eraId _ => some (.step, .era eraId, ⟨.step, [.step eraId]⟩)
  | _ => none

/-- The keys of an event in its kind's table: for a block its height and its
(hash, height) pair, for a deploy event its hash, for a fault its era and validator,
for a finality signature its block and signer, for a step its era; none for the other
kinds. -/
def SseData.tableKeys (data : SseData) : List IndexKey :=
  match data.record? with
  | some (_, _, row) => row.keys
  | none => []

/-- The table row of a message's event, if its kind has one. -/
def tableRow? (message : OutboundMessage) : Option Row :=
  message.1.record?.map fun record => record.2.2

/-- An event of a stored kind has its `event_log` row in the store. -/
def EventStore.Logged (store : EventStore) (data : SseData) : Prop :=
  ∀ eventTypeId eventKey row, data.record? = some (eventTypeId, eventKey, row) →
    ∃ eventLogId source eventId,
      eventLogRow eventLogId eventTypeId source eventId eventKey ∈ store.tables.rows

/-- The writer `handle_single_event` calls for an event of a stored kind is the shared
transaction on the event's `event_log` type and key, with the event's row among the
rows it inserts. -/
theorem Sidecar.handleSingleEvent_of_record {s : Sidecar} {event : SseEvent} {dbFails : Bool}
    {unixTimestamp currentTimestamp : UInt64} {eventTypeId : EventTypeId} {eventKey : EventKey}
    {row : Row} (h : event.data.record? = some (eventTypeId, eventKey, row)) :
    ∃ rows : Nat → List Row, (∀ eventLogId, row ∈ rows eventLogId) ∧
      s.handleSingleEvent event dbFails unixTimestamp currentTimestamp =
        s.handleDatabaseSaveResult
          (transactionResult dbFails
            (s.store.saveEvent eventTypeId event.source event.id eventKey rows))
          (event.data, some event.inboundFilter, event.jsonData) := by
  obtain ⟨id, data, source, jsonData, inboundFilter⟩ := event
  cases data <;> simp only [SseData.record?, reduceCtorEq, Option.some.injEq,
    Prod.mk.injEq] at h
  all_goals
    obtain ⟨rfl, rfl, rfl⟩ := h
    exact ⟨_, by simp, rfl⟩

/-! ## What a step can do -/

/-- What a step may do to what the invariant reads: the store's rows only get
`added` at the end, and the messages on their way downstream, in whatever order, only
gain `fresh`, whose table rows are among the added ones and whose events are logged. -/
def Sidecar.Extends (s s' : Sidecar) : Prop :=
  ∃ added fresh, s'.store.tables.rows = s.store.tables.rows ++ added ∧
    (s'.outbound ++ s'.sending).Perm (s.outbound ++ s.sending ++ fresh) ∧
    (fresh.filterMap tableRow?).Subperm added ∧ ∀ m ∈ fresh, s'.store.Logged m.1

theorem Sidecar.extends_refl (s : Sidecar) : s.Extends s :=
  ⟨[], [], by simp, by simp, by simp, by simp⟩

/-- A step that adds no message of a stored kind extends the state as long as it only
appends rows. -/
theorem Sidecar.extends_of_unrecorded {s s' : Sidecar} {added : List Row}
    {fresh : List OutboundMessage}
    (hrows : s'.store.tables.rows = s.store.tables.rows ++ added)
    (hperm : (s'.outbound ++ s'.sending).Perm (s.outbound ++ s.sending ++ fresh))
    (hfresh : ∀ m ∈ fresh, m.1.record? = none) : s.Extends s' := by
  have hnone : fresh.filterMap tableRow? = [] := by
    rw [List.filterMap_eq_nil_iff]
    intro m hm
    simp [tableRow?, hfresh m hm]
  refine ⟨added, fresh, hrows, hperm, by simp [hnone], fun m hm => ?_⟩
  intro eventTypeId eventKey row hrecord
  simp [hfresh m hm] at hrecord

theorem transactionResult_eq_ok {dbFails : Bool} {res : Except DatabaseWriteError EventStore}
    {store : EventStore} (h : transactionResult dbFails res = .ok store) : res = .ok store := by
  cases dbFails
  · exact h
  · cases h

/-- A committed save of an event of a stored kind appends its `event_log` row and its
table row, and queues the event for its send. -/
theorem Sidecar.extends_handleSingleEvent_of_record {s : Sidecar} {event : SseEvent}
    {dbFails : Bool} {unixTimestamp currentTimestamp : UInt64} {eventTypeId : EventTypeId}
    {eventKey : EventKey} {row : Row} (h : event.data.record? = some (eventTypeId, eventKey, row)) :
    s.Extends (s.handleSingleEvent event dbFails unixTimestamp currentTimestamp) := by
  obtain ⟨rows, hrow, heq⟩ :=
    @Sidecar.handleSingleEvent_of_record s event dbFails unixTimestamp currentTimestamp _ _ _ h
  rw [heq]
  cases hres : transactionResult dbFails
      (s.store.saveEvent eventTypeId event.source event.id eventKey rows) with
  | error err => exact Sidecar.extends_refl s
  | ok store =>
      -- the transaction committed: its rows are appended and the event is queued
      have hrows := EventStore.rows_of_saveEvent_eq_ok (transactionResult_eq_ok hres)
      refine ⟨_, [(event.data, some event.inboundFilter, event.jsonData)], hrows,
        by simp [Sidecar.handleDatabaseSaveResult], ?_, ?_⟩
      · simp only [List.filterMap_cons, List.filterMap_nil, tableRow?, h, Option.map_some]
        exact List.singleton_subperm_iff.mpr (List.mem_cons_of_mem _ (hrow _))
      · intro m hm eventTypeId' eventKey' row' hrecord
        simp only [List.mem_singleton] at hm
        subst hm
        rw [h, Option.some.injEq, Prod.mk.injEq, Prod.mk.injEq] at hrecord
        obtain ⟨rfl, rfl, -⟩ := hrecord
        exact ⟨s.store.nextEventLogId, event.source, event.id,
          by simp [Sidecar.handleDatabaseSaveResult, hrows]⟩


/-- `handle_shutdown` appends at most the shutdown's rows and queues at most the
shutdown. -/
theorem Sidecar.extends_handleShutdown {s : Sidecar} {res : Except DatabaseWriteError EventStore}
    {message : OutboundMessage} (hmessage : message.1 = .shutdown)
    (hres : ∀ store, res = .ok store → ∃ added, store.tables.rows = s.store.tables.rows ++ added) :
    s.Extends (s.handleShutdown res message) := by
  have hfresh : ∀ m ∈ [message], m.1.record? = none := by
    simp [hmessage, SseData.record?]
  unfold Sidecar.handleShutdown
  split
  · rename_i store
    obtain ⟨added, hrows⟩ := hres store rfl
    exact Sidecar.extends_of_unrecorded hrows (by simp) hfresh
  · exact @Sidecar.extends_of_unrecorded s _ [] _ (by simp) (by simp) hfresh
  · exact Sidecar.extends_refl s

/-- `handle_api_version` sends at most the version, which is of no stored kind. -/
theorem Sidecar.extends_handleApiVersion (s : Sidecar) (version : ProtocolVersion)
    (filter : Filter) : s.Extends (s.handleApiVersion version filter) := by
  unfold Sidecar.handleApiVersion
  split
  · -- the version is sent ahead of the handlers still sending
    refine @Sidecar.extends_of_unrecorded s _ [] [(.apiVersion version, some filter, none)]
      (by simp) ?_ (by simp [SseData.record?])
    simp only [List.append_assoc]
    exact List.Perm.append_left _ List.perm_append_comm
  · exact @Sidecar.extends_of_unrecorded s _ [] [] (by simp) (by simp) (by simp)

/-- **Every step extends the state**: `handle_single_event` through its save, or a
handler's send. -/
theorem Sidecar.extends_handleSingleEvent (s : Sidecar) (event : SseEvent) (dbFails : Bool)
    (unixTimestamp currentTimestamp : UInt64) :
    s.Extends (s.handleSingleEvent event dbFails unixTimestamp currentTimestamp) := by
  cases hrecord : event.data.record? with
  | some record =>
      obtain ⟨eventTypeId, eventKey, row⟩ := record
      exact Sidecar.extends_handleSingleEvent_of_record hrecord
  | none =>
      obtain ⟨id, data, source, jsonData, inboundFilter⟩ := event
      cases data <;> simp only [SseData.record?, reduceCtorEq] at hrecord
      case apiVersion version => exact s.extends_handleApiVersion version inboundFilter
      case sidecarVersion => exact Sidecar.extends_refl s
      case shutdown =>
        refine Sidecar.extends_handleShutdown rfl fun store hres => ?_
        exact ⟨_, EventStore.rows_of_saveEvent_eq_ok (transactionResult_eq_ok hres)⟩

theorem Sidecar.extends_of_step {s s' : Sidecar} {a : Sidecar.Action} (h : s.step a = some s') :
    s.Extends s' := by
  cases a with
  | handle event dbFails unixTimestamp currentTimestamp =>
      simp only [Sidecar.step, Option.some.injEq] at h
      subst h
      exact s.extends_handleSingleEvent event dbFails unixTimestamp currentTimestamp
  | send i =>
      obtain ⟨hi, rfl⟩ := Sidecar.step_send h
      -- the message moves from the handlers to the channel
      refine ⟨[], [], by simp, ?_, by simp, by simp⟩
      rw [List.append_nil, List.append_assoc, List.singleton_append]
      exact List.Perm.append_left _ (List.getElem_cons_eraseIdx_perm hi)

/-! ## The invariant -/

/-- Every message on its way downstream or sent has its table row among the store's
rows, no row serving two messages, and its `event_log` row stored. -/
structure Sidecar.Committed (s : Sidecar) : Prop where
  rows_subperm : ((s.outbound ++ s.sending).filterMap tableRow?).Subperm s.store.tables.rows
  logged : ∀ m ∈ s.outbound ++ s.sending, s.store.Logged m.1

theorem EventStore.Logged.mono {store store' : EventStore} {data : SseData}
    (h : store.Logged data) (hsub : store.tables.rows ⊆ store'.tables.rows) : store'.Logged data := by
  intro eventTypeId eventKey row hrecord
  obtain ⟨eventLogId, source, eventId, hmem⟩ := h eventTypeId eventKey row hrecord
  exact ⟨eventLogId, source, eventId, hsub hmem⟩

theorem Sidecar.committed_init (store : EventStore) : (Sidecar.init store).Committed :=
  ⟨by simp [Sidecar.init], by simp [Sidecar.init]⟩

theorem Sidecar.Committed.extend {s s' : Sidecar} (hs : s.Committed) (h : s.Extends s') :
    s'.Committed := by
  obtain ⟨added, fresh, hrows, hperm, hfresh, hlogged⟩ := h
  constructor
  · -- the old messages' rows are among the old rows, the fresh ones' among the added
    rw [hrows]
    refine (hperm.filterMap _).subperm.trans ?_
    rw [List.filterMap_append]
    exact hs.rows_subperm.append hfresh
  · intro m hm
    rcases List.mem_append.mp (hperm.subset hm) with hold | hnew
    · exact (hs.logged m hold).mono (by rw [hrows]; exact List.subset_append_left _ _)
    · exact hlogged m hnew

theorem Sidecar.Reachable.committed {store : EventStore} {s : Sidecar} (hs : s.Reachable store) :
    s.Committed :=
  Transition.Reachable.invariant (Sidecar.committed_init store)
    (fun _ _ _ hc hstep => hc.extend (Sidecar.extends_of_step hstep)) hs

/-- The table row of a sent event is among the store's rows. -/
theorem Sidecar.Reachable.mem_rows_of_sent {store : EventStore} {s : Sidecar} (hs : s.Reachable store)
    {m : OutboundMessage} (hm : m ∈ s.outbound) {row : Row} (hrow : tableRow? m = some row) :
    row ∈ s.store.tables.rows :=
  hs.committed.rows_subperm.subset (List.mem_filterMap.mpr ⟨m, List.mem_append_left _ hm, hrow⟩)

/-- Keys of two events whose table rows share no value share no value either. -/
theorem SseData.tableKeys_disjoint {a b : OutboundMessage}
    (h : ∀ r, tableRow? a = some r → ∀ r', tableRow? b = some r' → r.keys.Disjoint r'.keys) :
    a.1.tableKeys.Disjoint b.1.tableKeys := by
  unfold SseData.tableKeys
  cases ha : a.1.record? with
  | none => exact List.disjoint_nil_left _
  | some ra =>
      cases hb : b.1.record? with
      | none => exact List.disjoint_nil_right _
      | some rb => exact h _ (by simp [tableRow?, ha]) _ (by simp [tableRow?, hb])

/-- **What reaches the outbound channel was committed, once per key.**  Over every
interleaving of the handlers, from a database holding any rows: no two events sent
downstream share a key of their kinds' tables (a block height, a block's hash and
height, a deploy hash, a fault's era and validator, a finality signature's block and
signer, a step's era), and every event of a stored kind that was sent has its table
row and its `event_log` row in the database. -/
theorem outbound_committed {store : EventStore} {s : Sidecar} (hs : s.Reachable store) :
    (s.outbound.map Prod.fst).Pairwise (fun a b => a.tableKeys.Disjoint b.tableKeys) ∧
      ∀ m ∈ s.outbound, ∀ eventTypeId eventKey row,
        m.1.record? = some (eventTypeId, eventKey, row) →
          row ∈ s.store.tables.rows ∧ ∃ eventLogId source eventId,
            eventLogRow eventLogId eventTypeId source eventId eventKey ∈ s.store.tables.rows := by
  have hc := hs.committed
  have hsub : (s.outbound.filterMap tableRow?).Subperm s.store.tables.rows :=
    ((List.sublist_append_left _ _).filterMap _).subperm.trans hc.rows_subperm
  refine ⟨?_, fun m hm eventTypeId eventKey row hrecord => ⟨?_, ?_⟩⟩
  · have hpairwise := s.store.tables.pairwise_disjoint_of_subperm hsub
    rw [List.pairwise_filterMap] at hpairwise
    rw [List.pairwise_map]
    exact hpairwise.imp SseData.tableKeys_disjoint
  · exact hsub.subset (List.mem_filterMap.mpr ⟨m, hm, by simp [tableRow?, hrecord]⟩)
  · exact hc.logged m (List.mem_append_left _ hm) eventTypeId eventKey row hrecord

/-- Two nodes report the same block: the second save violates the block's keys, and
only the first report goes downstream. -/
theorem outbound_committed_same_block_twice :
    ∃ s : Sidecar, s.Reachable .empty ∧ s.outbound.length = 1 ∧
      (s.outbound.map Prod.fst).Pairwise (fun a b => a.tableKeys.Disjoint b.tableKeys) := by
  let block : SseData := .blockAdded ⟨⟨Vector.replicate 32 1⟩⟩ ⟨⟨⟨Vector.replicate 32 1⟩⟩, 100⟩
  obtain ⟨s, hs, hp⟩ := @Transition.exists_reachable_of_exec _ _ Sidecar.step (.init .empty)
    [.handle ⟨1, block, "http://10.0.0.1:9999", none, .main⟩ false 0 0,
      .handle ⟨7, block, "http://10.0.0.2:9999", none, .main⟩ false 0 0, .send 0]
    (fun s => s.outbound.length == 1) (by decide)
  exact ⟨s, hs, by simpa using hp, (outbound_committed hs).1⟩

/-- **An event whose key is taken is dropped.**  From any state, an event of a stored
kind whose table key is already taken (the same event from another node, or another
block at a stored height) changes nothing: its transaction rolls back, and nothing is
queued or sent. -/
theorem event_with_taken_key_dropped (s : Sidecar) (event : SseEvent) (dbFails : Bool)
    (unixTimestamp currentTimestamp : UInt64) {eventTypeId : EventTypeId} {eventKey : EventKey}
    {row : Row} (hrecord : event.data.record? = some (eventTypeId, eventKey, row))
    (htaken : ∃ stored ∈ s.store.tables.rows, ∃ key ∈ row.keys, key ∈ stored.keys) :
    s.handleSingleEvent event dbFails unixTimestamp currentTimestamp = s := by
  obtain ⟨stored, hstored, key, hkey, hkey'⟩ := htaken
  obtain ⟨rows, hrow, heq⟩ :=
    @Sidecar.handleSingleEvent_of_record s event dbFails unixTimestamp currentTimestamp _ _ _ hrecord
  rw [heq]
  cases hres : transactionResult dbFails
      (s.store.saveEvent eventTypeId event.source event.id eventKey rows) with
  | error err => rfl
  | ok store =>
      exact absurd (transactionResult_eq_ok hres)
        (EventStore.saveEvent_ne_ok_of_clash (hrow _) hstored hkey hkey')

/-! ## The announced API versions -/

/-- The protocol versions sent on the outbound channel, in order. -/
def announcedApiVersions (messages : List OutboundMessage) : List ProtocolVersion :=
  messages.filterMap fun m =>
    match m.1 with
    | .apiVersion version => some version
    | _ => none

@[simp] theorem announcedApiVersions_nil : announcedApiVersions [] = [] := rfl

@[simp] theorem announcedApiVersions_append (l₁ l₂ : List OutboundMessage) :
    announcedApiVersions (l₁ ++ l₂) = announcedApiVersions l₁ ++ announcedApiVersions l₂ :=
  List.filterMap_append

theorem announcedApiVersions_apiVersion (version : ProtocolVersion) (filter : Option Filter)
    (jsonData : Option String) :
    announcedApiVersions [(.apiVersion version, filter, jsonData)] = [version] :=
  rfl

theorem Sidecar.handleDatabaseSaveResult_frame (s : Sidecar)
    (res : Except DatabaseWriteError EventStore) (message : OutboundMessage) :
    (s.handleDatabaseSaveResult res message).outbound = s.outbound ∧
      (s.handleDatabaseSaveResult res message).apiVersionManager = s.apiVersionManager ∧
      ∃ fresh ⊆ [message], (s.handleDatabaseSaveResult res message).sending = s.sending ++ fresh := by
  unfold Sidecar.handleDatabaseSaveResult
  split
  · exact ⟨rfl, rfl, [message], List.Subset.refl _, rfl⟩
  · exact ⟨rfl, rfl, [], List.nil_subset _, by simp⟩

theorem Sidecar.handleShutdown_frame (s : Sidecar) (res : Except DatabaseWriteError EventStore)
    (message : OutboundMessage) :
    (s.handleShutdown res message).outbound = s.outbound ∧
      (s.handleShutdown res message).apiVersionManager = s.apiVersionManager ∧
      ∃ fresh ⊆ [message], (s.handleShutdown res message).sending = s.sending ++ fresh := by
  unfold Sidecar.handleShutdown
  split
  · exact ⟨rfl, rfl, [message], List.Subset.refl _, rfl⟩
  · exact ⟨rfl, rfl, [message], List.Subset.refl _, rfl⟩
  · exact ⟨rfl, rfl, [], List.nil_subset _, by simp⟩

/-- Handling any event but an `ApiVersion` leaves the channel and the manager alone and
queues at most the event itself. -/
theorem Sidecar.handleSingleEvent_of_not_apiVersion (s : Sidecar) {event : SseEvent}
    (hevent : event.data.isApiVersion = false) (dbFails : Bool)
    (unixTimestamp currentTimestamp : UInt64) :
    (s.handleSingleEvent event dbFails unixTimestamp currentTimestamp).outbound = s.outbound ∧
      (s.handleSingleEvent event dbFails unixTimestamp currentTimestamp).apiVersionManager =
        s.apiVersionManager ∧
      ∃ fresh ⊆ [(event.data, some event.inboundFilter, event.jsonData)],
        (s.handleSingleEvent event dbFails unixTimestamp currentTimestamp).sending =
          s.sending ++ fresh := by
  obtain ⟨id, data, source, jsonData, inboundFilter⟩ := event
  cases data
  case apiVersion => cases hevent
  case sidecarVersion => exact ⟨rfl, rfl, [], List.nil_subset _, by simp [Sidecar.handleSingleEvent]⟩
  case shutdown => exact Sidecar.handleShutdown_frame _ _ _
  all_goals exact Sidecar.handleDatabaseSaveResult_frame _ _ _

/-- `handle_api_version`: the version is stored and sent exactly when it is newer than
the newest one seen. -/
theorem Sidecar.handleApiVersion_eq (s : Sidecar) (version : ProtocolVersion) (filter : Filter) :
    s.handleApiVersion version filter =
      if s.apiVersionManager.newestProtocolVersion.all (·.lt version) then
        { s with
          apiVersionManager := ⟨some version⟩
          outbound := s.outbound ++ [(.apiVersion version, some filter, none)] }
      else s := by
  unfold Sidecar.handleApiVersion ApiVersionManager.storeVersion
  cases hnewest : s.apiVersionManager.newestProtocolVersion with
  | none => rfl
  | some current =>
      by_cases hlt : current.lt version
      · simp [hlt]
      · simp [hlt]

/-- Handling an event that is not a version queues no version. -/
theorem Sidecar.announcedApiVersions_sending_of_not_apiVersion {s : Sidecar} {event : SseEvent}
    (hevent : event.data.isApiVersion = false) (dbFails : Bool)
    (unixTimestamp currentTimestamp : UInt64) (hsending : announcedApiVersions s.sending = []) :
    announcedApiVersions (s.handleSingleEvent event dbFails unixTimestamp currentTimestamp).sending =
      [] := by
  obtain ⟨-, -, fresh, hfresh, hsending'⟩ :=
    s.handleSingleEvent_of_not_apiVersion hevent dbFails unixTimestamp currentTimestamp
  rw [hsending', announcedApiVersions_append, hsending, List.nil_append,
    announcedApiVersions, List.filterMap_eq_nil_iff]
  intro m hm
  rw [hfresh hm |> List.mem_singleton.mp]
  cases hdata : event.data <;> simp_all [SseData.isApiVersion]

/-- When no handler is about to send a version, a send announces none and leaves none
to send. -/
theorem Sidecar.announcedApiVersions_send {s : Sidecar}
    (hsending : announcedApiVersions s.sending = []) {i : Nat} (hi : i < s.sending.length) :
    announcedApiVersions (s.outbound ++ [s.sending[i]]) = announcedApiVersions s.outbound ∧
      announcedApiVersions (s.sending.eraseIdx i) = [] := by
  have hsub : List.Sublist [s.sending[i]] s.sending :=
    List.singleton_sublist.mpr (List.getElem_mem hi)
  have hsent : announcedApiVersions [s.sending[i]] = [] :=
    List.eq_nil_of_sublist_nil (hsending ▸ hsub.filterMap _)
  refine ⟨by rw [announcedApiVersions_append, hsent, List.append_nil], ?_⟩
  exact List.eq_nil_of_sublist_nil (hsending ▸ (List.eraseIdx_sublist _ _).filterMap _)

/-! ## Which versions are announced -/

/-- The version an action hands to the `ApiVersionManager`, if any. -/
def Sidecar.Action.apiVersion? : Sidecar.Action → Option ProtocolVersion
  | .handle event .. =>
      match event.data with
      | .apiVersion version => some version
      | _ => none
  | .send _ => none

/-- The versions of the `ApiVersion` events taken by the handlers of a run, in the
order they reached the manager. -/
def handledApiVersions (actions : List Sidecar.Action) : List ProtocolVersion :=
  actions.filterMap Sidecar.Action.apiVersion?

theorem handledApiVersions_append_singleton (actions : List Sidecar.Action) (a : Sidecar.Action) :
    handledApiVersions (actions ++ [a]) = handledApiVersions actions ++ a.apiVersion?.toList := by
  rw [handledApiVersions, handledApiVersions, List.filterMap_append]
  cases h : a.apiVersion? <;> simp [h]

theorem Sidecar.Action.apiVersion?_handle_of_not_apiVersion {event : SseEvent}
    (hevent : event.data.isApiVersion = false) (dbFails : Bool)
    (unixTimestamp currentTimestamp : UInt64) :
    (Sidecar.Action.handle event dbFails unixTimestamp currentTimestamp).apiVersion? = none := by
  obtain ⟨id, data, source, jsonData, inboundFilter⟩ := event
  cases data <;> simp_all [SseData.isApiVersion, Sidecar.Action.apiVersion?]

/-- After handling the versions `handled`: the versions sent are their records, the
manager holds the greatest of them, and no handler is about to send one. -/
structure Sidecar.AnnouncesRecords (s : Sidecar) (handled : List ProtocolVersion) : Prop where
  announced_eq : announcedApiVersions s.outbound = Records.records ProtocolVersion.lt handled
  newest : Records.IsNewest ProtocolVersion.lt s.apiVersionManager.newestProtocolVersion handled
  sending_eq : announcedApiVersions s.sending = []

theorem Sidecar.announcesRecords_init (store : EventStore) :
    (Sidecar.init store).AnnouncesRecords [] :=
  ⟨rfl, Records.isNewest_nil _, rfl⟩

/-- The manager is a running maximum: under its lock, a version is sent exactly when it
is above every version handled before it. -/
theorem Sidecar.AnnouncesRecords.handleApiVersion {s : Sidecar} {handled : List ProtocolVersion}
    (h : s.AnnouncesRecords handled) (version : ProtocolVersion) (filter : Filter) :
    (s.handleApiVersion version filter).AnnouncesRecords (handled ++ [version]) := by
  have htrans : ∀ a b c : ProtocolVersion, a.lt b → b.lt c → a.lt c :=
    fun _ _ _ => ProtocolVersion.lt_trans
  have hall := h.newest.all_lt_iff htrans version
  have hnewest :=
    h.newest.push htrans (fun _ _ => ProtocolVersion.eq_or_lt_of_not_lt) version
  rw [Sidecar.handleApiVersion_eq]
  split
  · rename_i hnewer
    rw [if_pos hnewer] at hnewest
    refine ⟨?_, hnewest, h.sending_eq⟩
    rw [announcedApiVersions_append, h.announced_eq, Records.records_append_singleton, hall,
      if_pos hnewer, announcedApiVersions_apiVersion]
  · rename_i hnotNewer
    rw [if_neg hnotNewer] at hnewest
    refine ⟨?_, hnewest, h.sending_eq⟩
    rw [h.announced_eq, Records.records_append_singleton, hall, if_neg hnotNewer, List.append_nil]

theorem Sidecar.AnnouncesRecords.handleSingleEvent {s : Sidecar} {handled : List ProtocolVersion}
    (h : s.AnnouncesRecords handled) (event : SseEvent) (dbFails : Bool)
    (unixTimestamp currentTimestamp : UInt64) :
    (s.handleSingleEvent event dbFails unixTimestamp currentTimestamp).AnnouncesRecords
      (handled ++ (Sidecar.Action.handle event dbFails unixTimestamp currentTimestamp).apiVersion?.toList) := by
  cases hversion : event.data.isApiVersion
  · -- not a version: the channel and the manager are as they were
    obtain ⟨houtbound, hmanager, -⟩ :=
      s.handleSingleEvent_of_not_apiVersion hversion dbFails unixTimestamp currentTimestamp
    rw [Sidecar.Action.apiVersion?_handle_of_not_apiVersion hversion, Option.toList_none,
      List.append_nil]
    exact ⟨houtbound ▸ h.announced_eq, hmanager ▸ h.newest,
      Sidecar.announcedApiVersions_sending_of_not_apiVersion hversion dbFails unixTimestamp
        currentTimestamp h.sending_eq⟩
  · obtain ⟨id, data, source, jsonData, inboundFilter⟩ := event
    cases data <;> simp only [SseData.isApiVersion, reduceCtorEq] at hversion
    exact h.handleApiVersion _ inboundFilter

theorem Sidecar.AnnouncesRecords.step {s s' : Sidecar} {a : Sidecar.Action}
    {handled : List ProtocolVersion} (h : s.AnnouncesRecords handled) (hstep : s.step a = some s') :
    s'.AnnouncesRecords (handled ++ a.apiVersion?.toList) := by
  cases a with
  | handle event dbFails unixTimestamp currentTimestamp =>
      simp only [Sidecar.step, Option.some.injEq] at hstep
      subst hstep
      exact h.handleSingleEvent event dbFails unixTimestamp currentTimestamp
  | send i =>
      obtain ⟨hi, rfl⟩ := Sidecar.step_send hstep
      -- a send hands no version to the manager and announces none
      obtain ⟨hsent, herase⟩ := Sidecar.announcedApiVersions_send h.sending_eq hi
      rw [Sidecar.Action.apiVersion?, Option.toList_none, List.append_nil]
      exact ⟨hsent.trans h.announced_eq, h.newest, herase⟩

/-- Every reachable state sends the records of the versions its handlers took. -/
theorem Sidecar.Reachable.announcesRecords {store : EventStore} {s : Sidecar}
    (hs : s.Reachable store) : ∃ handled, s.AnnouncesRecords handled :=
  @Transition.Reachable.invariant _ _ _ _ (fun s => ∃ handled, s.AnnouncesRecords handled)
    ⟨[], Sidecar.announcesRecords_init store⟩
    (fun _ _ a ⟨handled, h⟩ hstep => ⟨handled ++ a.apiVersion?.toList, h.step hstep⟩) _ hs

/-- **The API version reaches the outbound channel only when it rises.**  Over every
interleaving of the handlers of events from any number of nodes, the `ApiVersion`
messages sent downstream carry strictly increasing protocol versions, the last of them
the newest version seen. -/
theorem announced_api_versions_increase {store : EventStore} {s : Sidecar}
    (hs : s.Reachable store) :
    (announcedApiVersions s.outbound).Pairwise (fun a b => a.lt b) ∧
      (announcedApiVersions s.outbound).getLast? = s.apiVersionManager.newestProtocolVersion := by
  -- the versions sent are the records of those handled, the last being their maximum
  obtain ⟨handled, h⟩ := hs.announcesRecords
  have hirrefl : ∀ a : ProtocolVersion, a.lt a = false := fun a => by
    simpa using ProtocolVersion.lt_irrefl a
  rw [h.announced_eq]
  exact ⟨Records.records_pairwise _ _,
    h.newest.getLast?_records hirrefl (fun _ _ _ => ProtocolVersion.lt_trans)⟩

/-- Two nodes announce 1.0.0, then one announces 2.0.0 and the other 1.5.0: the
versions sent downstream are 1.0.0 and 2.0.0. -/
theorem announced_api_versions_from_two_nodes :
    ∃ s : Sidecar, s.Reachable .empty ∧
      announcedApiVersions s.outbound = [.fromParts 1 0 0, .fromParts 2 0 0] ∧
      (announcedApiVersions s.outbound).Pairwise (fun a b => a.lt b) := by
  obtain ⟨s, hs, hp⟩ := @Transition.exists_reachable_of_exec _ _ Sidecar.step (.init .empty)
    [.handle ⟨0, .apiVersion (.fromParts 1 0 0), "http://10.0.0.1:9999", none, .main⟩ false 0 0,
      .handle ⟨0, .apiVersion (.fromParts 1 0 0), "http://10.0.0.2:9999", none, .main⟩ false 0 0,
      .handle ⟨0, .apiVersion (.fromParts 2 0 0), "http://10.0.0.1:9999", none, .main⟩ false 0 0,
      .handle ⟨0, .apiVersion (.fromParts 1 5 0), "http://10.0.0.2:9999", none, .main⟩ false 0 0]
    (fun s => announcedApiVersions s.outbound == [.fromParts 1 0 0, .fromParts 2 0 0]) (by decide)
  exact ⟨s, hs, by simpa using hp, (announced_api_versions_increase hs).1⟩

/-- **An `ApiVersion` is sent exactly when it is newer than every version before it.**
Over every run of the handlers, in any interleaving of the events of any number of
nodes, from a database holding any rows: the versions sent on the outbound channel are
those of the handled `ApiVersion` events that are greater than every version handled
before them (the first always is), in the order they were handled, and so they strictly
increase. -/
theorem api_versions_sent_when_newer {store : EventStore} {actions : List Sidecar.Action}
    {s : Sidecar} (hrun : Transition.exec Sidecar.step (.init store) actions = some s) :
    announcedApiVersions s.outbound = Records.records ProtocolVersion.lt (handledApiVersions actions) ∧
      (announcedApiVersions s.outbound).Pairwise (fun a b => a.lt b) := by
  -- the invariant is carried along the run together with the actions taken so far
  have hstep : ∀ s s' a done, s.AnnouncesRecords (handledApiVersions done) →
      Sidecar.step s a = some s' → s'.AnnouncesRecords (handledApiVersions (done ++ [a])) := by
    intro s s' a done hs hstep
    rw [handledApiVersions_append_singleton]
    exact hs.step hstep
  have h : s.AnnouncesRecords (handledApiVersions ([] ++ actions)) :=
    @Transition.exec_trace _ _ Sidecar.step (fun s done => s.AnnouncesRecords (handledApiVersions done))
      hstep _ _ [] actions (Sidecar.announcesRecords_init store) hrun
  rw [List.nil_append] at h
  exact ⟨h.announced_eq, h.announced_eq ▸ Records.records_pairwise _ _⟩

/-- Two nodes announce 1.0.0, then one announces 2.0.0 and the other 1.5.0: of the four
versions handled, 1.0.0 and 2.0.0 are sent. -/
theorem api_versions_sent_when_newer_two_nodes :
    ∃ s : Sidecar, Transition.exec Sidecar.step (.init .empty)
        [.handle ⟨0, .apiVersion (.fromParts 1 0 0), "http://10.0.0.1:9999", none, .main⟩ false 0 0,
          .handle ⟨0, .apiVersion (.fromParts 1 0 0), "http://10.0.0.2:9999", none, .main⟩ false 0 0,
          .handle ⟨0, .apiVersion (.fromParts 2 0 0), "http://10.0.0.1:9999", none, .main⟩ false 0 0,
          .handle ⟨0, .apiVersion (.fromParts 1 5 0), "http://10.0.0.2:9999", none, .main⟩ false 0 0] =
        some s ∧
      announcedApiVersions s.outbound = [.fromParts 1 0 0, .fromParts 2 0 0] := by
  have hsome : (Transition.exec Sidecar.step (.init .empty)
      [.handle ⟨0, .apiVersion (.fromParts 1 0 0), "http://10.0.0.1:9999", none, .main⟩ false 0 0,
        .handle ⟨0, .apiVersion (.fromParts 1 0 0), "http://10.0.0.2:9999", none, .main⟩ false 0 0,
        .handle ⟨0, .apiVersion (.fromParts 2 0 0), "http://10.0.0.1:9999", none, .main⟩ false 0 0,
        .handle ⟨0, .apiVersion (.fromParts 1 5 0), "http://10.0.0.2:9999", none, .main⟩ false 0 0]).isSome := by
    decide
  obtain ⟨s, hs⟩ := Option.isSome_iff_exists.mp hsome
  refine ⟨s, hs, ?_⟩
  rw [(api_versions_sent_when_newer hs).1]
  decide

end CasperSidecar
