import Mathlib
import CasperSidecar.Lib.Transition
import CasperSidecar.Sidecar.EventHandling

/-!
# Sidecar.Consumers

The two consumers `sse_processor` runs on the events of a node connection
(`sidecar/src/main.rs`), as one system with the connections that feed them and the
database, version manager and outbound channel they share:

* `start_single_threaded_events_consumer` (SQLite): one task takes the events off
  the connection's inbound channel and runs `handle_single_event` on each in turn;
* `start_multi_threaded_events_consumer` (PostgreSQL): a dispatch loop takes the
  events off the inbound channel and sends each to the queue of its inbound filter
  (`build_queues`, capacity `DEFAULT_CHANNEL_SIZE`), and one task per queue
  (`handle_events_in_thread`) runs `handle_single_event` on its events in turn.

`handle_single_event` awaits its send on the outbound channel before it returns, so a
task takes its next event only once its message is out.  Each connection's manager
sends on an inbound channel of capacity `inbound_channel_size`.

* `Consumers.Reachable.refines_handlers` — every run of the consumers is a run of the
  handler model of `Sidecar.EventHandling`: the database, the version manager and the
  outbound channel are those of a reachable `Sidecar`, whose handlers past their save
  are the tasks awaiting their send; so what is proved there holds of both consumers.
* `Consumers.Reachable.handled_in_order` — in every run the dispatch loops never break
  (`build_queues` has a queue for every filter), and the events each task has taken
  are a prefix of those its connection sent for its queue, in the order sent.
-/

namespace CasperSidecar

/-! ## The consumers -/

/-- `DEFAULT_CHANNEL_SIZE`: the capacity of each queue of the multi-threaded consumer. -/
def defaultChannelSize : Nat := 1000

/-- The filters `build_queues` makes a queue for. -/
def buildQueues : List Filter := [.deploys, .events, .main, .sigs]

/-- What `start_sse_processors` runs with: whether the database takes the multi-threaded
consumer (`spawn_sse_processor`: PostgreSQL does, SQLite does not), and the capacity of
each connection's inbound channel (`inbound_channel_size`). -/
structure ConsumersConfig where
  multiThreaded : Bool
  inboundChannelSize : Nat

/-- A task running `handle_single_event` on the events of one channel, one at a time. -/
structure Handler where
  /-- The node connection whose events it handles. -/
  connection : Nat
  /-- Its queue's filter in the multi-threaded consumer; `none` for the single-threaded
  consumer, whose task reads the inbound channel. -/
  filter : Option Filter
  /-- The events on its channel, oldest first. -/
  channel : List SseEvent
  /-- The message whose send on the outbound channel it awaits. -/
  sending : Option OutboundMessage
  /-- The events it took, oldest first. -/
  handled : List SseEvent

/-- The key of the task's queue in `senders_map`: its connection and filter. -/
def Handler.key (handler : Handler) : Nat × Option Filter := (handler.connection, handler.filter)

/-- The dispatch loop of the multi-threaded consumer of one connection. -/
structure Dispatcher where
  /-- The connection's inbound channel, oldest first. -/
  inbound : List SseEvent
  /-- The event it received and is sending to its queue. -/
  inHand : Option SseEvent
  /-- Whether the loop runs: it breaks on an event whose filter has no queue. -/
  running : Bool

/-- The consumers of every node connection; the dispatch loop of connection `k` is
`dispatchers[k]`. -/
structure Consumers where
  dispatchers : List Dispatcher
  handlers : List Handler
  store : EventStore
  apiVersionManager : ApiVersionManager
  outbound : List OutboundMessage
  /-- The events the connections' managers sent, with their connection, oldest first. -/
  delivered : List (Nat × SseEvent)

/-- The tasks `start_sse_processors` spawns for `connections` node connections. -/
def initHandlers (config : ConsumersConfig) (connections : Nat) : List Handler :=
  if config.multiThreaded then
    (List.range connections).flatMap fun k => buildQueues.map fun filter => ⟨k, some filter, [], none, []⟩
  else (List.range connections).map fun k => ⟨k, none, [], none, []⟩

/-- The consumers `start_sse_processors` starts over a database holding `store`. -/
def Consumers.init (config : ConsumersConfig) (connections : Nat) (store : EventStore) :
    Consumers :=
  ⟨if config.multiThreaded then List.replicate connections ⟨[], none, true⟩ else [],
    initHandlers config connections, store, ⟨none⟩, [], []⟩

/-- The task whose queue `senders_map.get` finds for a connection and filter. -/
def Consumers.queueOf (c : Consumers) (connection : Nat) (filter : Option Filter) : Option Nat :=
  (c.handlers.map Handler.key).idxOf? (connection, filter)

/-- Connection `k`'s manager sends an event (`sse_event_sender.send`) once the inbound
channel has room: to the dispatch loop of the multi-threaded consumer, or to the task
of the single-threaded one. -/
def Consumers.deliver (config : ConsumersConfig) (c : Consumers) (k : Nat) (event : SseEvent) :
    Option Consumers :=
  if config.multiThreaded then
    match c.dispatchers[k]? with
    | some dispatcher =>
        if dispatcher.running ∧ dispatcher.inbound.length < config.inboundChannelSize then
          some { c with
            dispatchers := c.dispatchers.set k { dispatcher with inbound := dispatcher.inbound ++ [event] }
            delivered := c.delivered ++ [(k, event)] }
        else none
    | none => none
  else
    match c.queueOf k none with
    | some j =>
        match c.handlers[j]? with
        | some handler =>
            if handler.channel.length < config.inboundChannelSize then
              some { c with
                handlers := c.handlers.set j { handler with channel := handler.channel ++ [event] }
                delivered := c.delivered ++ [(k, event)] }
            else none
        | none => none
    | none => none

/-- The dispatch loop receives the next event of its inbound channel. -/
def Consumers.receive (c : Consumers) (k : Nat) : Option Consumers :=
  match c.dispatchers[k]? with
  | some ⟨event :: rest, none, true⟩ =>
      some { c with dispatchers := c.dispatchers.set k ⟨rest, some event, true⟩ }
  | _ => none

/-- The dispatch loop sends its event to the queue of the event's filter once the queue
has room; with no queue for the filter, the loop breaks. -/
def Consumers.dispatch (c : Consumers) (k : Nat) : Option Consumers :=
  match c.dispatchers[k]? with
  | some ⟨inbound, some event, true⟩ =>
      match c.queueOf k (some event.inboundFilter) with
      | some j =>
          match c.handlers[j]? with
          | some handler =>
              if handler.channel.length < defaultChannelSize then
                some { c with
                  dispatchers := c.dispatchers.set k ⟨inbound, none, true⟩
                  handlers := c.handlers.set j { handler with channel := handler.channel ++ [event] } }
              else none
          | none => none
      | none => some { c with dispatchers := c.dispatchers.set k ⟨inbound, none, false⟩ }
  | _ => none

/-- The handler model's state over the consumers' database, version manager and outbound
channel. -/
def Consumers.sidecar (c : Consumers) (sending : List OutboundMessage) : Sidecar :=
  ⟨c.store, c.apiVersionManager, sending, c.outbound⟩

/-- Task `j` takes the next event of its channel through `handle_single_event` up to its
send: the save, or for an `ApiVersion` the version manager. -/
def Consumers.handle (c : Consumers) (j : Nat) (dbFails : Bool)
    (unixTimestamp currentTimestamp : UInt64) : Option Consumers :=
  match c.handlers[j]? with
  | some ⟨connection, filter, event :: rest, none, handled⟩ =>
      let s := (c.sidecar []).handleSingleEvent event dbFails unixTimestamp currentTimestamp
      some { c with
        handlers := c.handlers.set j ⟨connection, filter, rest, s.sending.head?, handled ++ [event]⟩
        store := s.store
        apiVersionManager := s.apiVersionManager
        outbound := s.outbound }
  | _ => none

/-- Task `j`'s send on the outbound channel completes. -/
def Consumers.send (c : Consumers) (j : Nat) : Option Consumers :=
  match c.handlers[j]? with
  | some ⟨connection, filter, channel, some message, handled⟩ =>
      some { c with
        handlers := c.handlers.set j ⟨connection, filter, channel, none, handled⟩
        outbound := c.outbound ++ [message] }
  | _ => none

/-- What happens next: a connection's manager sends, a dispatch loop receives or
dispatches, or a task takes an event or completes its send. -/
inductive ConsumersAction where
  | deliver (connection : Nat) (event : SseEvent)
  | receive (connection : Nat)
  | dispatch (connection : Nat)
  | handle (task : Nat) (dbFails : Bool) (unixTimestamp currentTimestamp : UInt64)
  | send (task : Nat)

def Consumers.step (config : ConsumersConfig) (c : Consumers) : ConsumersAction → Option Consumers
  | .deliver k event => c.deliver config k event
  | .receive k => c.receive k
  | .dispatch k => c.dispatch k
  | .handle j dbFails unixTimestamp currentTimestamp => c.handle j dbFails unixTimestamp currentTimestamp
  | .send j => c.send j

/-- The states of any run of the consumers of `connections` connections over a database
holding `store`. -/
def Consumers.Reachable (config : ConsumersConfig) (connections : Nat) (store : EventStore) :
    Consumers → Prop :=
  Transition.Reachable (Consumers.step config) (.init config connections store)

/-! ## What each action does -/

theorem Consumers.deliver_eq_some {config : ConsumersConfig} {c c' : Consumers} {k : Nat}
    {event : SseEvent} (h : c.deliver config k event = some c') :
    (config.multiThreaded = true ∧ ∃ dispatcher, c.dispatchers[k]? = some dispatcher ∧
        dispatcher.running = true ∧
        c' = { c with
          dispatchers := c.dispatchers.set k { dispatcher with inbound := dispatcher.inbound ++ [event] }
          delivered := c.delivered ++ [(k, event)] }) ∨
      (config.multiThreaded = false ∧ ∃ j handler, c.queueOf k none = some j ∧
        c.handlers[j]? = some handler ∧
        c' = { c with
          handlers := c.handlers.set j { handler with channel := handler.channel ++ [event] }
          delivered := c.delivered ++ [(k, event)] }) := by
  unfold Consumers.deliver at h
  split at h
  · rename_i hmulti
    split at h
    · rename_i dispatcher hdispatcher
      split at h
      · rename_i hroom
        exact .inl ⟨hmulti, dispatcher, hdispatcher, hroom.1, (Option.some.inj h).symm⟩
      · cases h
    · cases h
  · -- the single-threaded consumer's task reads the inbound channel
    rename_i hmulti
    split at h
    · rename_i j hj
      split at h
      · rename_i handler hhandler
        split at h
        · exact .inr ⟨by simpa using hmulti, j, handler, hj, hhandler, (Option.some.inj h).symm⟩
        · cases h
      · cases h
    · cases h

theorem Consumers.receive_eq_some {c c' : Consumers} {k : Nat} (h : c.receive k = some c') :
    ∃ event rest, c.dispatchers[k]? = some ⟨event :: rest, none, true⟩ ∧
      c' = { c with dispatchers := c.dispatchers.set k ⟨rest, some event, true⟩ } := by
  unfold Consumers.receive at h
  split at h
  · rename_i event rest hdispatcher
    exact ⟨event, rest, hdispatcher, (Option.some.inj h).symm⟩
  · cases h

theorem Consumers.dispatch_eq_some {c c' : Consumers} {k : Nat} (h : c.dispatch k = some c') :
    ∃ inbound event, c.dispatchers[k]? = some ⟨inbound, some event, true⟩ ∧
      ((∃ j handler, c.queueOf k (some event.inboundFilter) = some j ∧ c.handlers[j]? = some handler ∧
          c' = { c with
            dispatchers := c.dispatchers.set k ⟨inbound, none, true⟩
            handlers := c.handlers.set j { handler with channel := handler.channel ++ [event] } }) ∨
        (c.queueOf k (some event.inboundFilter) = none ∧
          c' = { c with dispatchers := c.dispatchers.set k ⟨inbound, none, false⟩ })) := by
  unfold Consumers.dispatch at h
  split at h
  · rename_i inbound event hdispatcher
    refine ⟨inbound, event, hdispatcher, ?_⟩
    split at h
    · rename_i j hj
      split at h
      · rename_i handler hhandler
        split at h
        · exact .inl ⟨j, handler, hj, hhandler, (Option.some.inj h).symm⟩
        · cases h
      · cases h
    · rename_i hj
      exact .inr ⟨hj, (Option.some.inj h).symm⟩
  · cases h

theorem Consumers.handle_eq_some {c c' : Consumers} {j : Nat} {dbFails : Bool}
    {unixTimestamp currentTimestamp : UInt64}
    (h : c.handle j dbFails unixTimestamp currentTimestamp = some c') :
    ∃ connection filter event rest handled,
      c.handlers[j]? = some ⟨connection, filter, event :: rest, none, handled⟩ ∧
      c' = { c with
        handlers := c.handlers.set j ⟨connection, filter, rest,
          ((c.sidecar []).handleSingleEvent event dbFails unixTimestamp currentTimestamp).sending.head?,
          handled ++ [event]⟩
        store := ((c.sidecar []).handleSingleEvent event dbFails unixTimestamp currentTimestamp).store
        apiVersionManager :=
          ((c.sidecar []).handleSingleEvent event dbFails unixTimestamp currentTimestamp).apiVersionManager
        outbound := ((c.sidecar []).handleSingleEvent event dbFails unixTimestamp currentTimestamp).outbound } := by
  unfold Consumers.handle at h
  split at h
  · rename_i connection filter event rest handled hhandler
    exact ⟨connection, filter, event, rest, handled, hhandler, (Option.some.inj h).symm⟩
  · cases h

theorem Consumers.send_eq_some {c c' : Consumers} {j : Nat} (h : c.send j = some c') :
    ∃ connection filter channel message handled,
      c.handlers[j]? = some ⟨connection, filter, channel, some message, handled⟩ ∧
      c' = { c with
        handlers := c.handlers.set j ⟨connection, filter, channel, none, handled⟩
        outbound := c.outbound ++ [message] } := by
  unfold Consumers.send at h
  split at h
  · rename_i connection filter channel message handled hhandler
    exact ⟨connection, filter, channel, message, handled, hhandler, (Option.some.inj h).symm⟩
  · cases h

/-! ## `handle_single_event` and the handlers past their save -/

theorem Sidecar.handleDatabaseSaveResult_prepend (s : Sidecar) (pending : List OutboundMessage)
    (res : Except DatabaseWriteError EventStore) (message : OutboundMessage) :
    { s with sending := pending ++ s.sending }.handleDatabaseSaveResult res message =
      { s.handleDatabaseSaveResult res message with
        sending := pending ++ (s.handleDatabaseSaveResult res message).sending } := by
  unfold Sidecar.handleDatabaseSaveResult
  cases res <;> simp

theorem Sidecar.handleShutdown_prepend (s : Sidecar) (pending : List OutboundMessage)
    (res : Except DatabaseWriteError EventStore) (message : OutboundMessage) :
    { s with sending := pending ++ s.sending }.handleShutdown res message =
      { s.handleShutdown res message with
        sending := pending ++ (s.handleShutdown res message).sending } := by
  unfold Sidecar.handleShutdown
  split <;> simp

theorem Sidecar.handleApiVersion_prepend (s : Sidecar) (pending : List OutboundMessage)
    (version : ProtocolVersion) (filter : Filter) :
    { s with sending := pending ++ s.sending }.handleApiVersion version filter =
      { s.handleApiVersion version filter with
        sending := pending ++ (s.handleApiVersion version filter).sending } := by
  unfold Sidecar.handleApiVersion
  rcases s.apiVersionManager.storeVersion version with ⟨_ | _, apiVersionManager⟩ <;> simp

/-- `handle_single_event` does not look at the handlers past their save; it only adds to
them. -/
theorem Sidecar.handleSingleEvent_prepend (s : Sidecar) (pending : List OutboundMessage)
    (event : SseEvent) (dbFails : Bool) (unixTimestamp currentTimestamp : UInt64) :
    { s with sending := pending ++ s.sending }.handleSingleEvent event dbFails unixTimestamp
        currentTimestamp =
      { s.handleSingleEvent event dbFails unixTimestamp currentTimestamp with
        sending := pending ++
          (s.handleSingleEvent event dbFails unixTimestamp currentTimestamp).sending } := by
  unfold Sidecar.handleSingleEvent
  split
  · simp
  · exact s.handleApiVersion_prepend pending _ _
  case h_10 => exact s.handleShutdown_prepend pending _ _
  all_goals exact s.handleDatabaseSaveResult_prepend pending _ _

theorem Sidecar.handleDatabaseSaveResult_sending (s : Sidecar)
    (res : Except DatabaseWriteError EventStore) (message : OutboundMessage) :
    ∃ fresh : Option OutboundMessage,
      (s.handleDatabaseSaveResult res message).sending = s.sending ++ fresh.toList := by
  unfold Sidecar.handleDatabaseSaveResult
  split
  · exact ⟨some message, rfl⟩
  · exact ⟨none, (List.append_nil _).symm⟩

theorem Sidecar.handleShutdown_sending (s : Sidecar) (res : Except DatabaseWriteError EventStore)
    (message : OutboundMessage) :
    ∃ fresh : Option OutboundMessage,
      (s.handleShutdown res message).sending = s.sending ++ fresh.toList := by
  unfold Sidecar.handleShutdown
  split
  · exact ⟨some message, rfl⟩
  · exact ⟨some message, rfl⟩
  · exact ⟨none, (List.append_nil _).symm⟩

/-- A handler past its save has at most its own message to send. -/
theorem Sidecar.handleSingleEvent_sending (s : Sidecar) (event : SseEvent) (dbFails : Bool)
    (unixTimestamp currentTimestamp : UInt64) :
    ∃ fresh : Option OutboundMessage,
      (s.handleSingleEvent event dbFails unixTimestamp currentTimestamp).sending =
        s.sending ++ fresh.toList := by
  unfold Sidecar.handleSingleEvent
  split
  · exact ⟨none, (List.append_nil _).symm⟩
  · -- a version goes out under the manager's lock, not through a handler's send
    refine ⟨none, ?_⟩
    unfold Sidecar.handleApiVersion
    split <;> simp
  case h_10 => exact s.handleShutdown_sending _ _
  all_goals exact s.handleDatabaseSaveResult_sending _ _

/-! ## The handler model's view of the consumers -/

/-- Replacing one element of a list changes its sum by the difference. -/
theorem sum_set_add {M : Type} [AddCommMonoid M] (l : List M) {j : Nat} (hj : j < l.length)
    (a : M) : (l.set j a).sum + l[j] = l.sum + a := by
  induction l generalizing j with
  | nil => exact absurd hj (Nat.not_lt_zero _)
  | cons x xs ih =>
      cases j with
      | zero =>
          rw [List.set_cons_zero, List.sum_cons, List.sum_cons, List.getElem_cons_zero]
          abel
      | succ j =>
          rw [List.set_cons_succ, List.sum_cons, List.sum_cons, List.getElem_cons_succ, add_assoc,
            ih (Nat.lt_of_succ_lt_succ hj), add_assoc]

/-- The messages the tasks await the send of. -/
def pendingSends (handlers : List Handler) : Multiset OutboundMessage :=
  (handlers.map fun handler => (handler.sending.toList : Multiset OutboundMessage)).sum

theorem pendingSends_set {handlers : List Handler} {j : Nat} {handler : Handler}
    (hj : handlers[j]? = some handler) (handler' : Handler) :
    pendingSends (handlers.set j handler') + handler.sending.toList =
      pendingSends handlers + handler'.sending.toList := by
  obtain ⟨hlt, rfl⟩ := List.getElem?_eq_some_iff.mp hj
  unfold pendingSends
  rw [List.map_set]
  have hsum := sum_set_add (handlers.map fun handler => (handler.sending.toList : Multiset _))
    (by simpa using hlt) (handler'.sending.toList : Multiset OutboundMessage)
  rwa [List.getElem_map] at hsum

/-- Replacing a task by one awaiting the same send leaves the pending sends as they are. -/
theorem pendingSends_set_of_sending {handlers : List Handler} {j : Nat} {handler handler' : Handler}
    (hj : handlers[j]? = some handler) (hsending : handler'.sending = handler.sending) :
    pendingSends (handlers.set j handler') = pendingSends handlers := by
  have h := pendingSends_set hj handler'
  rw [hsending] at h
  exact add_right_cancel h

theorem eq_of_mem_initHandlers {config : ConsumersConfig} {connections : Nat}
    {handler : Handler} (h : handler ∈ initHandlers config connections) :
    ∃ k filter, handler = ⟨k, filter, [], none, []⟩ := by
  unfold initHandlers at h
  split at h
  · obtain ⟨k, -, hmem⟩ := List.mem_flatMap.mp h
    obtain ⟨filter, -, rfl⟩ := List.mem_map.mp hmem
    exact ⟨k, some filter, rfl⟩
  · obtain ⟨k, -, rfl⟩ := List.mem_map.mp h
    exact ⟨k, none, rfl⟩

theorem pendingSends_initHandlers (config : ConsumersConfig) (connections : Nat) :
    pendingSends (initHandlers config connections) = 0 := by
  unfold pendingSends
  apply List.sum_eq_zero
  intro m hm
  obtain ⟨handler, hmem, rfl⟩ := List.mem_map.mp hm
  obtain ⟨k, filter, rfl⟩ := eq_of_mem_initHandlers hmem
  rfl

/-- The handler model's view of the consumers: the same database, version manager and
outbound channel, and as its handlers past their save the tasks awaiting their send. -/
structure Consumers.Refines (c : Consumers) (s : Sidecar) : Prop where
  store : s.store = c.store
  apiVersionManager : s.apiVersionManager = c.apiVersionManager
  outbound : s.outbound = c.outbound
  sending : (s.sending : Multiset OutboundMessage) = pendingSends c.handlers

theorem Consumers.refines_init (config : ConsumersConfig) (connections : Nat) (store : EventStore) :
    (Consumers.init config connections store).Refines (Sidecar.init store) :=
  ⟨rfl, rfl, rfl, (pendingSends_initHandlers config connections).symm⟩

/-- A step the handler model does not see. -/
theorem Consumers.Refines.of_frame {c c' : Consumers} {s : Sidecar} (h : c.Refines s)
    (hstore : c'.store = c.store) (hmanager : c'.apiVersionManager = c.apiVersionManager)
    (houtbound : c'.outbound = c.outbound)
    (hpending : pendingSends c'.handlers = pendingSends c.handlers) : c'.Refines s :=
  ⟨h.store.trans hstore.symm, h.apiVersionManager.trans hmanager.symm,
    h.outbound.trans houtbound.symm, h.sending.trans hpending.symm⟩

/-- A task's save is a handler's save in the model. -/
theorem Consumers.Refines.handle {c c' : Consumers} {s : Sidecar} {j : Nat} {dbFails : Bool}
    {unixTimestamp currentTimestamp : UInt64} (h : c.Refines s)
    (hstep : c.handle j dbFails unixTimestamp currentTimestamp = some c') :
    ∃ actions s', Transition.exec Sidecar.step s actions = some s' ∧ c'.Refines s' := by
  obtain ⟨connection, filter, event, rest, handled, hhandler, rfl⟩ := Consumers.handle_eq_some hstep
  set r := (c.sidecar []).handleSingleEvent event dbFails unixTimestamp currentTimestamp with hr
  obtain ⟨fresh, hfresh⟩ :=
    (c.sidecar []).handleSingleEvent_sending event dbFails unixTimestamp currentTimestamp
  rw [← hr] at hfresh
  -- the model's state is the consumers' with its own handlers past their save
  have hs : s = { c.sidecar [] with sending := s.sending ++ (c.sidecar []).sending } := by
    obtain ⟨store, apiVersionManager, sending, outbound⟩ := s
    obtain ⟨hstore, hmanager, houtbound, -⟩ := h
    simp only at hstore hmanager houtbound
    simp [Consumers.sidecar, hstore, hmanager, houtbound]
  have hhandle : s.handleSingleEvent event dbFails unixTimestamp currentTimestamp =
      { r with sending := s.sending ++ r.sending } := by
    conv_lhs => rw [hs]
    exact Sidecar.handleSingleEvent_prepend _ _ _ _ _ _
  refine ⟨[.handle event dbFails unixTimestamp currentTimestamp],
    { r with sending := s.sending ++ r.sending }, ?_, ⟨rfl, rfl, rfl, ?_⟩⟩
  · show (some (s.handleSingleEvent event dbFails unixTimestamp currentTimestamp)).bind _ = _
    rw [hhandle]
    rfl
  · -- the task now awaits the send of the message the save left, if any
    have hpending := pendingSends_set hhandler
      ⟨connection, filter, rest, r.sending.head?, handled ++ [event]⟩
    have hhead : (r.sending.head?.toList : Multiset OutboundMessage) = fresh.toList := by
      rw [hfresh]
      cases fresh <;> rfl
    dsimp only at hpending
    rw [hhead, Option.toList_none, Multiset.coe_nil, add_zero] at hpending
    show ((s.sending ++ r.sending : List OutboundMessage) : Multiset OutboundMessage) = _
    rw [← Multiset.coe_add, h.sending, hpending, hfresh]
    rfl

/-- A task's send is a handler's send in the model. -/
theorem Consumers.Refines.send {c c' : Consumers} {s : Sidecar} {j : Nat} (h : c.Refines s)
    (hstep : c.send j = some c') :
    ∃ actions s', Transition.exec Sidecar.step s actions = some s' ∧ c'.Refines s' := by
  obtain ⟨connection, filter, channel, message, handled, hhandler, rfl⟩ := Consumers.send_eq_some hstep
  -- the task's message is among the model's handlers past their save
  have hpending := pendingSends_set hhandler ⟨connection, filter, channel, none, handled⟩
  have hsending : (s.sending : Multiset OutboundMessage) =
      message ::ₘ pendingSends (c.handlers.set j ⟨connection, filter, channel, none, handled⟩) := by
    rw [h.sending, ← Multiset.singleton_add, add_comm]
    exact (add_zero (pendingSends c.handlers) ▸ hpending).symm
  have hmem : message ∈ s.sending := by
    rw [← Multiset.mem_coe, hsending]
    exact Multiset.mem_cons_self _ _
  obtain ⟨i, hi, hget⟩ := List.getElem_of_mem hmem
  refine ⟨[.send i], { s with sending := s.sending.eraseIdx i, outbound := s.outbound ++ [message] },
    ?_, ⟨h.store, h.apiVersionManager, by rw [h.outbound], ?_⟩⟩
  · show (Sidecar.step s (.send i)).bind _ = _
    rw [Sidecar.step, dif_pos hi, hget]
    rfl
  · -- the message and what the model's handlers have left to send make up what they had
    have hperm : message ::ₘ (s.sending.eraseIdx i : Multiset OutboundMessage) = s.sending := by
      rw [← hget, Multiset.cons_coe]
      exact Multiset.coe_eq_coe.mpr (List.getElem_cons_eraseIdx_perm hi)
    rw [hsending] at hperm
    exact (Multiset.cons_inj_right message).mp hperm

theorem Consumers.Refines.step {config : ConsumersConfig} {c c' : Consumers} {s : Sidecar}
    {a : ConsumersAction} (h : c.Refines s) (hstep : c.step config a = some c') :
    ∃ actions s', Transition.exec Sidecar.step s actions = some s' ∧ c'.Refines s' := by
  cases a with
  | deliver k event =>
      refine ⟨[], s, rfl, ?_⟩
      rcases Consumers.deliver_eq_some hstep with
        ⟨-, dispatcher, -, -, rfl⟩ | ⟨-, j, handler, -, hhandler, rfl⟩
      · exact h.of_frame rfl rfl rfl rfl
      · exact h.of_frame rfl rfl rfl (pendingSends_set_of_sending hhandler rfl)
  | receive k =>
      obtain ⟨event, rest, -, rfl⟩ := Consumers.receive_eq_some hstep
      exact ⟨[], s, rfl, h.of_frame rfl rfl rfl rfl⟩
  | dispatch k =>
      refine ⟨[], s, rfl, ?_⟩
      obtain ⟨inbound, event, -, ⟨j, handler, -, hhandler, rfl⟩ | ⟨-, rfl⟩⟩ :=
        Consumers.dispatch_eq_some hstep
      · exact h.of_frame rfl rfl rfl (pendingSends_set_of_sending hhandler rfl)
      · exact h.of_frame rfl rfl rfl rfl
  | handle j dbFails unixTimestamp currentTimestamp => exact h.handle hstep
  | send j => exact h.send hstep

/-- **Both consumers run the handler model.**  In every run of the consumers of any
number of node connections, single- or multi-threaded, over a database holding any rows,
the database, the version manager and the outbound channel are those of a reachable
state of the handler model of `handle_single_event`, whose handlers past their save are
exactly the tasks awaiting their send. -/
theorem Consumers.Reachable.refines_handlers {config : ConsumersConfig} {connections : Nat}
    {store : EventStore} {c : Consumers} (hc : c.Reachable config connections store) :
    ∃ s, s.Reachable store ∧ c.Refines s :=
  Transition.Reachable.simulation (Consumers.refines_init config connections store)
    (fun _ _ _ _ hR hstep => hR.step hstep) hc

/-- The single-threaded consumer takes a node's event and sends its message: the
handler model reaches the same database and outbound channel. -/
theorem Consumers.Reachable.refines_handlers_one_event :
    ∃ c : Consumers, c.Reachable ⟨false, 10⟩ 1 .empty ∧ c.outbound.length = 1 ∧
      ∃ s, s.Reachable .empty ∧ c.Refines s := by
  obtain ⟨c, hc, hp⟩ := @Transition.exists_reachable_of_exec _ _ (Consumers.step ⟨false, 10⟩)
    (.init ⟨false, 10⟩ 1 .empty)
    [.deliver 0 ⟨1, .step ⟨3⟩ "effects", "http://10.0.0.1:9999", none, .main⟩, .handle 0 false 0 0,
      .send 0]
    (fun c => c.outbound.length == 1) (by decide)
  exact ⟨c, hc, by simpa using hp, Consumers.Reachable.refines_handlers hc⟩

/-! ## The queues -/

/-- Whether the task of a filter takes an event: the single-threaded one takes all. -/
def acceptsEvent (filter : Option Filter) (event : SseEvent) : Bool :=
  match filter with
  | none => true
  | some filter => event.inboundFilter == filter

@[simp] theorem acceptsEvent_none (event : SseEvent) : acceptsEvent none event = true := rfl

/-- The events connection `k` sent, oldest first. -/
def sentBy (delivered : List (Nat × SseEvent)) (k : Nat) : List SseEvent :=
  delivered.filterMap fun entry => if entry.1 = k then some entry.2 else none

/-- The events for the task of connection `k` and `filter` that its dispatch loop holds,
oldest first: the one in hand, then those on the inbound channel. -/
def inFlight (dispatchers : List Dispatcher) (k : Nat) : Option Filter → List SseEvent
  | none => []
  | some filter =>
      match dispatchers[k]? with
      | some dispatcher =>
          (dispatcher.inHand.toList ++ dispatcher.inbound).filter (acceptsEvent (some filter))
      | none => []

/-- A task's events in order: those it took, those on its channel and those on their way
to it make up the events its connection sent for it, in the order sent. -/
def Handler.InOrder (dispatchers : List Dispatcher) (delivered : List (Nat × SseEvent))
    (handler : Handler) : Prop :=
  handler.handled ++ handler.channel ++ inFlight dispatchers handler.connection handler.filter =
    (sentBy delivered handler.connection).filter (acceptsEvent handler.filter)

theorem sentBy_append_singleton (delivered : List (Nat × SseEvent)) (k k' : Nat)
    (event : SseEvent) :
    sentBy (delivered ++ [(k, event)]) k' = sentBy delivered k' ++ if k = k' then [event] else [] := by
  unfold sentBy
  rw [List.filterMap_append]
  by_cases hk : k = k' <;> simp [hk]

theorem inFlight_set_of_ne {dispatchers : List Dispatcher} {k k' : Nat} (hk : k ≠ k')
    (dispatcher : Dispatcher) (filter : Option Filter) :
    inFlight (dispatchers.set k dispatcher) k' filter = inFlight dispatchers k' filter := by
  cases filter with
  | none => rfl
  | some filter => simp only [inFlight, List.getElem?_set_ne hk]

theorem inFlight_set_self {dispatchers : List Dispatcher} {k : Nat} {dispatcher : Dispatcher}
    (hk : dispatchers[k]? = some dispatcher) (dispatcher' : Dispatcher) (filter : Filter) :
    inFlight (dispatchers.set k dispatcher') k (some filter) =
      (dispatcher'.inHand.toList ++ dispatcher'.inbound).filter (acceptsEvent (some filter)) := by
  have hlt : k < dispatchers.length := (List.getElem?_eq_some_iff.mp hk).1
  simp only [inFlight, List.getElem?_set_self hlt]

theorem inFlight_of_getElem? {dispatchers : List Dispatcher} {k : Nat} {dispatcher : Dispatcher}
    (hk : dispatchers[k]? = some dispatcher) (filter : Filter) :
    inFlight dispatchers k (some filter) =
      (dispatcher.inHand.toList ++ dispatcher.inbound).filter (acceptsEvent (some filter)) := by
  simp only [inFlight, hk]

/-- A task keeps its order when the same events are added to what is on its way to it
and to what its connection sent for it. -/
theorem Handler.InOrder.extend {dispatchers dispatchers' : List Dispatcher}
    {delivered delivered' : List (Nat × SseEvent)} {handler : Handler}
    (h : handler.InOrder dispatchers delivered) {extra : List SseEvent}
    (hflight : inFlight dispatchers' handler.connection handler.filter =
      inFlight dispatchers handler.connection handler.filter ++ extra)
    (hsent : (sentBy delivered' handler.connection).filter (acceptsEvent handler.filter) =
      (sentBy delivered handler.connection).filter (acceptsEvent handler.filter) ++ extra) :
    handler.InOrder dispatchers' delivered' := by
  unfold Handler.InOrder at h ⊢
  rw [hflight, hsent, ← h]
  simp only [List.append_assoc]

theorem filter_sentBy_append_singleton (delivered : List (Nat × SseEvent)) (k k' : Nat)
    (event : SseEvent) (p : SseEvent → Bool) :
    (sentBy (delivered ++ [(k, event)]) k').filter p =
      (sentBy delivered k').filter p ++ if k = k' then [event].filter p else [] := by
  rw [sentBy_append_singleton, List.filter_append]
  split <;> rfl

/-- A connection's event goes onto the inbound channel of its dispatch loop. -/
theorem inFlight_deliver {dispatchers : List Dispatcher} {k : Nat} {dispatcher : Dispatcher}
    (hk : dispatchers[k]? = some dispatcher) (event : SseEvent) (k' : Nat) (filter : Filter) :
    inFlight (dispatchers.set k { dispatcher with inbound := dispatcher.inbound ++ [event] }) k'
        (some filter) =
      inFlight dispatchers k' (some filter) ++
        if k = k' then [event].filter (acceptsEvent (some filter)) else [] := by
  by_cases hkk : k = k'
  · subst hkk
    rw [inFlight_set_self hk, inFlight_of_getElem? hk, if_pos rfl]
    simp only [List.append_assoc, List.filter_append]
  · rw [inFlight_set_of_ne hkk, if_neg hkk, List.append_nil]

/-- A dispatch loop's receive moves an event from its channel to its hand. -/
theorem inFlight_receive {dispatchers : List Dispatcher} {k : Nat} {event : SseEvent}
    {rest : List SseEvent} (hk : dispatchers[k]? = some ⟨event :: rest, none, true⟩) (k' : Nat)
    (filter : Option Filter) :
    inFlight (dispatchers.set k ⟨rest, some event, true⟩) k' filter = inFlight dispatchers k' filter := by
  cases filter with
  | none => rfl
  | some filter =>
      by_cases hkk : k = k'
      · subst hkk
        rw [inFlight_set_self hk, inFlight_of_getElem? hk]
        rfl
      · exact inFlight_set_of_ne hkk _ _

/-- The event a dispatch loop sends to its queue was on its way to that queue only. -/
theorem inFlight_dispatch_of_ne {dispatchers : List Dispatcher} {k : Nat} {event : SseEvent}
    {inbound : List SseEvent} (hk : dispatchers[k]? = some ⟨inbound, some event, true⟩) {k' : Nat}
    {filter : Filter} (hne : ¬(k = k' ∧ event.inboundFilter = filter)) :
    inFlight (dispatchers.set k ⟨inbound, none, true⟩) k' (some filter) =
      inFlight dispatchers k' (some filter) := by
  by_cases hkk : k = k'
  · subst hkk
    have hfilter : event.inboundFilter ≠ filter := fun hf => hne ⟨rfl, hf⟩
    rw [inFlight_set_self hk, inFlight_of_getElem? hk]
    show inbound.filter _ = (event :: inbound).filter _
    rw [List.filter_cons_of_neg (by simpa [acceptsEvent] using hfilter)]
  · exact inFlight_set_of_ne hkk _ _

theorem inFlight_dispatch_self {dispatchers : List Dispatcher} {k : Nat} {event : SseEvent}
    {inbound : List SseEvent} (hk : dispatchers[k]? = some ⟨inbound, some event, true⟩) :
    inFlight dispatchers k (some event.inboundFilter) =
      event :: inFlight (dispatchers.set k ⟨inbound, none, true⟩) k (some event.inboundFilter) := by
  rw [inFlight_set_self hk, inFlight_of_getElem? hk]
  show (event :: inbound).filter _ = _
  rw [List.filter_cons_of_pos (by simp [acceptsEvent])]
  rfl

/-! ### The keys of the queues -/

theorem mem_buildQueues (filter : Filter) : filter ∈ buildQueues := by
  cases filter <;> decide

theorem nodup_initHandlers_keys (config : ConsumersConfig) (connections : Nat) :
    ((initHandlers config connections).map Handler.key).Nodup := by
  unfold initHandlers
  split
  · -- the queues of one connection differ by filter, those of two by connection
    rw [List.map_flatMap]
    refine List.nodup_flatMap.mpr ⟨fun k _ => ?_, ?_⟩
    · rw [List.map_map]
      exact (by decide : buildQueues.Nodup).map fun f f' h => by
        simpa [Handler.key] using h
    · refine (List.nodup_range).pairwise_of_forall_ne fun k _ k' _ hne => ?_
      simp only [List.map_map, Function.onFun, List.disjoint_left, List.mem_map,
        Function.comp_apply, Handler.key]
      rintro _ ⟨f, -, rfl⟩ ⟨f', -, hf'⟩
      exact hne (Prod.mk.inj hf').1.symm
  · rw [List.map_map]
    exact List.nodup_range.map fun k k' h => by simpa [Handler.key] using h

theorem mem_initHandlers_keys {config : ConsumersConfig} {connections k : Nat}
    {filter : Option Filter}
    (h : (k, filter) ∈ (initHandlers config connections).map Handler.key) :
    k < connections ∧ (filter.isSome ↔ config.multiThreaded) := by
  unfold initHandlers at h
  split at h
  · rename_i hmulti
    obtain ⟨handler, hmem, hkey⟩ := List.mem_map.mp h
    obtain ⟨k', hk', hmem'⟩ := List.mem_flatMap.mp hmem
    obtain ⟨f, -, rfl⟩ := List.mem_map.mp hmem'
    obtain ⟨rfl, rfl⟩ := Prod.mk.inj hkey
    exact ⟨List.mem_range.mp hk', by simp [hmulti]⟩
  · rename_i hmulti
    obtain ⟨handler, hmem, hkey⟩ := List.mem_map.mp h
    obtain ⟨k', hk', rfl⟩ := List.mem_map.mp hmem
    obtain ⟨rfl, rfl⟩ := Prod.mk.inj hkey
    exact ⟨List.mem_range.mp hk', by simp [hmulti]⟩

theorem queue_mem_initHandlers_keys {config : ConsumersConfig} {connections k : Nat}
    (hmulti : config.multiThreaded = true) (hk : k < connections) (filter : Filter) :
    (k, some filter) ∈ (initHandlers config connections).map Handler.key := by
  unfold initHandlers
  rw [if_pos hmulti]
  exact List.mem_map.mpr ⟨⟨k, some filter, [], none, []⟩,
    List.mem_flatMap.mpr ⟨k, List.mem_range.mpr hk,
      List.mem_map.mpr ⟨filter, mem_buildQueues filter, rfl⟩⟩, rfl⟩

theorem Consumers.queueOf_eq_some {c : Consumers} {k j : Nat} {filter : Option Filter}
    (h : c.queueOf k filter = some j) :
    ∃ handler, c.handlers[j]? = some handler ∧ handler.key = (k, filter) := by
  obtain ⟨hlt, hkey, -⟩ := List.idxOf?_eq_some_iff.mp h
  rw [List.length_map] at hlt
  exact ⟨c.handlers[j], List.getElem?_eq_getElem hlt, by simpa using hkey⟩

/-- The task whose queue `senders_map.get` finds is of the connection and filter asked
for. -/
theorem Consumers.key_of_queueOf {c : Consumers} {k j : Nat} {filter : Option Filter}
    {handler : Handler} (h : c.queueOf k filter = some j) (hhandler : c.handlers[j]? = some handler) :
    handler.connection = k ∧ handler.filter = filter := by
  obtain ⟨handler₀, hj₀, hkey⟩ := Consumers.queueOf_eq_some h
  rw [hhandler] at hj₀
  cases hj₀
  exact Prod.mk.inj hkey

/-- Two tasks at different places have different queues. -/
theorem key_ne_of_nodup {handlers : List Handler} (hnodup : (handlers.map Handler.key).Nodup)
    {i j : Nat} {handler handler' : Handler} (hi : handlers[i]? = some handler)
    (hj : handlers[j]? = some handler') (hij : i ≠ j) : handler.key ≠ handler'.key := by
  obtain ⟨hilt, rfl⟩ := List.getElem?_eq_some_iff.mp hi
  obtain ⟨hjlt, rfl⟩ := List.getElem?_eq_some_iff.mp hj
  intro hkey
  have hilt' : i < (handlers.map Handler.key).length := by simpa using hilt
  have hjlt' : j < (handlers.map Handler.key).length := by simpa using hjlt
  have hmapped : (handlers.map Handler.key)[i] = (handlers.map Handler.key)[j] := by
    simpa using hkey
  exact hij ((List.Nodup.getElem_inj_iff hnodup).mp hmapped)

theorem map_key_set {handlers : List Handler} {j : Nat} {handler handler' : Handler}
    (hj : handlers[j]? = some handler) (hkey : handler'.key = handler.key) :
    (handlers.set j handler').map Handler.key = handlers.map Handler.key := by
  obtain ⟨hlt, rfl⟩ := List.getElem?_eq_some_iff.mp hj
  have hlt' : j < (handlers.map Handler.key).length := by simpa using hlt
  have hmapped : (handlers.map Handler.key)[j] = handlers[j].key :=
    List.getElem_map _
  rw [List.map_set, hkey, ← hmapped, List.set_getElem_self]

/-- The tasks after one of them changed are in order when it is and the others are. -/
theorem inOrder_set {handlers : List Handler} {j : Nat} {handler' : Handler}
    {dispatchers : List Dispatcher} {delivered : List (Nat × SseEvent)}
    (hothers : ∀ (i : Nat) (handler : Handler), handlers[i]? = some handler → i ≠ j →
      handler.InOrder dispatchers delivered)
    (hnew : handler'.InOrder dispatchers delivered) :
    ∀ (i : Nat) (handler : Handler), (handlers.set j handler')[i]? = some handler →
      handler.InOrder dispatchers delivered := by
  intro i handler hi
  by_cases hij : i = j
  · subst hij
    rw [List.getElem?_set_self'] at hi
    obtain ⟨_, -, rfl⟩ := Option.map_eq_some_iff.mp hi
    exact hnew
  · rw [List.getElem?_set_ne (Ne.symm hij)] at hi
    exact hothers i handler hi hij

/-! ### The order invariant -/

/-- What every run keeps: the queues `build_queues` made, one dispatch loop for each
connection of the multi-threaded consumer, none of them broken, and every task's
events in order. -/
structure Consumers.Ordered (config : ConsumersConfig) (connections : Nat) (c : Consumers) :
    Prop where
  keys : c.handlers.map Handler.key = (initHandlers config connections).map Handler.key
  dispatchers : c.dispatchers.length = if config.multiThreaded then connections else 0
  running : ∀ dispatcher ∈ c.dispatchers, dispatcher.running = true
  inOrder : ∀ (i : Nat) (handler : Handler), c.handlers[i]? = some handler →
    handler.InOrder c.dispatchers c.delivered

namespace Consumers.Ordered

variable {config : ConsumersConfig} {connections : Nat} {c c' : Consumers}

theorem nodup (h : c.Ordered config connections) : (c.handlers.map Handler.key).Nodup := by
  rw [h.keys]
  exact nodup_initHandlers_keys config connections

/-- A task reads a queue exactly when the consumer is multi-threaded. -/
theorem filter_isSome (h : c.Ordered config connections) {i : Nat} {handler : Handler}
    (hi : c.handlers[i]? = some handler) : handler.filter.isSome ↔ config.multiThreaded := by
  have hmem : (handler.connection, handler.filter) ∈ c.handlers.map Handler.key :=
    List.mem_map.mpr ⟨handler, List.mem_of_getElem? hi, rfl⟩
  rw [h.keys] at hmem
  exact (mem_initHandlers_keys hmem).2

/-- The dispatch loop of a connection finds a queue for every filter. -/
theorem queueOf_isSome (h : c.Ordered config connections) {k : Nat} {dispatcher : Dispatcher}
    (hk : c.dispatchers[k]? = some dispatcher) (filter : Filter) :
    (c.queueOf k (some filter)).isSome := by
  have hlt := (List.getElem?_eq_some_iff.mp hk).1
  rw [h.dispatchers] at hlt
  split at hlt
  · rename_i hmulti
    unfold Consumers.queueOf
    rw [List.isSome_idxOf?, h.keys]
    exact queue_mem_initHandlers_keys hmulti hlt filter
  · exact absurd hlt (Nat.not_lt_zero _)

theorem keys_set (h : c.Ordered config connections) {j : Nat} {handler handler' : Handler}
    (hj : c.handlers[j]? = some handler) (hkey : handler'.key = handler.key) :
    (c.handlers.set j handler').map Handler.key = (initHandlers config connections).map Handler.key :=
  (map_key_set hj hkey).trans h.keys

theorem running_set {dispatchers : List Dispatcher} {k : Nat} {dispatcher : Dispatcher}
    (hrunning : ∀ d ∈ dispatchers, d.running = true) (hnew : dispatcher.running = true) :
    ∀ d ∈ dispatchers.set k dispatcher, d.running = true := by
  intro d hmem
  rcases List.mem_or_eq_of_mem_set hmem with hold | rfl
  · exact hrunning d hold
  · exact hnew

theorem deliver (h : c.Ordered config connections) {k : Nat} {event : SseEvent}
    (hstep : c.deliver config k event = some c') : c'.Ordered config connections := by
  rcases Consumers.deliver_eq_some hstep with
    ⟨hmulti, dispatcher, hd, hrunning, rfl⟩ | ⟨hmulti, j, handler, hj, hhandler, rfl⟩
  · -- onto the inbound channel of the dispatch loop: each queue of the connection
    -- gains it on its way when it is of the queue's filter
    refine ⟨h.keys, by rw [List.length_set]; exact h.dispatchers,
      running_set h.running hrunning, fun i handler' hi => ?_⟩
    obtain ⟨filter, hfilter⟩ := Option.isSome_iff_exists.mp ((h.filter_isSome hi).mpr hmulti)
    refine (h.inOrder i handler' hi).extend ?_ (filter_sentBy_append_singleton _ _ _ _ _)
    rw [hfilter]
    exact inFlight_deliver hd event _ filter
  · -- onto the channel of the single-threaded task of the connection
    obtain ⟨hconn, hfilter⟩ := Consumers.key_of_queueOf hj hhandler
    refine ⟨h.keys_set hhandler (by rfl), h.dispatchers, h.running, ?_⟩
    apply inOrder_set
    · -- every other task is of another connection
      intro i handler' hi hij
      have hne := key_ne_of_nodup h.nodup hi hhandler hij
      have hnone : handler'.filter = none := by
        cases hf : handler'.filter with
        | none => rfl
        | some f => exact absurd ((h.filter_isSome hi).mp (by simp [hf])) (by simp [hmulti])
      have hother : k ≠ handler'.connection := by
        intro hk
        apply hne
        rw [Handler.key, Handler.key, hnone, hconn, hfilter, hk]
      exact (h.inOrder i handler' hi).extend (List.append_nil _).symm
        (by rw [filter_sentBy_append_singleton, if_neg hother])
    · have hold := h.inOrder j handler hhandler
      unfold Handler.InOrder at hold ⊢
      show handler.handled ++ (handler.channel ++ [event]) ++
          inFlight c.dispatchers handler.connection handler.filter =
        (sentBy (c.delivered ++ [(k, event)]) handler.connection).filter (acceptsEvent handler.filter)
      rw [filter_sentBy_append_singleton, if_pos hconn.symm, ← hold, hfilter]
      simp [inFlight, List.filter_cons]

theorem receive (h : c.Ordered config connections) {k : Nat} (hstep : c.receive k = some c') :
    c'.Ordered config connections := by
  obtain ⟨event, rest, hd, rfl⟩ := Consumers.receive_eq_some hstep
  refine ⟨h.keys, by rw [List.length_set]; exact h.dispatchers, running_set h.running rfl,
    fun i handler hi => ?_⟩
  -- the event moves from the channel to the loop's hand, still on its way
  refine (h.inOrder i handler hi).extend ?_ (List.append_nil _).symm
  rw [List.append_nil]
  exact inFlight_receive hd _ _

theorem dispatch (h : c.Ordered config connections) {k : Nat} (hstep : c.dispatch k = some c') :
    c'.Ordered config connections := by
  obtain ⟨inbound, event, hd, ⟨j, handler, hj, hhandler, rfl⟩ | ⟨hnone, -⟩⟩ :=
    Consumers.dispatch_eq_some hstep
  · obtain ⟨hconn, hfilter⟩ := Consumers.key_of_queueOf hj hhandler
    refine ⟨h.keys_set hhandler (by rfl), by rw [List.length_set]; exact h.dispatchers,
      running_set h.running rfl, ?_⟩
    apply inOrder_set
    · -- the event was on its way to its own queue only
      intro i handler' hi hij
      have hne := key_ne_of_nodup h.nodup hi hhandler hij
      refine (h.inOrder i handler' hi).extend ?_ (List.append_nil _).symm
      rw [List.append_nil]
      cases hf : handler'.filter with
      | none => rfl
      | some filter =>
          refine inFlight_dispatch_of_ne hd fun ⟨hk, hfilter'⟩ => hne ?_
          rw [Handler.key, Handler.key, hf, hconn, hfilter, ← hk, hfilter']
    · -- and reaches the end of that queue's channel
      have hold := h.inOrder j handler hhandler
      unfold Handler.InOrder at hold ⊢
      show handler.handled ++ (handler.channel ++ [event]) ++
          inFlight (c.dispatchers.set k ⟨inbound, none, true⟩) handler.connection handler.filter =
        (sentBy c.delivered handler.connection).filter (acceptsEvent handler.filter)
      rw [← hold, hconn, hfilter, inFlight_dispatch_self hd]
      simp
  · -- `senders_map` has a queue for every filter: the loop never breaks
    exact absurd hnone (Option.isSome_iff_ne_none.mp (h.queueOf_isSome hd event.inboundFilter))

theorem handle (h : c.Ordered config connections) {j : Nat} {dbFails : Bool}
    {unixTimestamp currentTimestamp : UInt64}
    (hstep : c.handle j dbFails unixTimestamp currentTimestamp = some c') :
    c'.Ordered config connections := by
  obtain ⟨connection, filter, event, rest, handled, hhandler, rfl⟩ := Consumers.handle_eq_some hstep
  refine ⟨h.keys_set hhandler (by rfl), h.dispatchers, h.running, ?_⟩
  apply inOrder_set
  · intro i handler' hi _
    exact h.inOrder i handler' hi
  · -- the event moves from the task's channel to what it took
    have hold := h.inOrder j _ hhandler
    unfold Handler.InOrder at hold ⊢
    simpa using hold

theorem send (h : c.Ordered config connections) {j : Nat} (hstep : c.send j = some c') :
    c'.Ordered config connections := by
  obtain ⟨connection, filter, channel, message, handled, hhandler, rfl⟩ := Consumers.send_eq_some hstep
  refine ⟨h.keys_set hhandler (by rfl), h.dispatchers, h.running, ?_⟩
  apply inOrder_set
  · intro i handler' hi _
    exact h.inOrder i handler' hi
  · -- its order does not depend on the send it awaited
    have hold := h.inOrder j _ hhandler
    exact hold

theorem step (h : c.Ordered config connections) {a : ConsumersAction}
    (hstep : c.step config a = some c') : c'.Ordered config connections := by
  cases a with
  | deliver k event => exact h.deliver hstep
  | receive k => exact h.receive hstep
  | dispatch k => exact h.dispatch hstep
  | handle j dbFails unixTimestamp currentTimestamp => exact h.handle hstep
  | send j => exact h.send hstep

end Consumers.Ordered

theorem inFlight_init (config : ConsumersConfig) (connections : Nat) (store : EventStore) (k : Nat)
    (filter : Option Filter) :
    inFlight (Consumers.init config connections store).dispatchers k filter = [] := by
  cases filter with
  | none => rfl
  | some filter =>
      cases hk : (Consumers.init config connections store).dispatchers[k]? with
      | none => simp only [inFlight, hk]
      | some dispatcher =>
          -- every dispatch loop starts with nothing
          have hmem := List.mem_of_getElem? hk
          have hstart : dispatcher = ⟨[], none, true⟩ := by
            unfold Consumers.init at hmem
            split at hmem
            · exact List.eq_of_mem_replicate hmem
            · cases hmem
          rw [inFlight_of_getElem? hk, hstart]
          rfl

theorem Consumers.ordered_init (config : ConsumersConfig) (connections : Nat) (store : EventStore) :
    (Consumers.init config connections store).Ordered config connections where
  keys := rfl
  dispatchers := by
    unfold Consumers.init
    split <;> simp
  running := by
    intro dispatcher hmem
    unfold Consumers.init at hmem
    split at hmem
    · rw [List.eq_of_mem_replicate hmem]
    · cases hmem
  inOrder := by
    intro i handler hi
    obtain ⟨k, filter, rfl⟩ := eq_of_mem_initHandlers (List.mem_of_getElem? hi)
    unfold Handler.InOrder
    rw [inFlight_init]
    rfl

theorem Consumers.Reachable.ordered {config : ConsumersConfig} {connections : Nat}
    {store : EventStore} {c : Consumers} (hc : c.Reachable config connections store) :
    c.Ordered config connections :=
  Transition.Reachable.invariant (Consumers.ordered_init config connections store)
    (fun _ _ _ h hstep => h.step hstep) hc

/-- **Each task takes its connection's events in the order they were sent.**  In every
run of the consumers of any number of connections, the dispatch loops never break, and
the events each task has taken are a prefix of the events its connection sent for it:
all of them for the single-threaded consumer, those of its queue's filter for the
multi-threaded one; none is lost, taken twice or taken out of order. -/
theorem Consumers.Reachable.handled_in_order {config : ConsumersConfig} {connections : Nat}
    {store : EventStore} {c : Consumers} (hc : c.Reachable config connections store) :
    (∀ dispatcher ∈ c.dispatchers, dispatcher.running = true) ∧
      ∀ handler ∈ c.handlers,
        handler.handled <+: (sentBy c.delivered handler.connection).filter (acceptsEvent handler.filter) := by
  have h := hc.ordered
  refine ⟨h.running, fun handler hmem => ?_⟩
  obtain ⟨i, hi, rfl⟩ := List.getElem_of_mem hmem
  have hinOrder := h.inOrder i _ (List.getElem?_eq_getElem hi)
  unfold Handler.InOrder at hinOrder
  rw [← hinOrder, List.append_assoc]
  exact List.prefix_append _ _

/-- The multi-threaded consumer of one connection dispatches two events to the queues of
their filters, and the main queue's task takes its event. -/
theorem Consumers.Reachable.handled_in_order_two_queues :
    ∃ c : Consumers, c.Reachable ⟨true, 10⟩ 1 .empty ∧
      c.handlers.map (fun handler => handler.handled.length) = [0, 0, 1, 0] ∧
      (∀ dispatcher ∈ c.dispatchers, dispatcher.running = true) ∧
      ∀ handler ∈ c.handlers,
        handler.handled <+: (sentBy c.delivered handler.connection).filter (acceptsEvent handler.filter) := by
  obtain ⟨c, hc, hp⟩ := @Transition.exists_reachable_of_exec _ _ (Consumers.step ⟨true, 10⟩)
    (.init ⟨true, 10⟩ 1 .empty)
    [.deliver 0 ⟨1, .step ⟨3⟩ "effects", "http://10.0.0.1:9999", none, .main⟩,
      .deliver 0 ⟨2, .shutdown, "http://10.0.0.1:9999", none, .sigs⟩, .receive 0, .dispatch 0,
      .receive 0, .dispatch 0, .handle 2 false 0 0]
    (fun c => c.handlers.map (fun handler => handler.handled.length) == [0, 0, 1, 0]) (by decide)
  exact ⟨c, hc, by simpa using hp, Consumers.Reachable.handled_in_order hc⟩

end CasperSidecar
