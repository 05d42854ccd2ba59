import Mathlib
import CasperSidecar.EventStreamServer.EventIndexer
import CasperSidecar.EventStreamServer.HttpServer

/-!
# EventStreamServer.Server

The outbound event stream server as a system of concurrent parties
(`sidecar/src/event_stream_server.rs`, `http_server::run`,
`sse_server::serve_sse_response_handler`):

* the producer, `EventStreamServer::broadcast`, which indexes each `SseData`
  and sends it on the unbounded data channel;
* the run loop, whose `select!` takes either the next data item
  (`handle_incoming_data`: buffer it, then broadcast it to every live receiver)
  or the next `NewSubscriberInfo` (`register_new_subscriber`: send the client
  its initial events);
* each request handler, which runs `validate`, sends its `NewSubscriberInfo`
  and only afterwards calls `cloned_broadcaster.subscribe()`; its client may
  later drop the receiver.

Each of these is one atomic action of `Server.step`, and a run is any
interleaving of them (`Server.exec`, `Server.Reachable`).  `processed` is a
ghost history: the data items the run loop has handled, oldest first.

The run loop's buffer is the `WheelBuf` parameter `wb` (`HttpServer`).

Not modelled: the drop of the data sender (the `EventStreamServer` owns it for
the whole run, so `handle_incoming_data` never sees `None`), requests whose path
or query fails to parse (they are answered with an error and leave the server
unchanged), and lagging as such: every live receiver gets every message, the
`Ok` input of `stream_to_client` (`EventStreamServer.SseServer`).  A tokio
receiver that falls more than the channel's capacity behind gets `Lagged`
instead, which `handle_lagged` turns into the error that ends the client's
stream: that client has then received what a receiver here holds when it is
dropped by `disconnect` right after the last message the client got, so every
run with a lagging client is, for what the clients receive, a run here.
-/

namespace CasperSidecar

variable {wb : EventBufferImpl}

/-! ## Clients -/

/-- What the server holds for one admitted request. -/
structure Client where
  /-- The `start_from` query parameter. -/
  startFrom : Option EventIndex
  /-- The initial events `register_new_subscriber` sent; `none` until it ran. -/
  initialEvents : Option (List ServerSentEvent)
  /-- The messages the broadcast receiver got; `none` until `subscribe()`. -/
  ongoingEvents : Option (List BroadcastChannelMessage)
  /-- Whether the client still holds its receiver. -/
  connected : Bool
deriving DecidableEq

/-- A receiver that `broadcaster.send` reaches and `receiver_count()` counts. -/
def Client.isLive (client : Client) : Bool :=
  client.ongoingEvents.isSome && client.connected

/-- `broadcaster.send(message)` as one receiver sees it. -/
def Client.receive (message : BroadcastChannelMessage) (client : Client) : Client :=
  if client.connected then { client with ongoingEvents := client.ongoingEvents.map (· ++ [message]) }
  else client

/-! ## The server -/

/-- The state of the event stream server and its clients. -/
structure Server (wb : EventBufferImpl) where
  eventIndexer : EventIndexer
  /-- `sse_data_sender` → `data_receiver`, oldest first. -/
  dataChannel : List InboundData
  runLoop : RunLoop wb
  /-- `new_subscriber_info_sender` → `new_subscriber_info_receiver`: the clients
  whose `NewSubscriberInfo` waits, oldest first. -/
  subscriberChannel : List Nat
  clients : List Client
  /-- Ghost: the data the run loop has handled, oldest first. -/
  processed : List InboundData

/-- The server as `EventStreamServer::new` leaves it, its counter restored to `index`. -/
def Server.init (wb : EventBufferImpl) (config : Config) (index : EventIndex) : Server wb :=
  ⟨⟨index⟩, [], ⟨none, buildBuffer wb config⟩, [], [], []⟩

/-- `receiver_count()`. -/
def Server.receiverCount (s : Server wb) : Nat :=
  (s.clients.filter Client.isLive).length

/-- `EventStreamServer::broadcast`: `ApiVersion` gets no index, any other data the
next index; the item goes to the back of the data channel. -/
def Server.broadcast (s : Server wb) (data : SseData) (inboundFilter : Option Filter)
    (maybeJsonData : Option String) : Server wb :=
  match data with
  | .apiVersion _ =>
      { s with dataChannel := s.dataChannel ++ [⟨none, data, inboundFilter, maybeJsonData⟩] }
  | _ =>
      let (index, eventIndexer) := s.eventIndexer.nextIndex
      { s with eventIndexer,
               dataChannel := s.dataChannel ++ [⟨some index, data, inboundFilter, maybeJsonData⟩] }

/-- The run loop's data branch: `handle_incoming_data` on the oldest item, whose
message every live receiver gets.  Not enabled on an empty channel; `none` also
when the buffer push panics. -/
def Server.receiveData (s : Server wb) : Option (Server wb) :=
  match s.dataChannel with
  | [] => none
  | item :: rest =>
      match handleIncomingData (some item) s.runLoop with
      | .ok runLoop message =>
          some { s with dataChannel := rest, runLoop, processed := s.processed ++ [item],
                        clients := s.clients.map (Client.receive message) }
      | .closed | .panicked => none

/-- The run loop's subscriber branch: `register_new_subscriber` for the oldest
waiting client.  `none` where it panics. -/
def Server.receiveSubscriber (s : Server wb) : Option (Server wb) :=
  match s.subscriberChannel with
  | [] => none
  | c :: rest =>
      match s.clients[c]? with
      | none => none
      | some client =>
          match registerNewSubscriber wb client.startFrom s.runLoop.buffer
              s.runLoop.latestProtocolVersion with
          | none => none
          | some events =>
              some { s with subscriberChannel := rest,
                            clients := s.clients.set c { client with initialEvents := some events } }

/-- `serve_sse_response_handler` up to its `NewSubscriberInfo`: `validate` answers
503 when `receiver_count()` has reached the maximum; otherwise the client is admitted
and its info is sent. -/
def Server.connect (config : Config) (s : Server wb) (startFrom : Option EventIndex) : Server wb :=
  if s.receiverCount ≥ config.maxConcurrentSubscribers.toNat then s
  else { s with clients := s.clients ++ [⟨startFrom, none, none, true⟩],
                subscriberChannel := s.subscriberChannel ++ [s.clients.length] }

/-- The rest of the handler: `cloned_broadcaster.subscribe()`, once per client. -/
def Server.subscribe (s : Server wb) (c : Nat) : Option (Server wb) :=
  match s.clients[c]? with
  | some client =>
      if client.ongoingEvents.isNone then
        some { s with clients := s.clients.set c { client with ongoingEvents := some [] } }
      else none
  | none => none

/-- A subscribed client goes away and its receiver is dropped. -/
def Server.disconnect (s : Server wb) (c : Nat) : Option (Server wb) :=
  match s.clients[c]? with
  | some client =>
      if client.isLive then some { s with clients := s.clients.set c { client with connected := false } }
      else none
  | none => none

/-! ## Runs -/

/-- One atomic action of a party. -/
inductive Action where
  | broadcast (data : SseData) (inboundFilter : Option Filter) (maybeJsonData : Option String)
  | receiveData
  | receiveSubscriber
  | connect (startFrom : Option EventIndex)
  | subscribe (client : Nat)
  | disconnect (client : Nat)
deriving DecidableEq

/-- One step of the system; `none` when the action is not enabled or panics. -/
def Server.step (config : Config) (s : Server wb) : Action → Option (Server wb)
  | .broadcast data inboundFilter maybeJsonData => some (s.broadcast data inboundFilter maybeJsonData)
  | .receiveData => s.receiveData
  | .receiveSubscriber => s.receiveSubscriber
  | .connect startFrom => some (s.connect config startFrom)
  | .subscribe c => s.subscribe c
  | .disconnect c => s.disconnect c

/-- A sequence of actions, in order. -/
def Server.exec (config : Config) : Server wb → List Action → Option (Server wb)
  | s, [] => some s
  | s, a :: rest => (s.step config a).bind (Server.exec config · rest)

/-- The states some interleaving reaches from a fresh server. -/
inductive Server.Reachable (config : Config) : Server wb → Prop where
  | init (index : EventIndex) : Server.Reachable config (Server.init wb config index)
  | step {s s' : Server wb} (a : Action) :
      Server.Reachable config s → s.step config a = some s' → Server.Reachable config s'

theorem Server.reachable_exec {config : Config} {s s' : Server wb} {actions : List Action}
    (hs : s.Reachable config) (h : s.exec config actions = some s') : s'.Reachable config := by
  induction actions generalizing s with
  | nil =>
      simp only [Server.exec, Option.some.injEq] at h
      exact h ▸ hs
  | cons a rest ih =>
      simp only [Server.exec] at h
      cases hstep : s.step config a with
      | none => simp [hstep] at h
      | some s₁ =>
          rw [hstep, Option.bind_some] at h
          exact ih (.step a hs hstep) h

/-- A run from a fresh server that ends where `p` holds exhibits a reachable state
where `p` holds. -/
theorem Server.exists_reachable_of_exec {config : Config} {index : EventIndex}
    {actions : List Action} {p : Server wb → Bool}
    (h : ((Server.init wb config index).exec config actions).map p = some true) :
    ∃ s, s.Reachable config ∧ p s = true := by
  cases hrun : (Server.init wb config index).exec config actions with
  | none => simp [hrun] at h
  | some s =>
      simp only [hrun, Option.map_some, Option.some.injEq] at h
      exact ⟨s, reachable_exec (.init index) hrun, h⟩

/-! ## What each action changes -/

/-- The run loop, its ghost history and the producer's side, which only
`broadcast` and the data branch change. -/
structure Server.DataSide (s s' : Server wb) : Prop where
  eventIndexer : s'.eventIndexer = s.eventIndexer
  dataChannel : s'.dataChannel = s.dataChannel
  runLoop : s'.runLoop = s.runLoop
  processed : s'.processed = s.processed

/-- `broadcast` of an `ApiVersion` sends it without an index. -/
theorem Server.broadcast_of_isApiVersion {s : Server wb} {data : SseData} (h : data.isApiVersion = true)
    (inboundFilter : Option Filter) (maybeJsonData : Option String) :
    s.broadcast data inboundFilter maybeJsonData =
      { s with dataChannel := s.dataChannel ++ [⟨none, data, inboundFilter, maybeJsonData⟩] } := by
  cases data <;> first | rfl | contradiction

/-- `broadcast` of any other data sends it with the indexer's next index. -/
theorem Server.broadcast_of_isApiVersion_false {s : Server wb} {data : SseData}
    (h : data.isApiVersion = false) (inboundFilter : Option Filter) (maybeJsonData : Option String) :
    s.broadcast data inboundFilter maybeJsonData =
      { s with eventIndexer := ⟨s.eventIndexer.index + 1⟩,
               dataChannel :=
                 s.dataChannel ++ [⟨some s.eventIndexer.index, data, inboundFilter, maybeJsonData⟩] } := by
  cases data <;> first | rfl | contradiction

/-- **The data branch**, inverted: it took the oldest item and `handle_incoming_data`
succeeded on it. -/
theorem Server.receiveData_eq_some {s s' : Server wb} (h : s.receiveData = some s') :
    ∃ item rest runLoop message, s.dataChannel = item :: rest ∧
      handleIncomingData (some item) s.runLoop = .ok runLoop message ∧
      s' = { s with dataChannel := rest, runLoop, processed := s.processed ++ [item],
                    clients := s.clients.map (Client.receive message) } := by
  unfold Server.receiveData at h
  split at h
  · contradiction
  · rename_i item rest hchannel
    split at h
    · rename_i runLoop message hhandle
      exact ⟨item, rest, runLoop, message, hchannel, hhandle, (Option.some.inj h).symm⟩
    · contradiction
    · contradiction

theorem Server.receiveSubscriber_dataSide {s s' : Server wb} (h : s.receiveSubscriber = some s') :
    s.DataSide s' := by
  unfold Server.receiveSubscriber at h
  repeat' split at h
  all_goals first | contradiction | (cases h; exact ⟨rfl, rfl, rfl, rfl⟩)

theorem Server.connect_dataSide (config : Config) (s : Server wb) (startFrom : Option EventIndex) :
    s.DataSide (s.connect config startFrom) := by
  unfold Server.connect
  split <;> exact ⟨rfl, rfl, rfl, rfl⟩

theorem Server.subscribe_dataSide {s s' : Server wb} {c : Nat} (h : s.subscribe c = some s') :
    s.DataSide s' := by
  unfold Server.subscribe at h
  repeat' split at h
  all_goals first | contradiction | (cases h; exact ⟨rfl, rfl, rfl, rfl⟩)

theorem Server.disconnect_dataSide {s s' : Server wb} {c : Nat} (h : s.disconnect c = some s') :
    s.DataSide s' := by
  unfold Server.disconnect at h
  repeat' split at h
  all_goals first | contradiction | (cases h; exact ⟨rfl, rfl, rfl, rfl⟩)

/-- **What a step can do to the data side**: a `broadcast`, the data branch, or
nothing. -/
theorem Server.step_cases {config : Config} {s s' : Server wb} {a : Action}
    (h : s.step config a = some s') :
    (∃ data inboundFilter maybeJsonData, s' = s.broadcast data inboundFilter maybeJsonData) ∨
      s.receiveData = some s' ∨ s.DataSide s' := by
  cases a with
  | broadcast data inboundFilter maybeJsonData =>
      exact .inl ⟨data, inboundFilter, maybeJsonData, (Option.some.inj h).symm⟩
  | receiveData => exact .inr (.inl h)
  | receiveSubscriber => exact .inr (.inr (Server.receiveSubscriber_dataSide h))
  | connect startFrom =>
      cases h
      exact .inr (.inr (Server.connect_dataSide config s startFrom))
  | subscribe c => exact .inr (.inr (Server.subscribe_dataSide h))
  | disconnect c => exact .inr (.inr (Server.disconnect_dataSide h))

end CasperSidecar
