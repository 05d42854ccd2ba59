import Mathlib
import CasperSidecar.EventStreamServer.Buffer

/-!
# EventStreamServer.Handover

The hand-over of a client from the buffer replay to the live broadcast.  A
client's stream yields its initial events, then the broadcast messages its
receiver got, without those whose id an initial event carried
(`stream_to_client`, `EventStreamServer.SseServer`).

`serve_sse_response_handler` sends the client's `NewSubscriberInfo` before it
subscribes to the broadcaster.  In between, the run loop can register the
client (the replay is taken then) and handle more data: the events it
broadcasts in that window are neither in the replay nor received by the
client, which is not subscribed yet, so its stream skips them
(`client_misses_events_broadcast_before_subscribe`).

The same window defeats the subscriber limit: `validate` counts the live
receivers, and a client admitted by it is counted only once it subscribes, so
two requests admitted while one slot is left both subscribe
(`subscribers_exceed_limit`).
-/

namespace CasperSidecar

variable {wb : EventBufferImpl}

open PullStream

/-- What a registered and subscribed client's stream yields before the endpoint's
filter, from the messages its receiver got so far. -/
def Client.streamed (client : Client) : Option (List (Except RecvError ServerSentEvent)) :=
  match client.initialEvents, client.ongoingEvents with
  | some initial, some ongoing =>
      some ((chain initialStream ongoingStream).run (some initial, ongoing.map .ok) []).1
  | _, _ => none

/-- The ids of the events of `Client.streamed`, in order. -/
def streamedIds (streamed : List (Except RecvError ServerSentEvent)) : List EventIndex :=
  streamed.filterMap fun result =>
    match result with
    | .ok event => event.id
    | .error _ => none

/-- The stream in closed form, with the id set the initial stream builds computed
along the initial events. -/
theorem chain_run_fst_eq (initial : List ServerSentEvent) (ongoing : List BroadcastResult) :
    ((chain initialStream ongoingStream).run (some initial, ongoing) []).1 =
      initial.map .ok ++ (ongoing.takeWhile isNotShutdown).filterMap fun r =>
        (handleBroadcastResult r (mapEnv recordInitialId initial []).2).1 := by
  rw [chain_run_fst, initialStream, run_map_ofList]

/-- An event lost at the hand-over: with `ApiVersion` and event `0` handled, a client
asks for `start_from = 0` and is registered (`0` is buffered, so it is replayed); the
run loop then handles event `1`, the client subscribes, and event `2` is handled.  The
client's stream yields the events `0` and `2`: event `1` was broadcast before its
receiver existed. -/
theorem client_misses_events_broadcast_before_subscribe :
    ∃ s : Server wheelBufModel, s.Reachable ⟨4, 10⟩ ∧ eventIndices s.processed = [0, 1, 2] ∧
      (s.clients[0]?).map Client.startFrom = some (some 0) ∧
      ((s.clients[0]?).bind Client.streamed).map streamedIds = some [0, 2] := by
  obtain ⟨s, hs, hp⟩ := @Server.exists_reachable_of_exec wheelBufModel ⟨4, 10⟩ 0
    [.broadcast (.apiVersion (.fromParts 1 0 0)) none none,
      .broadcast (.fault ⟨0⟩ ⟨0, []⟩ ⟨0⟩) none none, .receiveData, .receiveData,
      .connect (some 0), .receiveSubscriber,
      .broadcast (.fault ⟨1⟩ ⟨0, []⟩ ⟨0⟩) none none, .receiveData,
      .subscribe 0,
      .broadcast (.fault ⟨2⟩ ⟨0, []⟩ ⟨0⟩) none none, .receiveData]
    (fun s => eventIndices s.processed == [0, 1, 2] &&
      (s.clients[0]?).map Client.startFrom == some (some 0) &&
      (s.clients[0]?).map (fun c => (c.initialEvents, c.ongoingEvents)) ==
        some (some [.sidecarVersionEvent sidecarVersion, .initialEvent (.fromParts 1 0 0),
            ⟨some 0, .fault ⟨0⟩ ⟨0, []⟩ ⟨0⟩, none, none⟩],
          some [.serverSentEvent ⟨some 2, .fault ⟨2⟩ ⟨0, []⟩ ⟨0⟩, none, none⟩]))
    (by decide)
  simp only [Bool.and_eq_true, beq_iff_eq] at hp
  obtain ⟨⟨hids, hstart⟩, hclient⟩ := hp
  refine ⟨s, hs, hids, hstart, ?_⟩
  cases hc : s.clients[0]? with
  | none => simp [hc] at hclient
  | some client =>
      simp only [hc, Option.map_some, Option.some.injEq, Prod.mk.injEq] at hclient
      obtain ⟨hinitial, hongoing⟩ := hclient
      simp only [Option.bind_some, Client.streamed, hinitial, hongoing, Option.map_some,
        chain_run_fst_eq]
      decide

/-! ## Admission -/

/-- `validate` counts no admitted client before it subscribes: admitting one leaves
`receiver_count()` as it was. -/
theorem Server.receiverCount_connect (config : Config) (s : Server wb) (startFrom : Option EventIndex) :
    (s.connect config startFrom).receiverCount = s.receiverCount := by
  unfold Server.connect
  split
  · rfl
  · simp [Server.receiverCount, Client.isLive]

/-- An admitted client that subscribes adds one live receiver. -/
theorem Server.subscribe_of_admitted {s : Server wb} {c : Nat} {client : Client}
    (hc : s.clients[c]? = some client) (hnone : client.ongoingEvents = none)
    (hconnected : client.connected = true) :
    ∃ s', s.subscribe c = some s' ∧
      s'.clients = s.clients.set c { client with ongoingEvents := some [] } ∧
      s'.receiverCount = s.receiverCount + 1 := by
  obtain ⟨hlt, hclient⟩ := List.getElem?_eq_some_iff.mp hc
  refine ⟨{ s with clients := s.clients.set c { client with ongoingEvents := some [] } },
    by simp [Server.subscribe, hc, hnone], rfl, ?_⟩
  simp only [Server.receiverCount, ← List.countP_eq_length_filter, List.countP_set hlt, hclient]
  -- the client was not live and now is
  simp [Client.isLive, hnone, hconnected]

/-- The client a request admits: pending, with its receiver still to come. -/
theorem Server.connect_admits {config : Config} {s : Server wb}
    (hcount : s.receiverCount < config.maxConcurrentSubscribers.toNat) (startFrom : Option EventIndex) :
    (s.connect config startFrom).clients = s.clients ++ [⟨startFrom, none, none, true⟩] := by
  simp [Server.connect, Nat.not_le.mpr hcount]

/-- **Two requests racing for the last slot both get it.**  From any state where one
subscriber fewer than `max_concurrent_subscribers` is connected, two requests that
both pass `validate` before either subscribes leave `max_concurrent_subscribers + 1`
live receivers. -/
theorem subscribers_exceed_limit {config : Config} {s : Server wb}
    (hslot : s.receiverCount + 1 = config.maxConcurrentSubscribers.toNat)
    (startFrom startFrom' : Option EventIndex) :
    ∃ s', s.exec config [.connect startFrom, .connect startFrom', .subscribe s.clients.length,
        .subscribe (s.clients.length + 1)] = some s' ∧
      s'.receiverCount = config.maxConcurrentSubscribers.toNat + 1 := by
  -- both requests pass `validate`: nobody subscribed in between
  have hcount₁ := Server.receiverCount_connect config s startFrom
  have hclients₁ : (s.connect config startFrom).clients =
      s.clients ++ [⟨startFrom, none, none, true⟩] :=
    Server.connect_admits (by omega) startFrom
  have hclients₂ : ((s.connect config startFrom).connect config startFrom').clients =
      (s.connect config startFrom).clients ++ [⟨startFrom', none, none, true⟩] :=
    Server.connect_admits (by rw [hcount₁]; omega) startFrom'
  have hc₁ : ((s.connect config startFrom).connect config startFrom').clients[s.clients.length]? =
      some ⟨startFrom, none, none, true⟩ := by
    simp [hclients₂, hclients₁]
  have hc₂ : ((s.connect config startFrom).connect config startFrom').clients[s.clients.length + 1]? =
      some ⟨startFrom', none, none, true⟩ := by
    simp [hclients₂, hclients₁]
  -- then both subscribe
  obtain ⟨s₃, hsub₃, hclients₃, hcount₃⟩ := Server.subscribe_of_admitted hc₁ rfl rfl
  obtain ⟨s₄, hsub₄, -, hcount₄⟩ := Server.subscribe_of_admitted
    (by rw [hclients₃, List.getElem?_set_ne (Nat.ne_of_lt (Nat.lt_succ_self _)), hc₂]) rfl rfl
  refine ⟨s₄, by simp [Server.exec, Server.step, hsub₃, hsub₄], ?_⟩
  rw [hcount₄, hcount₃, Server.receiverCount_connect config _ startFrom', hcount₁]
  omega

/-- With room for one subscriber, two clients that ask at once are both subscribed. -/
theorem subscribers_exceed_limit_one_slot :
    ∃ s', (Server.init wheelBufModel ⟨4, 1⟩ 0).exec ⟨4, 1⟩
        [.connect none, .connect none, .subscribe 0, .subscribe 1] = some s' ∧
      s'.Reachable ⟨4, 1⟩ ∧ s'.receiverCount = 2 := by
  obtain ⟨s', hexec, hcount⟩ := @subscribers_exceed_limit wheelBufModel ⟨4, 1⟩
    (Server.init wheelBufModel ⟨4, 1⟩ 0) (by decide) none none
  exact ⟨s', hexec, Server.reachable_exec (.init 0) hexec, hcount⟩

end CasperSidecar
