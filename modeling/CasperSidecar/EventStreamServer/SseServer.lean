import Mathlib
import CasperSidecar.Lib.PullStream
import CasperSidecar.Types.SseData

/-!
# EventStreamServer.SseServer

The per-client half of the event stream server
(`sidecar/src/event_stream_server/sse_server.rs`): the events the server
sends, the messages of its broadcast channel, the filtering of an event for
one outbound endpoint (`filter_map_server_sent_event`), and the stream a
subscribed client reads (`stream_to_client`).

`stream_to_client` is built here from the combinators of `Lib.PullStream`
exactly as the source builds it: the initial-events channel mapped through a
closure that records each event's id in a shared set, chained with the
broadcast receiver filtered against that set and cut at `Shutdown`, the whole
filtered for the endpoint.  The shared set is the pipeline's environment.

`warp::sse::Event` is kept as the two things the sidecar sets on it: the value
handed to `json_data` and the `id:` line.  Serializing that value is taken to
succeed (the `unwrap_or_else` fallback to an empty event is not modelled), and
the `additional-metrics` feature is off.
-/

namespace CasperSidecar

/-- The "id" field of the events sent to clients (`Id`, `EventIndex`: both `u32`). -/
abbrev EventIndex := UInt32

/-- The components of a single SSE. -/
structure ServerSentEvent where
  id : Option EventIndex
  data : SseData
  jsonData : Option String
  inboundFilter : Option Filter
deriving DecidableEq

namespace ServerSentEvent

/-- `ServerSentEvent::initial_event`: the `ApiVersion` a client is sent, without id. -/
def initialEvent (clientApiVersion : ProtocolVersion) : ServerSentEvent :=
  ⟨none, .apiVersion clientApiVersion, none, none⟩

/-- `ServerSentEvent::sidecar_version_event`. -/
def sidecarVersionEvent (version : ProtocolVersion) : ServerSentEvent :=
  ⟨none, .sidecarVersion version, none, none⟩

end ServerSentEvent

/-- The messages sent via the broadcast channel to the handler of each client's stream. -/
inductive BroadcastChannelMessage where
  | serverSentEvent (event : ServerSentEvent)
  | shutdown
deriving DecidableEq

/-- `tokio::sync::broadcast::error::RecvError`. -/
inductive RecvError where
  | closed
  | lagged (amount : UInt64)
deriving DecidableEq

/-- `BroadcastStreamRecvError`: the receiver fell behind by `amount` messages. -/
inductive BroadcastStreamRecvError where
  | lagged (amount : UInt64)
deriving DecidableEq

/-- What the broadcast receiver hands the client's stream for one message. -/
abbrev BroadcastResult := Except BroadcastStreamRecvError BroadcastChannelMessage

/-! ## Outbound events -/

/-- The value an outbound event's `json_data` is built from. -/
inductive WarpData where
  /-- The raw inbound JSON text, re-parsed as a `serde_json::Value`. -/
  | value (json : String)
  /-- The event's `SseData`. -/
  | data (data : SseData)
  /-- `DeployAccepted { deploy_accepted }`. -/
  | deployAccepted (deploy : Deploy)
deriving DecidableEq

/-- A `warp::sse::Event`: its JSON payload and its `id:` line. -/
structure WarpEvent where
  data : WarpData
  id : Option String
deriving DecidableEq

/-- `event_to_warp_event`: the raw JSON when the event carries it, else its data. -/
def eventToWarpEvent (event : ServerSentEvent) : WarpEvent :=
  match event.jsonData with
  | some json => ⟨.value json, none⟩
  | none => ⟨.data event.data, none⟩

/-- `determine_id`: the id line of an event, or `none` when the event is malformed:
an `ApiVersion` with an id, or an id-less event other than the two version events. -/
def determineId (event : ServerSentEvent) : Option String :=
  match event.id with
  | some id => if event.data.isApiVersion then none else some (toString id)
  | none =>
      match event.data with
      | .apiVersion _ | .sidecarVersion _ => some ""
      | _ => none

/-- `should_send_shutdown`: which endpoints a `Shutdown` from a given inbound filter
reaches. -/
def shouldSendShutdown (event : ServerSentEvent) (streamFilter : Endpoint) : Bool :=
  match event.inboundFilter, streamFilter with
  | none, .sidecar => true
  | none, _ => false
  | some .main, .events => true
  | some .events, .main => true
  | some a, b => b.isCorrespondingTo a

/-- `handle_deploy_accepted`. -/
def handleDeployAccepted (event : ServerSentEvent) (deploy : Deploy) (id : String) :
    Option (Except RecvError WarpEvent) :=
  match event.jsonData with
  | some json => some (.ok ⟨.value json, some id⟩)
  | none => some (.ok ⟨.deployAccepted deploy, some id⟩)

/-- `build_event_for_outbound`. -/
def buildEventForOutbound (event : ServerSentEvent) (id : String) :
    Option (Except RecvError WarpEvent) :=
  match event.jsonData with
  | some json => some (.ok ⟨.value json, some id⟩)
  | none => some (.ok ⟨.data event.data, some id⟩)

/-- `filter_map_server_sent_event`: the event as the endpoint serves it, or `none`
when the endpoint's filter excludes it or the event is malformed. -/
def filterMapServerSentEvent (event : ServerSentEvent) (streamFilter : Endpoint)
    (eventFilter : List EventFilter) : Option (Except RecvError WarpEvent) :=
  if !event.data.shouldInclude eventFilter then none
  else
    match determineId event with
    | none => none
    | some id =>
        match event.data with
        | .apiVersion _ | .sidecarVersion _ => some (.ok (eventToWarpEvent event))
        | .blockAdded .. | .deployProcessed .. | .deployExpired _ | .fault .. | .step ..
        | .finalitySignature _ => some (.ok { eventToWarpEvent event with id := some id })
        | .deployAccepted deploy => handleDeployAccepted event deploy id
        | .shutdown =>
            if shouldSendShutdown event streamFilter then buildEventForOutbound event id
            else none

/-! ## The client's stream -/

open PullStream

/-- The closure of the initial stream's `map`: record the event's id in the shared set. -/
def recordInitialId (event : ServerSentEvent) (initialStreamIds : List EventIndex) :
    Except RecvError ServerSentEvent × List EventIndex :=
  match event.id with
  | some id => (.ok event, initialStreamIds.insert id)
  | none => (.ok event, initialStreamIds)

/-- `handle_sse_event`: drop an ongoing event whose id the initial stream carried. -/
def handleSseEvent (event : ServerSentEvent) (clonedInitialIds : List EventIndex) :
    Option (Except RecvError ServerSentEvent) :=
  match event.id with
  | some id => if clonedInitialIds.contains id then none else some (.ok event)
  | none => some (.ok event)

/-- `handle_lagged`. -/
def handleLagged (amount : UInt64) : Option (Except RecvError ServerSentEvent) :=
  some (.error (.lagged amount))

/-- The closure of the ongoing stream's `filter_map`; it only reads the shared set. -/
def handleBroadcastResult (result : BroadcastResult) (clonedInitialIds : List EventIndex) :
    Option (Except RecvError ServerSentEvent) × List EventIndex :=
  (match result with
    | .ok (.serverSentEvent event) => handleSseEvent event clonedInitialIds
    | .ok .shutdown => some (.error .closed)
    | .error (.lagged amount) => handleLagged amount,
    clonedInitialIds)

/-- The `take_while` predicate: everything but `Err(RecvError::Closed)`. -/
def isNotClosed : Except RecvError ServerSentEvent → Bool
  | .error .closed => false
  | _ => true

/-- The ongoing stream: the broadcast receiver, deduplicated against the initial
ids and cut at the first `Shutdown`. -/
def ongoingStream : Stream (List BroadcastResult) (List EventIndex) (Except RecvError ServerSentEvent) :=
  takeWhile isNotClosed (filterMap handleBroadcastResult ofList)

/-- The initial stream, recording the ids it carries. -/
def initialStream : Stream (List ServerSentEvent) (List EventIndex) (Except RecvError ServerSentEvent) :=
  map recordInitialId ofList

/-- The closure of the combined stream's `filter_map`. -/
def filterCombined (streamFilter : Endpoint) (eventFilter : List EventFilter) :
    Except RecvError ServerSentEvent → Option (Except RecvError WarpEvent)
  | .ok event => filterMapServerSentEvent event streamFilter eventFilter
  | .error error => some (.error error)

/-- `build_combined_events_stream`: the initial events followed by the ongoing ones,
filtered for the endpoint. -/
def buildCombinedEventsStream (ongoing : Stream σ (List EventIndex) (Except RecvError ServerSentEvent))
    (streamFilter : Endpoint) (eventFilter : List EventFilter) :
    Stream (Option (List ServerSentEvent) × σ) (List EventIndex) (Except RecvError WarpEvent) :=
  filterMap (fun result ids => (filterCombined streamFilter eventFilter result, ids))
    (chain initialStream ongoing)

/-- `stream_to_client`; a client drains it from `(some initialEvents, ongoingEvents)`
with an empty id set. -/
def streamToClient (streamFilter : Endpoint) (eventFilter : List EventFilter) :
    Stream (Option (List ServerSentEvent) × List BroadcastResult) (List EventIndex)
      (Except RecvError WarpEvent) :=
  buildCombinedEventsStream ongoingStream streamFilter eventFilter

/-! ## What a client receives -/

/-- The `take_while` cut of the ongoing stream, read on the broadcast results: every
result but the `Shutdown` message. -/
def isNotShutdown : BroadcastResult → Bool
  | .ok .shutdown => false
  | _ => true

/-- Filtering, then cutting at the first item `p` rejects, is cutting at the first
source item `q` rejects, then filtering, when `f` maps exactly the items `q` rejects
to items `p` rejects. -/
theorem takeWhile_filterMap {α β : Type} (f : α → Option β) (p : β → Bool) (q : α → Bool)
    (hf : ∀ a, q a = false → ∃ b, f a = some b ∧ p b = false)
    (hq : ∀ a b, q a = true → f a = some b → p b = true) (l : List α) :
    (l.filterMap f).takeWhile p = (l.takeWhile q).filterMap f := by
  induction l with
  | nil => rfl
  | cons a l ih =>
      cases hqa : q a with
      | false =>
          obtain ⟨b, hfa, hpb⟩ := hf a hqa
          simp [hfa, hpb, hqa]
      | true =>
          cases hfa : f a with
          | none => simp [hfa, hqa, ih]
          | some b => simp [hfa, hqa, hq a b hqa hfa, ih]

theorem handleBroadcastResult_reader : Reader handleBroadcastResult := fun _ _ => rfl

/-- `handle_sse_event` either drops the event or passes it on unchanged. -/
theorem eq_ok_of_handleSseEvent {event : ServerSentEvent} {ids : List EventIndex}
    {result : Except RecvError ServerSentEvent} (h : handleSseEvent event ids = some result) :
    result = .ok event := by
  unfold handleSseEvent at h
  split at h
  · split at h
    · contradiction
    · exact (Option.some.inj h).symm
  · exact (Option.some.inj h).symm

/-- The initial stream passes its events through unchanged. -/
theorem initialStream_run_fst (initialEvents : List ServerSentEvent) (ids : List EventIndex) :
    (initialStream.run initialEvents ids).1 = initialEvents.map Except.ok := by
  rw [initialStream, run_map_ofList]
  induction initialEvents generalizing ids with
  | nil => rfl
  | cons event rest ih =>
      simp only [mapEnv, List.map_cons, List.cons.injEq]
      refine ⟨?_, ih _⟩
      cases hid : event.id <;> simp [recordInitialId, hid]

/-- **The shared set after the initial stream** holds exactly the ids it started with and
the ids of the initial events. -/
theorem mem_initialStream_run_snd (initialEvents : List ServerSentEvent) (ids : List EventIndex)
    (x : EventIndex) :
    x ∈ (initialStream.run initialEvents ids).2 ↔ x ∈ ids ∨ ∃ e ∈ initialEvents, e.id = some x := by
  rw [initialStream, run_map_ofList]
  induction initialEvents generalizing ids with
  | nil => simp [mapEnv]
  | cons event rest ih =>
      simp only [mapEnv, ih, List.mem_cons, exists_eq_or_imp]
      cases hid : event.id with
      | none => simp [recordInitialId, hid]
      | some id =>
          simp only [recordInitialId, hid, List.mem_insert_iff, Option.some.injEq]
          constructor
          · rintro ((h | h) | h) <;> simp_all
          · rintro (h | h | h) <;> simp_all [eq_comm]

/-- The ongoing stream, drained from a given id set: the broadcast results up to the
first `Shutdown`, each through `handle_sse_event` / `handle_lagged`. -/
theorem ongoingStream_run (ongoingEvents : List BroadcastResult) (ids : List EventIndex) :
    ongoingStream.run ongoingEvents ids =
      ((ongoingEvents.takeWhile isNotShutdown).filterMap fun r => (handleBroadcastResult r ids).1,
        ids) := by
  have hpres := filterMap_preserves handleBroadcastResult_reader
    (ofList_preserves : (ofList : Stream (List BroadcastResult) (List EventIndex) _).Preserves)
  rw [ongoingStream, run_takeWhile _ hpres, run_filterMap_ofList handleBroadcastResult_reader]
  congr 1
  apply takeWhile_filterMap
  · intro r hr
    match r, hr with
    | .ok .shutdown, _ => exact ⟨_, rfl, rfl⟩
  · intro r b hr hb
    match r, hr, hb with
    | .ok (.serverSentEvent event), _, hb =>
        rw [eq_ok_of_handleSseEvent hb]
        rfl
    | .error (.lagged amount), _, hb =>
        simp only [handleBroadcastResult, handleLagged, Option.some.injEq] at hb
        simp [← hb, isNotClosed]

/-- **The chained stream before endpoint filtering**: the initial events, then the
ongoing results up to the first `Shutdown`, deduplicated against the ids the whole
initial stream carried. -/
theorem chain_run_fst (initialEvents : List ServerSentEvent) (ongoingEvents : List BroadcastResult) :
    ((chain initialStream ongoingStream).run (some initialEvents, ongoingEvents) []).1 =
      initialEvents.map Except.ok ++
        (ongoingEvents.takeWhile isNotShutdown).filterMap fun r =>
          (handleBroadcastResult r (initialStream.run initialEvents []).2).1 := by
  rw [run_chain, ongoingStream_run, initialStream_run_fst]

/-- The cut of the ongoing stream, read as "up to the first `Shutdown` message". -/
theorem isNotShutdown_eq : isNotShutdown = fun r => r != .ok .shutdown := by
  funext r
  match r with
  | .ok (.serverSentEvent _) => rfl
  | .ok .shutdown => rfl
  | .error (.lagged _) => rfl

/-- **What a client receives** (`stream_to_client` drained, the initial-events sender
dropped): the endpoint's view of every initial event, then of the broadcast messages up
to the first `Shutdown`, without those whose id some initial event carried, with each
lag reported where it happened. -/
theorem streamToClient_yields (initialEvents : List ServerSentEvent)
    (ongoingEvents : List BroadcastResult) (streamFilter : Endpoint)
    (eventFilter : List EventFilter) :
    ((streamToClient streamFilter eventFilter).run (some initialEvents, ongoingEvents) []).1 =
      initialEvents.filterMap (fun event => filterMapServerSentEvent event streamFilter eventFilter) ++
        (ongoingEvents.takeWhile fun r => r != .ok .shutdown).filterMap fun result =>
          match result with
          | .ok (.serverSentEvent event) =>
              if event.id = none ∨ ∀ e ∈ initialEvents, e.id ≠ event.id then
                filterMapServerSentEvent event streamFilter eventFilter
              else none
          | .ok .shutdown => none
          | .error (.lagged amount) => some (.error (.lagged amount)) := by
  rw [streamToClient, buildCombinedEventsStream, run_filterMap_pure, chain_run_fst,
    List.filterMap_append, List.filterMap_map, List.filterMap_filterMap, ← isNotShutdown_eq]
  dsimp only
  congr 1
  apply List.filterMap_congr
  intro result hresult
  match result with
  | .ok .shutdown => simpa [isNotShutdown] using List.mem_takeWhile_imp hresult
  | .error (.lagged _) => rfl
  | .ok (.serverSentEvent event) =>
      simp only [handleBroadcastResult, handleSseEvent]
      cases hid : event.id with
      | none => simp [filterCombined]
      | some id =>
          have hmem : id ∈ (initialStream.run initialEvents []).2 ↔
              ¬ ∀ e ∈ initialEvents, e.id ≠ some id := by
            rw [mem_initialStream_run_snd]
            simp
          by_cases hall : ∀ e ∈ initialEvents, e.id ≠ some id
          · have hnot : id ∉ (initialStream.run initialEvents []).2 := fun h => hmem.mp h hall
            rw [if_pos (.inr hall)]
            simp [hnot, filterCombined]
          · rw [if_neg fun h => h.elim (fun h' => nomatch h') hall]
            simp [hmem.mpr hall]

end CasperSidecar
