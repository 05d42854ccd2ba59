import Mathlib
import CasperSidecar.EventStreamServer.Request
import CasperSidecar.Listener.ConnectionManager

/-!
# Listener.Wire

The listener's connection managers against the repository's own event stream
server, at the two places where one reads what the other writes.

The request: `build_connection` gives each filter the URL `http://{ip}:{port}/{filter}`
(`filtered_sse_url`, with `Filter`'s `Display`), and `SseConnection::connect` adds the
query `start_from={}` when the manager has an event id.  The events: the server writes
an event's index as its id field (`determine_id`, `filter_map_server_sent_event`) and
the version messages without one, the SSE parser gives an event without an id field
the last event id, and `handle_stream` parses `event.id` back as a `u32`.

* `connectorRequest_admitted` — a server with room admits every manager's request,
  at the endpoint that corresponds to the manager's filter and from the id it asked
  for;
* `map_parseU32_servedId` — a served event has an id field exactly when it has an
  index, and the field reads back as the index;
* `served_stream_reports_indices` — on the stream the server serves, read by any parser
  that meets the SSE specification (`SseParserSpec`), a manager reports the indices of
  the events served, in order, a version message repeating the index before it.
-/

namespace CasperSidecar

variable {wb : EventBufferImpl}

/-! ## The request a manager makes -/

/-- `Display` for `Filter`: the path of the node's endpoint. -/
def Filter.display : Filter → String
  | .events => "events"
  | .main => "events/main"
  | .deploys => "events/deploys"
  | .sigs => "events/sigs"

/-- The segments of the path `/{filter}` of `filtered_sse_url`. -/
def Filter.pathSegments : Filter → List String
  | .events => ["events"]
  | .main => ["events", "main"]
  | .deploys => ["events", "deploys"]
  | .sigs => ["events", "sigs"]

/-- The segments are those of the path `Filter`'s `Display` writes into the URL. -/
theorem Filter.intercalate_pathSegments (filter : Filter) :
    "/".intercalate filter.pathSegments = filter.display := by
  cases filter <;> decide

/-- The query `SseConnection::connect` sets: `start_from={}` when it has an event id. -/
def startFromQuery : Option UInt32 → QueryMap
  | none => ⟨[], List.nodup_nil⟩
  | some eventId => ⟨[("start_from", toString eventId)], List.nodup_singleton _⟩

/-- The request `SseConnection::connect` makes for a manager of `filter` whose
`current_event_id` is `currentEventId`. -/
def connectorRequest (filter : Filter) (currentEventId : Option UInt32) : Request :=
  ⟨true, filter.pathSegments, startFromQuery currentEventId⟩

/-- The server reads back the id the manager put in its query. -/
theorem parseQuery_startFromQuery (currentEventId : Option UInt32) :
    parseQuery (startFromQuery currentEventId) = .ok currentEventId := by
  rw [parseQuery_eq_ok_iff]
  cases currentEventId with
  | none => exact .inl ⟨rfl, rfl⟩
  | some eventId => exact .inr ⟨toString eventId, eventId, rfl, Decimal.parseU32_toString eventId, rfl⟩

/-- The server accepts a manager's request at the endpoint of its filter. -/
theorem sseFilter_connectorRequest {receiverCount : Nat} {maxConcurrentSubscribers : UInt32}
    (hroom : receiverCount < maxConcurrentSubscribers.toNat) (filter : Filter)
    (currentEventId : Option UInt32) :
    ∃ eventFilter endpoint,
      sseFilter (connectorRequest filter currentEventId) receiverCount maxConcurrentSubscribers =
        .ok (eventFilter, endpoint, currentEventId) ∧ endpoint.isCorrespondingTo filter := by
  -- the path parameter is the filter's second segment, or none for `events`
  have hroute : routePath (connectorRequest filter currentEventId).segments =
      some filter.pathSegments.tail.head? := by
    cases filter <;> rfl
  rw [sseFilter_of_routed rfl hroute hroom]
  have hquery := parseQuery_startFromQuery currentEventId
  cases filter with
  | events =>
      exact ⟨eventsFilter, .events, (parseUrlProps_eq_ok_iff _ _ _).mpr ⟨rfl, rfl, hquery⟩, rfl⟩
  | main =>
      exact ⟨mainFilter, .main, (parseUrlProps_eq_ok_iff _ _ _).mpr ⟨rfl, rfl, hquery⟩, rfl⟩
  | deploys =>
      exact ⟨deploysFilter, .deploys, (parseUrlProps_eq_ok_iff _ _ _).mpr ⟨rfl, rfl, hquery⟩, rfl⟩
  | sigs =>
      exact ⟨signaturesFilter, .sigs, (parseUrlProps_eq_ok_iff _ _ _).mpr ⟨rfl, rfl, hquery⟩, rfl⟩

/-- **The server admits every manager's request**: while it has fewer than
`max_concurrent_subscribers` receivers, the request of a manager of any filter, with or
without an event id, is admitted as a client starting from that id, and served at the
endpoint that corresponds to the filter. -/
theorem connectorRequest_admitted {config : Config} {s : Server wb}
    (hroom : s.receiverCount < config.maxConcurrentSubscribers.toNat) (filter : Filter)
    (currentEventId : Option UInt32) :
    ∃ eventFilter endpoint,
      s.request config (connectorRequest filter currentEventId) =
        (s.connect config currentEventId, .ok (eventFilter, endpoint)) ∧
      endpoint.isCorrespondingTo filter := by
  obtain ⟨eventFilter, endpoint, haccepted, hcorresponds⟩ :=
    sseFilter_connectorRequest hroom filter currentEventId
  refine ⟨eventFilter, endpoint, ?_, hcorresponds⟩
  rw [Server.request, haccepted]

/-- The main filter's manager, resuming from event 41, and a fresh server with the
default limits. -/
theorem connectorRequest_admitted_main :
    let config : Config := ⟨5000, 100⟩
    let s := Server.init wheelBufModel config 0
    s.receiverCount < config.maxConcurrentSubscribers.toNat ∧
      ∃ eventFilter endpoint,
        s.request config (connectorRequest .main (some 41)) =
          (s.connect config (some 41), .ok (eventFilter, endpoint)) ∧
        endpoint.isCorrespondingTo .main := by
  intro config s
  have hroom : s.receiverCount < config.maxConcurrentSubscribers.toNat := by decide
  exact ⟨hroom, connectorRequest_admitted hroom .main (some 41)⟩

/-! ## The ids a manager reads

Between the `warp::sse::Event`s the server writes and the `eventsource_stream::Event`s
the manager reads stand warp's writer and the eventsource-stream parser, neither of
them in the repository.  They are one parameter `parse` here, with the law the SSE
specification gives them (`SseParserSpec`): every event written is read back with its
data, and with its `id:` line when it has one; an event written without one gets the
last event id, which is empty on a new connection. -/

/-- The index a served event carries on the wire: none for the version messages. -/
def wireIndex (event : ServerSentEvent) : Option EventIndex :=
  match event.data with
  | .apiVersion _ | .sidecarVersion _ => none
  | _ => event.id

/-- The last event id of the events read so far: the id of the last one, empty before
any. -/
def lastEventId (events : List StreamEvent) : String :=
  (events.getLast?.map StreamEvent.id).getD ""

/-- What the SSE specification requires of the parser of the events warp writes, whose
data lines carry `payload`: reading one more event appends it with that data, and with
its own id, or the last event id where it was written without one. -/
structure SseParserSpec (payload : WarpEvent → String) (parse : List WarpEvent → List StreamEvent) :
    Prop where
  parse_nil : parse [] = []
  parse_append_singleton : ∀ written warpEvent, parse (written ++ [warpEvent]) =
    parse written ++ [⟨warpEvent.id.getD (lastEventId (parse written)), payload warpEvent⟩]

/-- A parser as the SSE specification describes it, from the last event id `last`. -/
def sseParse (payload : WarpEvent → String) (last : String) : List WarpEvent → List StreamEvent
  | [] => []
  | warpEvent :: rest =>
      let id := warpEvent.id.getD last
      ⟨id, payload warpEvent⟩ :: sseParse payload id rest

theorem sseParse_append_singleton (payload : WarpEvent → String) (last : String)
    (written : List WarpEvent) (warpEvent : WarpEvent) :
    sseParse payload last (written ++ [warpEvent]) =
      sseParse payload last written ++
        [⟨warpEvent.id.getD (((sseParse payload last written).getLast?.map StreamEvent.id).getD last),
          payload warpEvent⟩] := by
  induction written generalizing last with
  | nil => rfl
  | cons first rest ih =>
      rw [List.cons_append, sseParse, sseParse, ih, List.cons_append, List.getLast?_cons]
      cases (sseParse payload (first.id.getD last) rest).getLast? <;> rfl

/-- The parser that keeps the last event id meets the specification. -/
theorem sseParse_spec (payload : WarpEvent → String) : SseParserSpec payload (sseParse payload "") where
  parse_nil := rfl
  parse_append_singleton written warpEvent := sseParse_append_singleton payload "" written warpEvent

namespace SseParserSpec

variable {payload : WarpEvent → String} {parse : List WarpEvent → List StreamEvent}

/-- Every event read carries the data written. -/
theorem map_data (hparse : SseParserSpec payload parse) (written : List WarpEvent) :
    (parse written).map StreamEvent.data = written.map payload := by
  induction written using List.reverseRecOn with
  | nil => rw [hparse.parse_nil]; rfl
  | append_singleton written warpEvent ih =>
      rw [hparse.parse_append_singleton, List.map_append, ih, List.map_append]
      rfl

end SseParserSpec

/-- The index the manager's parser gives each served event: the event's own, or, for a
version message, which is written without an id, the last one before it. -/
def lastIndices (last : Option EventIndex) : List ServerSentEvent → List (Option EventIndex)
  | [] => []
  | event :: rest =>
      let index := (wireIndex event).or last
      index :: lastIndices index rest

theorem lastIndices_append_singleton (last : Option EventIndex) (events : List ServerSentEvent)
    (event : ServerSentEvent) :
    lastIndices last (events ++ [event]) =
      lastIndices last events ++ [(wireIndex event).or ((lastIndices last events).getLast?.getD last)] := by
  induction events generalizing last with
  | nil => rfl
  | cons first rest ih =>
      rw [List.cons_append, lastIndices, lastIndices, ih, List.cons_append, List.getLast?_cons]
      rfl

theorem eventToWarpEvent_id (event : ServerSentEvent) : (eventToWarpEvent event).id = none := by
  unfold eventToWarpEvent
  split <;> rfl

theorem handleDeployAccepted_id {event : ServerSentEvent} {deploy : Deploy} {id : String}
    {warpEvent : WarpEvent} (h : handleDeployAccepted event deploy id = some (.ok warpEvent)) :
    warpEvent.id = some id := by
  unfold handleDeployAccepted at h
  split at h <;> cases h <;> rfl

theorem buildEventForOutbound_id {event : ServerSentEvent} {id : String} {warpEvent : WarpEvent}
    (h : buildEventForOutbound event id = some (.ok warpEvent)) : warpEvent.id = some id := by
  unfold buildEventForOutbound at h
  split at h <;> cases h <;> rfl

/-- The text `determine_id` writes for an event that is not a version message: its
index. -/
theorem determineId_of_not_version {event : ServerSentEvent} {text : String}
    (h : determineId event = some text) (hapi : event.data.isApiVersion = false)
    (hsidecar : ∀ version, event.data ≠ .sidecarVersion version) :
    ∃ index, event.id = some index ∧ text = toString index := by
  unfold determineId at h
  cases hid : event.id with
  | none =>
      -- an id-less event gets a text only as a version message
      rw [hid] at h
      cases hdata : event.data <;> rw [hdata] at h
      case apiVersion => rw [hdata] at hapi; cases hapi
      case sidecarVersion version => exact absurd hdata (hsidecar version)
      all_goals cases h
  | some index =>
      rw [hid, hapi] at h
      exact ⟨index, rfl, (Option.some.inj h).symm⟩

/-- **The served ids read back**: an event the server serves carries an `id:` line
exactly when it has a wire index, and the line parses, under the manager's
`event.id.parse::<u32>()`, to that index. -/
theorem map_parseU32_servedId {event : ServerSentEvent} {streamFilter : Endpoint}
    {eventFilter : List EventFilter} {warpEvent : WarpEvent}
    (h : filterMapServerSentEvent event streamFilter eventFilter = some (.ok warpEvent)) :
    warpEvent.id.map Decimal.parseU32 = (wireIndex event).map some := by
  unfold filterMapServerSentEvent at h
  split at h
  · cases h
  cases hid : determineId event with
  | none =>
      rw [hid] at h
      cases h
  | some text =>
      rw [hid] at h
      -- every event but the versions is written with the text `determine_id` gave it
      have hindex : event.data.isApiVersion = false →
          (∀ version, event.data ≠ .sidecarVersion version) →
          warpEvent.id = some text → warpEvent.id.map Decimal.parseU32 = event.id.map some := by
        intro hapi hsidecar hwarp
        obtain ⟨index, hevent, rfl⟩ := determineId_of_not_version hid hapi hsidecar
        rw [hwarp, hevent, Option.map_some, Option.map_some, Decimal.parseU32_toString]
      cases hdata : event.data <;> rw [hdata] at h <;> simp only [wireIndex, hdata]
      case apiVersion | sidecarVersion =>
        cases h
        rw [eventToWarpEvent_id]
        rfl
      case deployAccepted =>
        exact hindex (by rw [hdata]; rfl) (by rw [hdata]; nofun) (handleDeployAccepted_id h)
      case shutdown =>
        cases hsend : shouldSendShutdown event streamFilter
        · rw [hsend] at h
          cases h
        · rw [hsend] at h
          exact hindex (by rw [hdata]; rfl) (by rw [hdata]; nofun) (buildEventForOutbound_id h)
      all_goals
        cases h
        exact hindex (by rw [hdata]; rfl) (by rw [hdata]; nofun) rfl

/-- The id the parser gives a served event reads back as its wire index, or, where the
event is written without one, as the last id read. -/
theorem parseU32_getD_servedId {event : ServerSentEvent} {streamFilter : Endpoint}
    {eventFilter : List EventFilter} {warpEvent : WarpEvent}
    (h : filterMapServerSentEvent event streamFilter eventFilter = some (.ok warpEvent))
    (last : String) :
    Decimal.parseU32 (warpEvent.id.getD last) = (wireIndex event).or (Decimal.parseU32 last) := by
  have hserved := map_parseU32_servedId h
  cases hid : warpEvent.id with
  | none =>
      rw [hid, Option.map_none] at hserved
      rw [Option.map_eq_none_iff.mp hserved.symm]
      rfl
  | some text =>
      rw [hid, Option.map_some] at hserved
      obtain ⟨index, hindex, hparse⟩ := Option.map_eq_some_iff.mp hserved.symm
      rw [hindex, Option.getD_some, ← hparse]
      rfl

theorem parseU32_lastEventId (events : List StreamEvent) :
    Decimal.parseU32 (lastEventId events) =
      ((events.map fun event => Decimal.parseU32 event.id).getLast?).getD none := by
  rw [lastEventId, List.getLast?_map]
  cases events.getLast? <;> rfl

/-- **The parser reads the served indices**: on the events the server serves an
endpoint, in the order served, the ids the parser gives them parse to each event's
index, a version message taking the index of the last event before it. -/
theorem parse_servedIds {payload : WarpEvent → String}
    {parse : List WarpEvent → List StreamEvent} (hparse : SseParserSpec payload parse)
    {streamFilter : Endpoint} {eventFilter : List EventFilter}
    {served : List (ServerSentEvent × WarpEvent)}
    (hserved : ∀ item ∈ served,
      filterMapServerSentEvent item.1 streamFilter eventFilter = some (.ok item.2)) :
    (parse (served.map Prod.snd)).map (fun event => Decimal.parseU32 event.id) =
      lastIndices none (served.map Prod.fst) := by
  induction served using List.reverseRecOn with
  | nil => rw [List.map_nil, hparse.parse_nil]; rfl
  | append_singleton served item ih =>
      have hinit := ih fun i hi => hserved i (List.mem_append_left _ hi)
      have hitem := hserved item (List.mem_append_right _ (List.mem_singleton_self _))
      -- one more event: its id is its own or the last one read, on both sides
      simp only [List.map_append, List.map_cons, List.map_nil]
      rw [hparse.parse_append_singleton, List.map_append, hinit, lastIndices_append_singleton,
        List.map_singleton]
      congr 2
      rw [parseU32_getD_servedId hitem, parseU32_lastEventId, hinit]

/-- **A manager reports the indices of the events served**: on the events the server
serves its endpoint, in the order served, read by any parser that keeps the last event
id as the SSE specification requires, and whose data the manager's decoder reads, the
ids `handle_stream` reports are the events' indices in the same order, each version
message reporting again the index of the event before it. -/
theorem served_stream_reports_indices (m : ConnectionManager) (currentEventId : Option UInt32)
    {streamFilter : Endpoint} {eventFilter : List EventFilter} {payload : WarpEvent → String}
    {parse : List WarpEvent → List StreamEvent} (hparse : SseParserSpec payload parse)
    {served : List (ServerSentEvent × WarpEvent)}
    (hserved : ∀ item ∈ served,
      filterMapServerSentEvent item.1 streamFilter eventFilter = some (.ok item.2))
    (hdecode : ∀ item ∈ served, (m.decode (payload item.2)).isSome) :
    (m.handleStream currentEventId ((parse (served.map Prod.snd)).map .ok)).1.filterMap
        ManagerEffect.reportedId? =
      (lastIndices none (served.map Prod.fst)).filterMap id := by
  -- every event read carries the data of a served one, which decodes
  have hread : ∀ event ∈ parse (served.map Prod.snd), (m.handleEvent event).isOk := by
    intro event hevent
    have hdata : event.data ∈ (served.map Prod.snd).map payload := by
      rw [← hparse.map_data]
      exact List.mem_map_of_mem hevent
    obtain ⟨warpEvent, hwarp, hpayload⟩ := List.mem_map.mp hdata
    obtain ⟨item, hitem, rfl⟩ := List.mem_map.mp hwarp
    rw [m.handleEvent_isOk_iff, ← hpayload]
    exact hdecode item hitem
  rw [m.handleStream_reportedIds, m.readEvents_of_isOk hread, ← parse_servedIds hparse hserved,
    List.filterMap_map]
  rfl

/-- Two `Step` events served on `/events/main` at indices 12 and 13, with the version
message of an upgrade between them: the manager reports 12 twice. -/
theorem served_stream_reports_indices_upgrade :
    let m : ConnectionManager := ⟨"127.0.0.1:18101", .main, false, fun _ => some .shutdown⟩
    let payload : WarpEvent → String := fun _ => "Step"
    let first : ServerSentEvent := ⟨some 12, .step ⟨3⟩ "effects", none, some .main⟩
    let upgrade : ServerSentEvent := .initialEvent (.fromParts 2 0 0)
    let second : ServerSentEvent := ⟨some 13, .step ⟨4⟩ "effects", none, some .main⟩
    let served : List (ServerSentEvent × WarpEvent) :=
      [(first, ⟨.data first.data, some "12"⟩), (upgrade, ⟨.data upgrade.data, none⟩),
        (second, ⟨.data second.data, some "13"⟩)]
    (∀ item ∈ served, filterMapServerSentEvent item.1 .main mainFilter = some (.ok item.2)) ∧
      (∀ item ∈ served, (m.decode (payload item.2)).isSome) ∧
      (m.handleStream none ((sseParse payload "" (served.map Prod.snd)).map .ok)).1.filterMap
        ManagerEffect.reportedId? = [12, 12, 13] := by
  intro m payload first upgrade second served
  have hserved : ∀ item ∈ served,
      filterMapServerSentEvent item.1 .main mainFilter = some (.ok item.2) := by decide
  have hdecode : ∀ item ∈ served, (m.decode (payload item.2)).isSome := by decide
  exact ⟨hserved, hdecode,
    (served_stream_reports_indices m none (sseParse_spec payload) hserved hdecode).trans (by decide)⟩

end CasperSidecar
