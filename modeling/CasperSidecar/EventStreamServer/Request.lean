import Mathlib
import CasperSidecar.Lib.Decimal
import CasperSidecar.EventStreamServer.Handover

/-!
# EventStreamServer.Request

How the outbound event stream server answers a request
(`sidecar/src/event_stream_server/sse_server.rs`): the warp filter of
`ChannelsAndFilter::new` routes `GET /events` and `GET /events/<param>` to
`serve_sse_response_handler`, which first refuses a new subscriber once
`max_concurrent_subscribers` receivers exist (`validate`, 503), then reads the
path parameter (`get_filter`, `path_to_filter`, 404) and the query
(`parse_query`, 422).  Everything else the filter rejects is answered 404.

The request is given as its method, its path segments and its query as the
`HashMap<String, String>` warp deserializes it into; the splitting of the URL is
warp's.  warp's path filters are taken at their documented meaning (`routePath`):
`path!("events" / ..)` matches the first segment, `path::param` the next one and
`path::end` that none is left.

* `parseQuery_eq_ok_iff` — the only queries accepted are the empty one and a
  single `start_from` whose value `parse::<u32>` reads;
* `parseUrlProps_eq_ok_iff` — the two path tables agree, so the second 404 of
  `parse_url_props` is never returned;
* `sseFilter_eq_ok_iff` — the requests the server serves, and with what;
* `Server.request_of_error` — a refused request leaves the server as it was.
-/

namespace CasperSidecar

variable {wb : EventBufferImpl}

/-! ## Paths and queries -/

/-- `SSE_API_ROOT_PATH`. -/
def sseApiRootPath : String := "events"
/-- `SSE_API_MAIN_PATH`. -/
def sseApiMainPath : String := "main"
/-- `SSE_API_DEPLOYS_PATH`. -/
def sseApiDeploysPath : String := "deploys"
/-- `SSE_API_SIGNATURES_PATH`. -/
def sseApiSignaturesPath : String := "sigs"
/-- `SSE_API_SIDECAR_PATH`. -/
def sseApiSidecarPath : String := "sidecar"
/-- `QUERY_FIELD`. -/
def queryField : String := "start_from"

/-- `EVENTS_FILTER`, served at `/events`. -/
def eventsFilter : List EventFilter :=
  [.apiVersion, .blockAdded, .deployProcessed, .fault, .finalitySignature]

/-- `MAIN_FILTER`, served at `/events/main`. -/
def mainFilter : List EventFilter :=
  [.apiVersion, .blockAdded, .deployProcessed, .deployExpired, .fault, .step]

/-- `DEPLOYS_FILTER`, served at `/events/deploys`. -/
def deploysFilter : List EventFilter := [.apiVersion, .deployAccepted]

/-- `SIGNATURES_FILTER`, served at `/events/sigs`. -/
def signaturesFilter : List EventFilter := [.apiVersion, .finalitySignature]

/-- `SIDECAR_FILTER`, served at `/events/sidecar`. -/
def sidecarFilter : List EventFilter := [.sidecarVersion]

/-- `path_to_filter`: the endpoint a path parameter names. -/
def pathToFilter (pathParam : String) : Option Endpoint :=
  if pathParam = sseApiRootPath then some .events
  else if pathParam = sseApiMainPath then some .main
  else if pathParam = sseApiDeploysPath then some .deploys
  else if pathParam = sseApiSignaturesPath then some .sigs
  else if pathParam = sseApiSidecarPath then some .sidecar
  else none

/-- `get_filter`: the event types a path parameter subscribes to. -/
def getFilter (pathParam : String) : Option (List EventFilter) :=
  if pathParam = sseApiRootPath then some eventsFilter
  else if pathParam = sseApiMainPath then some mainFilter
  else if pathParam = sseApiDeploysPath then some deploysFilter
  else if pathParam = sseApiSignaturesPath then some signaturesFilter
  else if pathParam = sseApiSidecarPath then some sidecarFilter
  else none

/-- The `HashMap<String, String>` warp reads the query into: its entries, each key once. -/
structure QueryMap where
  entries : List (String × String)
  keys_nodup : (entries.map Prod.fst).Nodup

/-- `HashMap::get`. -/
def QueryMap.get (query : QueryMap) (key : String) : Option String :=
  query.entries.lookup key

/-! ## Responses -/

/-- The status codes the event stream server answers with. -/
inductive StatusCode where
  | notFound
  | unprocessableEntity
  | serviceUnavailable
deriving DecidableEq, Repr

/-- A response the server answers a request with instead of the event stream. -/
structure Response where
  status : StatusCode
  body : String
deriving DecidableEq

/-- `create_404`. -/
def create404 : Response :=
  ⟨.notFound, "invalid path: expected '/" ++ sseApiRootPath ++ "/" ++ sseApiMainPath ++ "', '/" ++
    sseApiRootPath ++ "/" ++ sseApiDeploysPath ++ "' or '/" ++ sseApiRootPath ++ "/" ++
    sseApiSignaturesPath ++ "'\n"⟩

/-- `create_422`. -/
def create422 : Response :=
  ⟨.unprocessableEntity, "invalid query: expected single field '" ++ queryField ++ "=<EVENT ID>'\n"⟩

/-- `create_503`. -/
def create503 : Response := ⟨.serviceUnavailable, "server has reached limit of subscribers"⟩

/-! ## The handler -/

/-- `parse_query`: no query starts from the live stream; otherwise the query must be
the single field `start_from` holding a `u32`. -/
def parseQuery (query : QueryMap) : Except Response (Option UInt32) :=
  if query.entries.isEmpty then .ok none
  else if query.entries.length > 1 then .error create422
  else
    match (query.get queryField).bind Decimal.parseU32 with
    | some id => .ok (some id)
    | none => .error create422

/-- `UrlProps`: the event types, the endpoint and the `start_from` of a request. -/
abbrev UrlProps := List EventFilter × Endpoint × Option UInt32

/-- `parse_url_props`: a missing path parameter is `events`. -/
def parseUrlProps (maybePathParam : Option String) (query : QueryMap) : Except Response UrlProps :=
  let pathParam := maybePathParam.getD sseApiRootPath
  match getFilter pathParam with
  | none => .error create404
  | some eventFilter =>
      match pathToFilter pathParam with
      | none => .error create404
      | some streamFilter =>
          match parseQuery query with
          | .error errorResponse => .error errorResponse
          | .ok startFrom => .ok (eventFilter, streamFilter, startFrom)

/-- `validate`: a 503 once the broadcaster has `max_concurrent_subscribers` receivers. -/
def validate (receiverCount : Nat) (maxConcurrentSubscribers : UInt32) : Option Response :=
  if receiverCount ≥ maxConcurrentSubscribers.toNat then some create503 else none

/-- `serve_sse_response_handler` up to the stream it replies with: `validate` first,
then `parse_url_props`. -/
def serveSseResponseHandler (maybePathParam : Option String) (query : QueryMap)
    (receiverCount : Nat) (maxConcurrentSubscribers : UInt32) : Except Response UrlProps :=
  match validate receiverCount maxConcurrentSubscribers with
  | some value => .error value
  | none => parseUrlProps maybePathParam query

/-- A request as the warp filter sees it. -/
structure Request where
  isGet : Bool
  segments : List String
  query : QueryMap

/-- The path part of the warp filter: the segment `events`, an optional path parameter
(`path::param().map(Some).or_else(None)`), then `path::end()`.  `none` where it rejects. -/
def routePath : List String → Option (Option String)
  | [root] => if root = "events" then some none else none
  | [root, pathParam] => if root = "events" then some (some pathParam) else none
  | _ => none

/-- The `sse_filter` of `ChannelsAndFilter::new`: a `GET` whose path routes goes to
`serve_sse_response_handler`; every rejection is answered by `create_404`. -/
def sseFilter (request : Request) (receiverCount : Nat) (maxConcurrentSubscribers : UInt32) :
    Except Response UrlProps :=
  if request.isGet then
    match routePath request.segments with
    | some maybePathParam =>
        serveSseResponseHandler maybePathParam request.query receiverCount maxConcurrentSubscribers
    | none => .error create404
  else .error create404

/-- The server answering a request: a refused one gets its response; an accepted one is
admitted (`Server.connect`) with its `start_from`, and streamed its endpoint's events. -/
def Server.request (config : Config) (s : Server wb) (request : Request) :
    Server wb × Except Response (List EventFilter × Endpoint) :=
  match sseFilter request s.receiverCount config.maxConcurrentSubscribers with
  | .error response => (s, .error response)
  | .ok (eventFilter, streamFilter, startFrom) =>
      (s.connect config startFrom, .ok (eventFilter, streamFilter))

/-! ## The query -/

theorem QueryMap.get_of_entries {query : QueryMap} {key text : String}
    (h : query.entries = [(key, text)]) : query.get key = some text := by
  rw [QueryMap.get, h]
  simp

theorem QueryMap.get_of_entries_ne {query : QueryMap} {key other text : String}
    (h : query.entries = [(other, text)]) (hne : other ≠ key) : query.get key = none := by
  rw [QueryMap.get, h]
  simp [Ne.symm hne]

/-- **The queries `parse_query` accepts**: the empty one, which starts from the live
stream, and the single field `start_from` whose value reads as a `u32`. -/
theorem parseQuery_eq_ok_iff (query : QueryMap) (startFrom : Option UInt32) :
    parseQuery query = .ok startFrom ↔
      (query.entries = [] ∧ startFrom = none) ∨
        ∃ text id, query.entries = [(queryField, text)] ∧ Decimal.parseU32 text = some id ∧
          startFrom = some id := by
  unfold parseQuery
  match hentries : query.entries with
  | [] => simp [eq_comm]
  | [(key, text)] =>
      -- one entry: the answer depends on its key and on whether its value reads
      by_cases hkey : key = queryField
      · subst hkey
        rw [QueryMap.get_of_entries hentries]
        cases hid : Decimal.parseU32 text with
        | none => simp [hid]
        | some id => simp [hid, eq_comm]
      · rw [QueryMap.get_of_entries_ne hentries hkey]
        simp [hkey]
  | _ :: _ :: _ => simp

/-- Every query `parse_query` refuses is answered with `create_422`. -/
theorem parseQuery_eq_error {query : QueryMap} {response : Response}
    (h : parseQuery query = .error response) : response = create422 := by
  unfold parseQuery at h
  split at h
  · cases h
  · split at h
    · cases h
      rfl
    · split at h
      · cases h
      · cases h
        rfl

/-! ## The path -/

/-- `get_filter` and `path_to_filter` know the same path parameters. -/
theorem isSome_getFilter (pathParam : String) :
    (getFilter pathParam).isSome = (pathToFilter pathParam).isSome := by
  unfold getFilter pathToFilter
  split_ifs <;> rfl

/-- **`parse_url_props`**: it accepts exactly a known path parameter with a query
`parse_query` accepts, so its second 404 (a parameter `get_filter` knows and
`path_to_filter` does not) is never returned. -/
theorem parseUrlProps_eq_ok_iff (maybePathParam : Option String) (query : QueryMap)
    (props : UrlProps) :
    parseUrlProps maybePathParam query = .ok props ↔
      getFilter (maybePathParam.getD sseApiRootPath) = some props.1 ∧
        pathToFilter (maybePathParam.getD sseApiRootPath) = some props.2.1 ∧
        parseQuery query = .ok props.2.2 := by
  obtain ⟨eventFilter, streamFilter, startFrom⟩ := props
  have hsame := isSome_getFilter (maybePathParam.getD sseApiRootPath)
  unfold parseUrlProps
  dsimp only
  cases hget : getFilter (maybePathParam.getD sseApiRootPath) with
  | none => simp
  | some eventFilter' =>
      cases hpath : pathToFilter (maybePathParam.getD sseApiRootPath) with
      | none => rw [hget, hpath] at hsame; cases hsame
      | some streamFilter' =>
          cases hquery : parseQuery query with
          | error response => simp
          | ok startFrom' => simp

/-- Every path `parse_url_props` refuses is answered with `create_404`, and every query
with `create_422`. -/
theorem parseUrlProps_eq_error {maybePathParam : Option String} {query : QueryMap}
    {response : Response} (h : parseUrlProps maybePathParam query = .error response) :
    (response = create404 ∧ pathToFilter (maybePathParam.getD sseApiRootPath) = none) ∨
      (response = create422 ∧ parseQuery query = .error create422) := by
  have hsame := isSome_getFilter (maybePathParam.getD sseApiRootPath)
  unfold parseUrlProps at h
  dsimp only at h
  cases hget : getFilter (maybePathParam.getD sseApiRootPath) with
  | none =>
      rw [hget] at h hsame
      cases h
      exact .inl ⟨rfl, Option.isNone_iff_eq_none.mp (Option.isSome_eq_false_iff.mp hsame.symm)⟩
  | some eventFilter =>
      rw [hget] at h
      cases hpath : pathToFilter (maybePathParam.getD sseApiRootPath) with
      | none => rw [hget, hpath] at hsame; cases hsame
      | some streamFilter =>
          rw [hpath] at h
          cases hquery : parseQuery query with
          | error response' =>
              rw [hquery] at h
              cases h
              have h422 := parseQuery_eq_error hquery
              subst h422
              exact .inr ⟨rfl, rfl⟩
          | ok startFrom => rw [hquery] at h; cases h

/-! ## The route -/

theorem routePath_eq_some_iff (segments : List String) (maybePathParam : Option String) :
    routePath segments = some maybePathParam ↔
      segments = "events" :: maybePathParam.toList := by
  unfold routePath
  split
  · rename_i root
    cases maybePathParam <;> by_cases hroot : root = "events" <;> simp [hroot]
  · rename_i root pathParam
    cases maybePathParam <;> by_cases hroot : root = "events" <;> simp [hroot, eq_comm]
  · rename_i hone htwo
    constructor
    · intro hnone
      cases hnone
    · intro hsegments
      cases maybePathParam with
      | none => exact absurd hsegments (hone "events")
      | some pathParam => exact absurd hsegments (htwo "events" pathParam)

/-- A request the filter does not route is answered by `create_404`. -/
theorem sseFilter_of_unrouted {request : Request} {receiverCount : Nat}
    {maxConcurrentSubscribers : UInt32}
    (h : request.isGet = false ∨ routePath request.segments = none) :
    sseFilter request receiverCount maxConcurrentSubscribers = .error create404 := by
  unfold sseFilter
  rcases h with hget | hroute
  · rw [if_neg (by simp [hget])]
  · by_cases hget : request.isGet
    · rw [if_pos hget, hroute]
    · rw [if_neg hget]

/-- A full server answers every request that reaches the handler with `create_503`,
before it looks at the path parameter or the query. -/
theorem sseFilter_of_full {request : Request} {receiverCount : Nat}
    {maxConcurrentSubscribers : UInt32} {maybePathParam : Option String}
    (hget : request.isGet) (hroute : routePath request.segments = some maybePathParam)
    (hfull : maxConcurrentSubscribers.toNat ≤ receiverCount) :
    sseFilter request receiverCount maxConcurrentSubscribers = .error create503 := by
  unfold sseFilter serveSseResponseHandler validate
  rw [if_pos hget, hroute, if_pos hfull]

/-- A routed `GET` the server has room for is answered by `parse_url_props`. -/
theorem sseFilter_of_routed {request : Request} {receiverCount : Nat}
    {maxConcurrentSubscribers : UInt32} {maybePathParam : Option String}
    (hget : request.isGet) (hroute : routePath request.segments = some maybePathParam)
    (hroom : receiverCount < maxConcurrentSubscribers.toNat) :
    sseFilter request receiverCount maxConcurrentSubscribers =
      parseUrlProps maybePathParam request.query := by
  unfold sseFilter serveSseResponseHandler validate
  rw [if_pos hget, hroute, if_neg (Nat.not_le.mpr hroom)]

/-- How a request reaches `parse_url_props`: routed, and with room on the server. -/
theorem sseFilter_routed_cases (request : Request) (receiverCount : Nat)
    (maxConcurrentSubscribers : UInt32) :
    (request.isGet = false ∨ routePath request.segments = none) ∨
      ∃ maybePathParam, request.isGet ∧ routePath request.segments = some maybePathParam ∧
        (maxConcurrentSubscribers.toNat ≤ receiverCount ∨
          receiverCount < maxConcurrentSubscribers.toNat) := by
  cases hroute : routePath request.segments with
  | none => exact .inl (.inr rfl)
  | some maybePathParam =>
      cases hget : request.isGet with
      | false => exact .inl (.inl rfl)
      | true => exact .inr ⟨maybePathParam, rfl, rfl, le_or_gt _ _⟩

/-- A served request was routed, found room, and passed `parse_url_props`. -/
theorem sseFilter_eq_ok {request : Request} {receiverCount : Nat}
    {maxConcurrentSubscribers : UInt32} {props : UrlProps}
    (h : sseFilter request receiverCount maxConcurrentSubscribers = .ok props) :
    ∃ maybePathParam, request.isGet ∧ routePath request.segments = some maybePathParam ∧
      receiverCount < maxConcurrentSubscribers.toNat ∧
      parseUrlProps maybePathParam request.query = .ok props := by
  rcases sseFilter_routed_cases request receiverCount maxConcurrentSubscribers with
    hunrouted | ⟨maybePathParam, hget, hroute, hfull | hroom⟩
  · rw [sseFilter_of_unrouted hunrouted] at h
    cases h
  · rw [sseFilter_of_full hget hroute hfull] at h
    cases h
  · rw [sseFilter_of_routed hget hroute hroom] at h
    exact ⟨maybePathParam, hget, hroute, hroom, h⟩

/-- **The requests the server serves**: a `GET` of `/events` or `/events/<param>` with a
known `param` (a missing one is `events`) and a query `parse_query` accepts, while fewer
than `max_concurrent_subscribers` receivers exist; it is served the endpoint's event
types from the query's `start_from`. -/
theorem sseFilter_eq_ok_iff (request : Request) (receiverCount : Nat)
    (maxConcurrentSubscribers : UInt32) (props : UrlProps) :
    sseFilter request receiverCount maxConcurrentSubscribers = .ok props ↔
      request.isGet ∧ receiverCount < maxConcurrentSubscribers.toNat ∧
        ∃ maybePathParam : Option String, request.segments = "events" :: maybePathParam.toList ∧
          getFilter (maybePathParam.getD sseApiRootPath) = some props.1 ∧
          pathToFilter (maybePathParam.getD sseApiRootPath) = some props.2.1 ∧
          parseQuery request.query = .ok props.2.2 := by
  constructor
  · intro h
    obtain ⟨maybePathParam, hget, hroute, hroom, hprops⟩ := sseFilter_eq_ok h
    exact ⟨hget, hroom, maybePathParam, (routePath_eq_some_iff _ _).mp hroute,
      (parseUrlProps_eq_ok_iff _ _ _).mp hprops⟩
  · rintro ⟨hget, hroom, maybePathParam, hsegments, hprops⟩
    rw [sseFilter_of_routed hget ((routePath_eq_some_iff _ _).mpr hsegments) hroom]
    exact (parseUrlProps_eq_ok_iff _ _ _).mpr hprops

/-- **Every refusal names its cause**: a request the filter does not route gets
`create_404`; a routed one gets `create_503` while the server is full, whatever its path
parameter and query, and otherwise `create_404` for an unknown path parameter or
`create_422` for a query `parse_query` refuses. -/
theorem sseFilter_eq_error {request : Request} {receiverCount : Nat}
    {maxConcurrentSubscribers : UInt32} {response : Response}
    (h : sseFilter request receiverCount maxConcurrentSubscribers = .error response) :
    (response = create404 ∧ (request.isGet = false ∨ routePath request.segments = none)) ∨
      ∃ maybePathParam, request.isGet ∧ routePath request.segments = some maybePathParam ∧
        ((response = create503 ∧ maxConcurrentSubscribers.toNat ≤ receiverCount) ∨
          (receiverCount < maxConcurrentSubscribers.toNat ∧ response = create404 ∧
            pathToFilter (maybePathParam.getD sseApiRootPath) = none) ∨
          (receiverCount < maxConcurrentSubscribers.toNat ∧ response = create422 ∧
            parseQuery request.query = .error create422)) := by
  rcases sseFilter_routed_cases request receiverCount maxConcurrentSubscribers with
    hunrouted | ⟨maybePathParam, hget, hroute, hfull | hroom⟩
  · rw [sseFilter_of_unrouted hunrouted] at h
    cases h
    exact .inl ⟨rfl, hunrouted⟩
  · rw [sseFilter_of_full hget hroute hfull] at h
    cases h
    exact .inr ⟨maybePathParam, hget, hroute, .inl ⟨rfl, hfull⟩⟩
  · -- past `validate`, the refusal is `parse_url_props`'s
    rw [sseFilter_of_routed hget hroute hroom] at h
    rcases parseUrlProps_eq_error h with ⟨h404, hpath⟩ | ⟨h422, hquery⟩
    · exact .inr ⟨maybePathParam, hget, hroute, .inr (.inl ⟨hroom, h404, hpath⟩)⟩
    · exact .inr ⟨maybePathParam, hget, hroute, .inr (.inr ⟨hroom, h422, hquery⟩)⟩

/-! ## The server -/

/-- A refused request leaves the server as it was. -/
theorem Server.request_of_error {config : Config} {s : Server wb} {request : Request}
    {response : Response}
    (h : sseFilter request s.receiverCount config.maxConcurrentSubscribers = .error response) :
    s.request config request = (s, .error response) := by
  rw [Server.request, h]

/-- An accepted request adds one client, starting from the request's `start_from`. -/
theorem Server.request_of_ok {config : Config} {s : Server wb} {request : Request}
    {props : UrlProps}
    (h : sseFilter request s.receiverCount config.maxConcurrentSubscribers = .ok props) :
    (s.request config request).1.clients = s.clients ++ [⟨props.2.2, none, none, true⟩] := by
  obtain ⟨_, _, _, hroom, _⟩ := sseFilter_eq_ok h
  rw [Server.request, h]
  exact Server.connect_admits hroom props.2.2

end CasperSidecar
