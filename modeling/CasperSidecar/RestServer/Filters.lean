import Mathlib
import CasperSidecar.Lib.Route
import CasperSidecar.Lib.Decimal
import CasperSidecar.Database.Reader
import CasperSidecar.Sidecar.EventHandling

/-!
# RestServer.Filters

The REST server (`rest_server/filters.rs`, `handlers.rs`, `errors.rs`): the routes that
`combined_filters` tries in turn, the readers they call (`database/reader_generator.rs`)
and the rejections `handle_rejection` answers.

A request is its method and the segments of its path, compared with the literals of
`warp::path!` up to the end of the path; a parameter is read by `FromStr`, a `String`
from any segment but the empty one and a `u64` by `str::parse`.  A route whose path
matches rejects a method other than `GET` with `MethodNotAllowed`, and a handler's
error is its rejection (`InvalidParam`, `StorageError`).  Two routes match paths no
handler serves: `root_filter` the empty one and `root_and_invalid_path` every path
with a first segment, each rejecting with `InvalidPath`.  The texts that `anyhow` and
`serde` errors put into the messages, and the files of the swagger UI, are left out.

* `rejected_request_reports_path` — a request with a first segment that no route
  answers carries `InvalidPath`, which `handle_rejection` looks for right after a
  storage error: it is answered with a storage error's status or with `400 Invalid
  request path provided`, never with `Invalid parameter in query`, whose branch is
  dead, nor with the fallback `500`;
* `sent_block_served` — in every run of the sidecar, a block it sent downstream is
  served at `/block/<height>`, and a block stored under its hash at `/block/<hash>`;
* `sent_events_served` — in every run of the sidecar, every event of a stored kind it
  sent downstream is served at the path of its kind (`SseData.restPath?`).
-/

namespace CasperSidecar

open Routing UniqueIndex

/-! ## The readers by number -/

/-- The `height` column of `BlockAdded`. -/
def IndexKey.heightColumn : IndexKey → Option UInt64
  | .blockAddedHeight height => some height
  | _ => none

/-- The `era` column of `Step`. -/
def IndexKey.stepEraColumn : IndexKey → Option UInt64
  | .step era => some era.value
  | _ => none

/-- The `era` column of `Fault`. -/
def IndexKey.faultEraColumn : IndexKey → Option UInt64
  | .fault era _ => some era.value
  | _ => none

/-- `SELECT … WHERE column = value` on a column of integers. -/
def selectWhere (store : EventStore) (column : IndexKey → Option UInt64) (value : UInt64) :
    List Row :=
  store.tables.rows.filter fun row => row.keys.any fun key => column key == some value

/-- The `height` column of the `BlockAdded` table. -/
def blockHeights (store : EventStore) : List UInt64 :=
  store.tables.rows.flatMap fun row => row.keys.filterMap IndexKey.heightColumn

/-- `get_latest_block`: the block whose height is `IN (SELECT MAX(height) …)`; the maximum
of no heights is `NULL`, which no height is in. -/
def getLatestBlock (store : EventStore) : Except DatabaseReadError Row :=
  match (blockHeights store).max? with
  | some height => fetchOne (selectWhere store IndexKey.heightColumn height)
  | none => .error .notFound

/-- `get_block_by_height`. -/
def getBlockByHeight (store : EventStore) (height : UInt64) : Except DatabaseReadError Row :=
  fetchOne (selectWhere store IndexKey.heightColumn height)

/-- `get_step_by_era`. -/
def getStepByEra (store : EventStore) (era : UInt64) : Except DatabaseReadError Row :=
  fetchOne (selectWhere store IndexKey.stepEraColumn era)

/-- `get_faults_by_era`. -/
def getFaultsByEra (store : EventStore) (era : UInt64) : Except DatabaseReadError (List Row) :=
  fetchAll (selectWhere store IndexKey.faultEraColumn era)

/-- The handler `get_deploy_accepted_by_hash`. -/
def Handlers.getDeployAcceptedByHash (store : EventStore) (hash : List Char) : Except Rejection Row :=
  checkedRead checkHashIsCorrectFormat (CasperSidecar.getDeployAcceptedByHash store) hash

/-- The handler `get_deploy_processed_by_hash`. -/
def Handlers.getDeployProcessedByHash (store : EventStore) (hash : List Char) : Except Rejection Row :=
  checkedRead checkHashIsCorrectFormat (CasperSidecar.getDeployProcessedByHash store) hash

/-- The handler `get_deploy_expired_by_hash`. -/
def Handlers.getDeployExpiredByHash (store : EventStore) (hash : List Char) : Except Rejection Row :=
  checkedRead checkHashIsCorrectFormat (CasperSidecar.getDeployExpiredByHash store) hash

/-! ## Requests, rejections and replies -/

/-- A request to the REST server: whether it is a `GET`, and the segments of its path. -/
structure RestRequest where
  isGet : Bool
  segments : List String
deriving DecidableEq, Repr

/-- What a rejection of the REST server carries: the custom rejections of `utils.rs` and
`rest_server/errors.rs`, and warp's `MethodNotAllowed`. -/
inductive RestRejection where
  | unexpected (message : String)
  | storageError (err : DatabaseReadError)
  | invalidPath
  | invalidParam (message : String)
  | methodNotAllowed
deriving DecidableEq, Repr

/-- What the routes answer `200 OK` with. -/
inductive RestReply where
  | block (row : Row)
  | deploy (aggregate : DeployAggregate Row Row)
  | deployAccepted (row : Row)
  | deployProcessed (row : Row)
  | deployExpired (row : Row)
  | step (row : Row)
  | faults (rows : List Row)
  | finalitySignatures (rows : List Row)
  | apiDoc
  | swaggerUi
deriving DecidableEq

/-- `ApiError`, the body `handle_rejection` answers with, and its status code. -/
structure ApiError where
  code : Nat
  message : String
deriving DecidableEq, Repr

/-- The message of the `InvalidParam` of `check_hash_is_correct_format`; `len()` counts
bytes. -/
def invalidHashMessage (hash : String) : String :=
  "Expected hex-encoded hash (64 chars), received: " ++ hash ++ " (length: " ++
    toString hash.utf8ByteSize ++ ")"

/-- The message of the `InvalidParam` of `check_public_key_is_correct_format`. -/
def invalidPublicKeyMessage (publicKeyHex : String) : String :=
  "Expected hex-encoded public key (66/68 chars), received: " ++ publicKeyHex ++ " (length: " ++
    toString publicKeyHex.utf8ByteSize ++ ")"

/-- A handler's rejection as warp carries it, the format check's with its message. -/
def Rejection.toRest (message : String) : Rejection → RestRejection
  | .invalidParam => .invalidParam message
  | .storageError err => .storageError err

/-- `format_or_reject_storage_result`: the data's JSON, or a `StorageError`. -/
def formatOrRejectStorageResult {α : Type} (wrap : α → RestReply) (result : Except DatabaseReadError α) :
    Except RestRejection RestReply :=
  (result.map wrap).mapError .storageError

/-- A handler that checks its parameter: the data's JSON, or its rejection. -/
def Handlers.reply {α : Type} (message : String) (wrap : α → RestReply) (result : Except Rejection α) :
    Except RestRejection RestReply :=
  (result.map wrap).mapError (Rejection.toRest message)

/-! ## The routes -/

/-- A route of the REST server. -/
abbrev RestRoute := Route RestRequest RestRejection RestReply

/-- The path `literals`, exactly. -/
def pathExact (literals segments : List String) : Option Unit :=
  if segments = literals then some () else none

/-- `warp::path!` of literal segments then one parameter read by `param`: its value,
when the path is exactly those literals and one segment. -/
def pathParam {β : Type} (param : String → Option β) : List String → List String → Option β
  | [], [segment] => param segment
  | literal :: literals, segment :: segments =>
      if segment = literal then pathParam param literals segments else none
  | _, _ => none

/-- `warp::path::param::<String>()`: any segment but the empty one. -/
def stringParam (segment : String) : Option String :=
  if segment.isEmpty then none else some segment

/-- `warp::path::param::<u64>()`. -/
def u64Param (segment : String) : Option UInt64 :=
  Decimal.parseU64 segment

/-- `warp::path!(…).and(warp::get()).and_then(handler)`: a path that does not match is
not found, a matching one with another method is `MethodNotAllowed`, and the handler's
error is the rejection. -/
def getRoute {β : Type} (matchPath : List String → Option β)
    (handler : β → Except RestRejection RestReply) : RestRoute := fun request =>
  match matchPath request.segments with
  | none => .error []
  | some param =>
      if request.isGet then (handler param).mapError fun rejection => [rejection]
      else .error [.methodNotAllowed]

/-- `root_filter`: `warp::path::end()`, rejected as an invalid path. -/
def rootFilter : RestRoute := fun request =>
  if request.segments = [] then .error [.invalidPath] else .error []

/-- `root_and_invalid_path`: `warp::path::param()`, any first segment, rejected as an
invalid path. -/
def rootAndInvalidPath : RestRoute := fun request =>
  match request.segments with
  | segment :: _ => if (stringParam segment).isSome then .error [.invalidPath] else .error []
  | [] => .error []

/-- `latest_block`: `block`. -/
def latestBlock (store : EventStore) : RestRoute :=
  getRoute (pathExact ["block"]) fun () => formatOrRejectStorageResult .block (getLatestBlock store)

/-- `block_by_hash`: `block/<String>`. -/
def blockByHash (store : EventStore) : RestRoute :=
  getRoute (pathParam stringParam ["block"]) fun hash =>
    Handlers.reply (invalidHashMessage hash) .block (Handlers.getBlockByHash store hash.toList)

/-- `block_by_height`: `block/<u64>`. -/
def blockByHeight (store : EventStore) : RestRoute :=
  getRoute (pathParam u64Param ["block"]) fun height =>
    formatOrRejectStorageResult .block (getBlockByHeight store height)

/-- `deploy_by_hash`: `deploy/<String>`. -/
def deployByHash (store : EventStore) : RestRoute :=
  getRoute (pathParam stringParam ["deploy"]) fun hash =>
    Handlers.reply (invalidHashMessage hash) .deploy (Handlers.getDeployByHash store hash.toList)

/-- `deploy_accepted_by_hash`: `deploy/accepted/<String>`. -/
def deployAcceptedByHash (store : EventStore) : RestRoute :=
  getRoute (pathParam stringParam ["deploy", "accepted"]) fun hash =>
    Handlers.reply (invalidHashMessage hash) .deployAccepted
      (Handlers.getDeployAcceptedByHash store hash.toList)

/-- `deploy_processed_by_hash`: `deploy/processed/<String>`. -/
def deployProcessedByHash (store : EventStore) : RestRoute :=
  getRoute (pathParam stringParam ["deploy", "processed"]) fun hash =>
    Handlers.reply (invalidHashMessage hash) .deployProcessed
      (Handlers.getDeployProcessedByHash store hash.toList)

/-- `deploy_expired_by_hash`: `deploy/expired/<String>`. -/
def deployExpiredByHash (store : EventStore) : RestRoute :=
  getRoute (pathParam stringParam ["deploy", "expired"]) fun hash =>
    Handlers.reply (invalidHashMessage hash) .deployExpired
      (Handlers.getDeployExpiredByHash store hash.toList)

/-- `step_by_era`: `step/<u64>`. -/
def stepByEra (store : EventStore) : RestRoute :=
  getRoute (pathParam u64Param ["step"]) fun era =>
    formatOrRejectStorageResult .step (getStepByEra store era)

/-- `faults_by_public_key`: `faults/<String>`. -/
def faultsByPublicKey (store : EventStore) : RestRoute :=
  getRoute (pathParam stringParam ["faults"]) fun publicKey =>
    Handlers.reply (invalidPublicKeyMessage publicKey) .faults
      (Handlers.getFaultsByPublicKey store publicKey.toList)

/-- `faults_by_era`: `faults/<u64>`. -/
def faultsByEra (store : EventStore) : RestRoute :=
  getRoute (pathParam u64Param ["faults"]) fun era =>
    formatOrRejectStorageResult .faults (getFaultsByEra store era)

/-- `finality_signatures_by_block`: `signatures/<String>`. -/
def finalitySignaturesByBlock (store : EventStore) : RestRoute :=
  getRoute (pathParam stringParam ["signatures"]) fun blockHash =>
    Handlers.reply (invalidHashMessage blockHash) .finalitySignatures
      (Handlers.getFinalitySignaturesByBlock store blockHash.toList)

/-- The document route of `build_open_api_filters`: `warp::path("api-doc.json")`, under
any further path. -/
def apiDoc : RestRoute := fun request =>
  match request.segments with
  | "api-doc.json" :: _ => if request.isGet then .ok .apiDoc else .error [.methodNotAllowed]
  | _ => .error []

/-- The swagger route of `build_open_api_filters`: `warp::path("swagger-ui")` and the
rest of the path; `serve_swagger` answers every such request. -/
def swaggerUi : RestRoute := fun request =>
  match request.segments with
  | "swagger-ui" :: _ => if request.isGet then .ok .swaggerUi else .error [.methodNotAllowed]
  | _ => .error []

/-- `build_open_api_filters`. -/
def buildOpenApiFilters : RestRoute := apiDoc.or swaggerUi

/-- `block_filters`. -/
def blockFilters (store : EventStore) : RestRoute :=
  ((latestBlock store).or (blockByHash store)).or (blockByHeight store)

/-- `deploy_filters`. -/
def deployFilters (store : EventStore) : RestRoute :=
  (((deployByHash store).or (deployAcceptedByHash store)).or (deployProcessedByHash store)).or
    (deployExpiredByHash store)

/-- `combined_filters` before its `recover`. -/
def combinedFilters (store : EventStore) : RestRoute :=
  (((((((rootFilter.or rootAndInvalidPath).or (blockFilters store)).or (deployFilters store)).or
    (stepByEra store)).or (faultsByPublicKey store)).or (faultsByEra store)).or
    (finalitySignaturesByBlock store)).or buildOpenApiFilters

/-! ## The rejections answered -/

def RestRejection.unexpected? : RestRejection → Option String
  | .unexpected message => some message
  | _ => none

def RestRejection.storageError? : RestRejection → Option DatabaseReadError
  | .storageError err => some err
  | _ => none

def RestRejection.invalidParam? : RestRejection → Option String
  | .invalidParam message => some message
  | _ => none

/-- `status_code_and_err_message_for_read_error`. -/
def statusCodeAndErrMessageForReadError : DatabaseReadError → ApiError
  | .notFound => ⟨404, "Query returned no results"⟩
  | .serialisation => ⟨500, "Error deserializing returned data: "⟩
  | .unhandled => ⟨500, "Unhandled error occurred in storage: "⟩

/-- `fallback_status_code_and_message`. -/
def fallbackStatusCodeAndMessage : ApiError :=
  ⟨500, "Unexpected error in REST server - please file a bug report!\n"⟩

/-- `handle_rejection`: `err.find()` of each kind in turn, the first of a kind in the
order warp combined them. -/
def handleRejection (reasons : List RestRejection) : ApiError :=
  match reasons.findSome? RestRejection.unexpected? with
  | some err => ⟨500, "Unexpected error in REST server - please file a bug report!\n" ++ err⟩
  | none =>
      match reasons.findSome? RestRejection.storageError? with
      | some err => statusCodeAndErrMessageForReadError err
      | none =>
          if RestRejection.invalidPath ∈ reasons then ⟨400, "Invalid request path provided"⟩
          else
            match reasons.findSome? RestRejection.invalidParam? with
            | some err => ⟨400, "Invalid parameter in query: " ++ err⟩
            | none => fallbackStatusCodeAndMessage

/-- `combined_filters`: the reply of a route, or the `ApiError` of `handle_rejection`. -/
def restResponse (store : EventStore) (request : RestRequest) : Except ApiError RestReply :=
  (combinedFilters store).recover handleRejection request

/-! ## What the routes reject for -/

/-- The routes of `combined_filters`, in the order it tries them. -/
def restRoutes (store : EventStore) : List RestRoute :=
  [rootFilter, rootAndInvalidPath, latestBlock store, blockByHash store, blockByHeight store,
    deployByHash store, deployAcceptedByHash store, deployProcessedByHash store,
    deployExpiredByHash store, stepByEra store, faultsByPublicKey store, faultsByEra store,
    finalitySignaturesByBlock store, apiDoc, swaggerUi]

theorem combinedFilters_eq (store : EventStore) : combinedFilters store = Route.first (restRoutes store) := by
  simp only [combinedFilters, blockFilters, deployFilters, buildOpenApiFilters, restRoutes,
    Route.first_cons, Route.first_nil, Route.or_reject, Route.or_assoc]

/-- A route that never rejects with `Unexpected`: the format checks' patterns are
constants that compile. -/
def NeverUnexpected (f : RestRoute) : Prop :=
  ∀ request reasons, f request = .error reasons → ∀ x ∈ reasons, x.unexpected? = none

theorem neverUnexpected_getRoute {β : Type} {matchPath : List String → Option β}
    {handler : β → Except RestRejection RestReply}
    (hhandler : ∀ param rejection, handler param = .error rejection → rejection.unexpected? = none) :
    NeverUnexpected (getRoute matchPath handler) := by
  intro request reasons h x hx
  unfold getRoute at h
  split at h
  · cases h
    cases hx
  · rename_i param _
    split at h
    · -- the handler's rejection
      cases hresult : handler param with
      | ok reply =>
          rw [hresult] at h
          cases h
      | error rejection =>
          rw [hresult] at h
          cases h
          rw [List.mem_singleton.mp hx]
          exact hhandler param rejection hresult
    · cases h
      rw [List.mem_singleton.mp hx]
      rfl

theorem formatOrRejectStorageResult_eq_error {α : Type} {wrap : α → RestReply}
    {result : Except DatabaseReadError α} {rejection : RestRejection}
    (h : formatOrRejectStorageResult wrap result = .error rejection) :
    ∃ err, result = .error err ∧ rejection = .storageError err := by
  cases result with
  | ok data => cases h
  | error err =>
      cases h
      exact ⟨err, rfl, rfl⟩

theorem Handlers.reply_eq_error {α : Type} {message : String} {wrap : α → RestReply}
    {result : Except Rejection α} {rejection : RestRejection}
    (h : Handlers.reply message wrap result = .error rejection) :
    ∃ r, result = .error r ∧ rejection = r.toRest message := by
  cases result with
  | ok data => cases h
  | error r =>
      cases h
      exact ⟨r, rfl, rfl⟩

theorem neverUnexpected_storageRoute {α β : Type} (matchPath : List String → Option β)
    (wrap : α → RestReply) (read : β → Except DatabaseReadError α) :
    NeverUnexpected (getRoute matchPath fun param => formatOrRejectStorageResult wrap (read param)) :=
  neverUnexpected_getRoute fun _ _ h => by
    obtain ⟨err, -, rfl⟩ := formatOrRejectStorageResult_eq_error h
    rfl

theorem neverUnexpected_checkedRoute {α β : Type} (matchPath : List String → Option β)
    (message : β → String) (wrap : α → RestReply) (handler : β → Except Rejection α) :
    NeverUnexpected (getRoute matchPath fun param => Handlers.reply (message param) wrap (handler param)) :=
  neverUnexpected_getRoute fun _ _ h => by
    obtain ⟨r, -, rfl⟩ := Handlers.reply_eq_error h
    cases r <;> rfl

/-- The routes with no handler reject with nothing but an invalid path or a method. -/
theorem neverUnexpected_of_reasons {f : RestRoute}
    (hf : ∀ request, f request = .error [] ∨ f request = .error [.invalidPath] ∨
      f request = .error [.methodNotAllowed] ∨ ∃ reply, f request = .ok reply) :
    NeverUnexpected f := by
  intro request reasons h x hx
  rcases hf request with hnil | hpath | hmethod | ⟨reply, hreply⟩
  · rw [hnil] at h
    cases h
    cases hx
  · rw [hpath] at h
    cases h
    rw [List.mem_singleton.mp hx]
    rfl
  · rw [hmethod] at h
    cases h
    rw [List.mem_singleton.mp hx]
    rfl
  · rw [hreply] at h
    cases h

theorem neverUnexpected_of_mem_restRoutes {store : EventStore} {f : RestRoute}
    (hf : f ∈ restRoutes store) : NeverUnexpected f := by
  simp only [restRoutes, List.mem_cons, List.not_mem_nil, or_false] at hf
  rcases hf with rfl | rfl | rfl | rfl | rfl | rfl | rfl | rfl | rfl | rfl | rfl | rfl | rfl | rfl | rfl
  · exact neverUnexpected_of_reasons fun request => by
      unfold rootFilter
      split <;> simp
  · exact neverUnexpected_of_reasons fun request => by
      unfold rootAndInvalidPath
      split
      · split <;> simp
      · simp
  · exact neverUnexpected_storageRoute _ _ _
  · exact neverUnexpected_checkedRoute _ _ _ _
  · exact neverUnexpected_storageRoute _ _ _
  · exact neverUnexpected_checkedRoute _ _ _ _
  · exact neverUnexpected_checkedRoute _ _ _ _
  · exact neverUnexpected_checkedRoute _ _ _ _
  · exact neverUnexpected_checkedRoute _ _ _ _
  · exact neverUnexpected_storageRoute _ _ _
  · exact neverUnexpected_checkedRoute _ _ _ _
  · exact neverUnexpected_storageRoute _ _ _
  · exact neverUnexpected_checkedRoute _ _ _ _
  · exact neverUnexpected_of_reasons fun request => by
      unfold apiDoc
      split
      · split <;> simp
      · simp
  · exact neverUnexpected_of_reasons fun request => by
      unfold swaggerUi
      split
      · split <;> simp
      · simp

/-- Every segment but the empty one is a `String` parameter. -/
theorem stringParam_of_ne_empty {segment : String} (h : segment ≠ "") :
    stringParam segment = some segment := by
  simp [stringParam, String.isEmpty_iff, h]

/-- A request that every route rejects carries `InvalidPath` once its path is empty or
has a first segment. -/
theorem invalidPath_mem {store : EventStore} {request : RestRequest} {reasons : List RestRejection}
    (hpath : request.segments.head? ≠ some "") (h : combinedFilters store request = .error reasons) :
    RestRejection.invalidPath ∈ reasons := by
  rw [combinedFilters_eq] at h
  have hall := Route.first_eq_error h
  cases hsegments : request.segments with
  | nil =>
      obtain ⟨r, hr, hsub⟩ := hall rootFilter (by simp [restRoutes])
      rw [rootFilter, hsegments, if_pos rfl] at hr
      cases hr
      exact hsub List.mem_cons_self
  | cons segment rest =>
      -- `root_and_invalid_path` takes the first segment, which is not empty
      have hsegment : segment ≠ "" := fun hempty => hpath (by simp [hsegments, hempty])
      obtain ⟨r, hr, hsub⟩ := hall rootAndInvalidPath (by simp [restRoutes])
      simp only [rootAndInvalidPath, hsegments, stringParam_of_ne_empty hsegment,
        Option.isSome_some, if_true] at hr
      cases hr
      exact hsub List.mem_cons_self

/-- With no `Unexpected` and an `InvalidPath` among the reasons, `handle_rejection`
answers a storage error's status or the invalid path. -/
theorem handleRejection_of_invalidPath {reasons : List RestRejection}
    (hunexpected : ∀ x ∈ reasons, x.unexpected? = none) (hpath : RestRejection.invalidPath ∈ reasons) :
    (∃ err, handleRejection reasons = statusCodeAndErrMessageForReadError err) ∨
      handleRejection reasons = ⟨400, "Invalid request path provided"⟩ := by
  have hnone : reasons.findSome? RestRejection.unexpected? = none :=
    List.findSome?_eq_none_iff.mpr hunexpected
  cases hstorage : reasons.findSome? RestRejection.storageError? with
  | some err =>
      left
      exact ⟨err, by simp only [handleRejection, hnone, hstorage]⟩
  | none =>
      right
      simp only [handleRejection, hnone, hstorage, if_pos hpath]

/-- **A rejected request is reported as a storage error or an invalid path.**  For every
state of the database and every request whose path is empty or has a first segment,
the REST server answers with the reply of a route, or with the status of the storage
error a reader met, or with `400 Invalid request path provided`.  A hash or key of the
wrong format, which its handler rejects with `InvalidParam`, is answered as an invalid
path: the `Invalid parameter in query` answer and the fallback `500` are never sent. -/
theorem rejected_request_reports_path (store : EventStore) (request : RestRequest)
    (hpath : request.segments.head? ≠ some "") {error : ApiError}
    (h : restResponse store request = .error error) :
    (∃ err, error = statusCodeAndErrMessageForReadError err) ∨
      error = ⟨400, "Invalid request path provided"⟩ := by
  obtain ⟨reasons, hrejected, rfl⟩ := Route.recover_eq_error_iff.mp h
  -- no route rejects with `Unexpected`
  have hunexpected : ∀ x ∈ reasons, x.unexpected? = none := by
    intro x hx
    rw [combinedFilters_eq] at hrejected
    obtain ⟨f, hf, r, hr, hxr⟩ := Route.exists_of_mem_first_eq_error hrejected hx
    exact neverUnexpected_of_mem_restRoutes hf request r hr x hxr
  rcases handleRejection_of_invalidPath hunexpected (invalidPath_mem hpath hrejected) with
    ⟨err, herr⟩ | hinvalid
  · exact .inl ⟨err, herr⟩
  · exact .inr hinvalid

/-- A block asked for by a hash that is not hex: its handler's `InvalidParam` is
answered as an invalid path. -/
theorem rejected_request_reports_path_malformed_hash :
    (["block", "xyz"].head? ≠ some "") ∧
      restResponse .empty ⟨true, ["block", "xyz"]⟩ = .error ⟨400, "Invalid request path provided"⟩ ∧
      ((∃ err, (⟨400, "Invalid request path provided"⟩ : ApiError) = statusCodeAndErrMessageForReadError err) ∨
        (⟨400, "Invalid request path provided"⟩ : ApiError) = ⟨400, "Invalid request path provided"⟩) :=
  have hpath : ["block", "xyz"].head? ≠ some "" := by decide
  have hresponse : restResponse .empty ⟨true, ["block", "xyz"]⟩ =
      .error ⟨400, "Invalid request path provided"⟩ := by decide
  ⟨hpath, hresponse, rejected_request_reports_path .empty ⟨true, ["block", "xyz"]⟩ hpath hresponse⟩

/-! ## Reading a unique index -/

theorem hexEncode_inj {a b : List UInt8} : hexEncode a = hexEncode b ↔ a = b := by
  constructor
  · intro h
    have hdecode := congrArg hexDecode h
    rwa [hexDecode_hexEncode, hexDecode_hexEncode, Option.some.injEq] at hdecode
  · rintro rfl
    rfl

theorem Digest.toList_inj {a b : Digest} : a.bytes.toList = b.bytes.toList ↔ a = b := by
  obtain ⟨a⟩ := a
  obtain ⟨b⟩ := b
  simp [Vector.toList_inj]

theorem DeployHash.inner_inj {a b : DeployHash} : a.inner = b.inner ↔ a = b := by
  obtain ⟨a⟩ := a
  obtain ⟨b⟩ := b
  simp

theorem EraId.value_inj {a b : EraId} : a.value = b.value ↔ a = b := by
  obtain ⟨a⟩ := a
  obtain ⟨b⟩ := b
  simp

theorem heightColumn_eq_some_iff {key : IndexKey} {height : UInt64} :
    key.heightColumn = some height ↔ key = .blockAddedHeight height := by
  cases key <;> simp [IndexKey.heightColumn]

/-- A unique index of hex text: the row holding the key is the only one found by its text. -/
theorem selectWhereHex_eq_singleton {store : EventStore} {column : IndexKey → Option (List UInt8)}
    {row : Row} (hrow : row ∈ store.tables.rows) {key : IndexKey} (hkey : key ∈ row.keys)
    {bytes : List UInt8} (hcolumn : ∀ k, column k = some bytes ↔ k = key) :
    selectWhereHex store column (hexEncode bytes) = [row] :=
  filter_holding store.tables.pairwise_disjoint hrow hkey _ fun r _ => by
    simp [Option.map_eq_some_iff, hexEncode_inj, hcolumn]

/-- A unique index of numbers: the row holding the key is the only one found by its value. -/
theorem selectWhere_eq_singleton {store : EventStore} {column : IndexKey → Option UInt64}
    {row : Row} (hrow : row ∈ store.tables.rows) {key : IndexKey} (hkey : key ∈ row.keys)
    {value : UInt64} (hcolumn : ∀ k, column k = some value ↔ k = key) :
    selectWhere store column value = [row] :=
  filter_holding store.tables.pairwise_disjoint hrow hkey _ fun r _ => by
    simp [hcolumn]

theorem mem_selectWhere {store : EventStore} {column : IndexKey → Option UInt64} {row : Row}
    (hrow : row ∈ store.tables.rows) {key : IndexKey} (hkey : key ∈ row.keys) {value : UInt64}
    (hcolumn : column key = some value) : row ∈ selectWhere store column value := by
  rw [selectWhere, List.mem_filter]
  exact ⟨hrow, List.any_eq_true.mpr ⟨key, hkey, by simp [hcolumn]⟩⟩

theorem fetchAll_of_mem {rows : List Row} {row : Row} (hrow : row ∈ rows) : fetchAll rows = .ok rows := by
  rw [fetchAll, if_neg (by simpa using List.ne_nil_of_mem hrow)]

/-- The height is a unique index: `get_block_by_height` answers the one row stored at it. -/
theorem getBlockByHeight_of_mem {store : EventStore} {row : Row} (hrow : row ∈ store.tables.rows)
    {height : UInt64} (hheight : IndexKey.blockAddedHeight height ∈ row.keys) :
    getBlockByHeight store height = .ok row := by
  rw [getBlockByHeight, selectWhere_eq_singleton hrow hheight fun _ => heightColumn_eq_some_iff]
  rfl

/-- The `block_hash` column holds the writer's text of a hash, which no other hash has. -/
theorem blockAddedBlockHash_eq {key : IndexKey} {blockHash : BlockHash}
    (h : key.blockAddedBlockHash.map hexEncode = some (hexEncode blockHash.inner.bytes.toList)) :
    ∃ height, key = .blockAdded blockHash height := by
  cases key with
  | blockAdded stored height =>
      simp only [IndexKey.blockAddedBlockHash, Option.map_some, Option.some.injEq, hexEncode_inj,
        Digest.toList_inj] at h
      obtain ⟨inner⟩ := stored
      cases h
      exact ⟨height, rfl⟩
  | _ => simp [IndexKey.blockAddedBlockHash] at h

/-- The block hash is not a unique index, only the hash with the height is:
`get_block_by_hash` answers the first row stored under the hash, which need not be the
one asked about. -/
theorem getBlockByHash_of_mem {store : EventStore} {row : Row} (hrow : row ∈ store.tables.rows)
    {blockHash : BlockHash} {height : UInt64} (hkey : IndexKey.blockAdded blockHash height ∈ row.keys) :
    ∃ found ∈ store.tables.rows, (∃ height', IndexKey.blockAdded blockHash height' ∈ found.keys) ∧
      getBlockByHash store (hexEncode blockHash.inner.bytes.toList) = .ok found := by
  have hmem := mem_selectWhereHex hrow hkey (rfl : IndexKey.blockAddedBlockHash _ = _)
  cases hselect : selectWhereHex store IndexKey.blockAddedBlockHash (hexEncode blockHash.inner.bytes.toList) with
  | nil =>
      rw [hselect] at hmem
      cases hmem
  | cons found rest =>
      -- `fetch_optional` answers the first row that matched
      have hfound : found ∈ selectWhereHex store IndexKey.blockAddedBlockHash
          (hexEncode blockHash.inner.bytes.toList) := by
        rw [hselect]
        exact List.mem_cons_self
      rw [selectWhereHex, List.mem_filter] at hfound
      obtain ⟨hstored, hmatch⟩ := hfound
      obtain ⟨key, hkey', hcolumn⟩ := List.any_eq_true.mp hmatch
      obtain ⟨height', rfl⟩ := blockAddedBlockHash_eq (beq_iff_eq.mp hcolumn)
      exact ⟨found, hstored, ⟨height', hkey'⟩, by rw [getBlockByHash, hselect]; rfl⟩

/-! ## Routing a path -/

/-- The decimal text of a height is no hash: it has at most twenty digits. -/
theorem checkHashIsCorrectFormat_toString (height : UInt64) :
    checkHashIsCorrectFormat (toString height).toList = false := by
  have hlength : (toString height).length ≤ 20 :=
    Nat.repr_length _ 20 (by decide) (lt_of_lt_of_le height.toNat_lt (by decide))
  simp only [checkHashIsCorrectFormat, String.length_toList, Bool.and_eq_false_iff, beq_eq_false_iff_ne]
  omega

/-- The decimal text of a number is no public key either. -/
theorem checkPublicKeyIsCorrectFormat_toString (value : UInt64) :
    checkPublicKeyIsCorrectFormat (toString value).toList = false := by
  have hlength : (toString value).length ≤ 20 :=
    Nat.repr_length _ 20 (by decide) (lt_of_lt_of_le value.toNat_lt (by decide))
  simp only [checkPublicKeyIsCorrectFormat, String.length_toList, Bool.and_eq_false_iff,
    Bool.or_eq_false_iff, beq_eq_false_iff_ne]
  omega

/-- A key that fails the check is rejected before any read. -/
theorem checkedRead_of_not_check {α : Type} {check : List Char → Bool}
    {read : List Char → Except DatabaseReadError α} {key : List Char} (hcheck : check key = false) :
    checkedRead check read key = .error .invalidParam := by
  simp [checkedRead, hcheck]

theorem getRoute_of_get {β : Type} {matchPath : List String → Option β}
    {handler : β → Except RestRejection RestReply} {request : RestRequest} {param : β}
    (hpath : matchPath request.segments = some param) (hget : request.isGet = true) :
    getRoute matchPath handler request = (handler param).mapError fun rejection => [rejection] := by
  simp only [getRoute, hpath, hget, if_true]

theorem pathParam_append {β : Type} (param : String → Option β) (literals : List String) (segment : String) :
    pathParam param literals (literals ++ [segment]) = param segment := by
  induction literals with
  | nil => rfl
  | cons literal literals ih => simp [pathParam, ih]

/-- A request the first `n` routes reject is answered as the rest answer it. -/
theorem combinedFilters_of_first_ok {store : EventStore} {request : RestRequest} {reply : RestReply}
    (n : Nat) (hbefore : ∀ f ∈ (restRoutes store).take n, ∃ r, f request = .error r)
    (h : Route.first ((restRoutes store).drop n) request = .ok reply) :
    combinedFilters store request = .ok reply := by
  rw [combinedFilters_eq, ← List.take_append_drop n (restRoutes store)]
  exact Route.first_append_of_ok hbefore h

/-- A digest as the writers store it and a path names it: `hex::encode` of its bytes. -/
def Digest.hexText (digest : Digest) : String := String.ofList (hexEncode digest.bytes.toList)

theorem Digest.toList_hexText (digest : Digest) : digest.hexText.toList = hexEncode digest.bytes.toList :=
  String.toList_ofList

/-- Sixty-four digits are not the empty segment. -/
theorem Digest.hexText_ne_empty (digest : Digest) : digest.hexText ≠ "" := by
  intro hempty
  have hnil := congrArg String.toList hempty
  rw [Digest.toList_hexText, String.toList_empty] at hnil
  have hcheck := checkHashIsCorrectFormat_hexEncode digest
  rw [hnil] at hcheck
  cases hcheck

/-- A route of a hash-keyed handler answers the writer's text of a hash with what its
reader found. -/
theorem hashRoute_eq_ok {α : Type} (literals : List String) {message : String → String}
    {wrap : α → RestReply} {read : List Char → Except DatabaseReadError α} {digest : Digest} {data : α}
    (hread : read (hexEncode digest.bytes.toList) = .ok data) :
    getRoute (pathParam stringParam literals)
        (fun hash => Handlers.reply (message hash) wrap (checkedRead checkHashIsCorrectFormat read hash.toList))
        ⟨true, literals ++ [digest.hexText]⟩ = .ok (wrap data) := by
  rw [getRoute_of_get ((pathParam_append _ _ _).trans (stringParam_of_ne_empty digest.hexText_ne_empty)) rfl,
    Digest.toList_hexText, checkedRead_of_check (checkHashIsCorrectFormat_hexEncode digest), hread]
  rfl

/-! ## Where a stored block is served -/

/-- `GET /block/<height>` of a stored height: `block_by_hash` matches first and rejects
the decimal text as no hash, and `block_by_height` answers. -/
theorem restResponse_block_at_height {store : EventStore} {row : Row} (hrow : row ∈ store.tables.rows)
    {height : UInt64} (hheight : IndexKey.blockAddedHeight height ∈ row.keys) :
    restResponse store ⟨true, ["block", toString height]⟩ = .ok (.block row) := by
  have hsegment : stringParam (toString height) = some (toString height) :=
    stringParam_of_ne_empty Nat.repr_ne_empty
  -- `block_by_hash` matches first and rejects the decimal text
  have hhash : blockByHash store ⟨true, ["block", toString height]⟩ =
      .error [.invalidParam (invalidHashMessage (toString height))] := by
    rw [blockByHash, getRoute_of_get ((pathParam_append _ ["block"] _).trans hsegment) rfl, Handlers.getBlockByHash,
      checkedRead_of_not_check (checkHashIsCorrectFormat_toString height)]
    rfl
  have hheight : blockByHeight store ⟨true, ["block", toString height]⟩ = .ok (.block row) := by
    rw [blockByHeight, getRoute_of_get ((pathParam_append _ ["block"] _).trans (Decimal.parseU64_toString height)) rfl,
      getBlockByHeight_of_mem hrow hheight]
    rfl
  refine Route.recover_eq_ok_iff.mpr (combinedFilters_of_first_ok 3 (by
    simp [restRoutes, rootFilter, rootAndInvalidPath, stringParam, latestBlock, getRoute, pathExact]) ?_)
  rw [show (restRoutes store).drop 3 = blockByHash store :: blockByHeight store :: _ from rfl,
    Route.first_cons_of_error hhash, Route.first_cons_of_ok hheight]
  rfl

/-- `GET /block/<hash>` in the writer's spelling of a stored hash: `block_by_hash`
answers with a row stored under the hash. -/
theorem restResponse_block_by_hash {store : EventStore} {row : Row} (hrow : row ∈ store.tables.rows)
    {blockHash : BlockHash} {height : UInt64} (hkey : IndexKey.blockAdded blockHash height ∈ row.keys) :
    ∃ found ∈ store.tables.rows, (∃ height', IndexKey.blockAdded blockHash height' ∈ found.keys) ∧
      restResponse store ⟨true, ["block", String.ofList (hexEncode blockHash.inner.bytes.toList)]⟩ =
        .ok (.block found) := by
  obtain ⟨found, hfound, hholds, hread⟩ := getBlockByHash_of_mem hrow hkey
  refine ⟨found, hfound, hholds, Route.recover_eq_ok_iff.mpr (combinedFilters_of_first_ok 3 (by
    simp [restRoutes, rootFilter, rootAndInvalidPath, stringParam, latestBlock, getRoute, pathExact]) ?_)⟩
  have hcheck := checkHashIsCorrectFormat_hexEncode blockHash.inner
  have hne : String.ofList (hexEncode blockHash.inner.bytes.toList) ≠ "" :=
    blockHash.inner.hexText_ne_empty
  have hhash : blockByHash store ⟨true, ["block", String.ofList (hexEncode blockHash.inner.bytes.toList)]⟩ =
      .ok (.block found) := by
    rw [blockByHash, getRoute_of_get ((pathParam_append _ ["block"] _).trans (stringParam_of_ne_empty hne)) rfl,
      Handlers.getBlockByHash, String.toList_ofList, checkedRead_of_check hcheck, hread]
    rfl
  rw [show (restRoutes store).drop 3 = blockByHash store :: _ from rfl, Route.first_cons_of_ok hhash]

/-- **A block sent downstream is served by the REST API.**  In every run of the sidecar
over any database, a `BlockAdded` on the outbound channel is answered at
`/block/<height>` with the very row its save stored, and at `/block/<hash>`, in the
writer's spelling, with a row stored under that hash: two blocks may share a hash at
different heights, and the reader then answers the first. -/
theorem sent_block_served {store : EventStore} {s : Sidecar} (hs : s.Reachable store)
    {m : OutboundMessage} (hm : m ∈ s.outbound) {blockHash : BlockHash} {block : JsonBlock}
    (hblock : m.1 = .blockAdded blockHash block) :
    restResponse s.store ⟨true, ["block", toString block.height]⟩ =
        .ok (.block ⟨.blockAdded, [.blockAddedHeight block.height, .blockAdded blockHash block.height]⟩) ∧
      ∃ found ∈ s.store.tables.rows, (∃ height, IndexKey.blockAdded blockHash height ∈ found.keys) ∧
        restResponse s.store ⟨true, ["block", String.ofList (hexEncode blockHash.inner.bytes.toList)]⟩ =
          .ok (.block found) := by
  -- the block's row was committed before the block was sent
  have hrow : (⟨.blockAdded, [.blockAddedHeight block.height, .blockAdded blockHash block.height]⟩ : Row) ∈
      s.store.tables.rows :=
    hs.mem_rows_of_sent hm (by simp [tableRow?, hblock, SseData.record?])
  exact ⟨restResponse_block_at_height hrow List.mem_cons_self,
    restResponse_block_by_hash hrow (List.mem_cons_of_mem _ List.mem_cons_self)⟩

/-- The first block a node reports, once sent. -/
theorem sent_block_served_first_block :
    ∃ s : Sidecar, s.Reachable .empty ∧ ∃ m ∈ s.outbound,
      m.1 = .blockAdded ⟨⟨Vector.replicate 32 0xAB⟩⟩ ⟨⟨⟨Vector.replicate 32 0xAB⟩⟩, 100⟩ ∧
      restResponse s.store ⟨true, ["block", toString (100 : UInt64)]⟩ =
        .ok (.block ⟨.blockAdded, [.blockAddedHeight 100, .blockAdded ⟨⟨Vector.replicate 32 0xAB⟩⟩ 100]⟩) ∧
      ∃ found ∈ s.store.tables.rows,
        (∃ height, IndexKey.blockAdded ⟨⟨Vector.replicate 32 0xAB⟩⟩ height ∈ found.keys) ∧
        restResponse s.store
          ⟨true, ["block", String.ofList (hexEncode (Vector.replicate 32 (0xAB : UInt8)).toList)]⟩ =
            .ok (.block found) := by
  obtain ⟨s, hs, hp⟩ := @Transition.exists_reachable_of_exec _ _ Sidecar.step (.init .empty)
    [.handle ⟨1, .blockAdded ⟨⟨Vector.replicate 32 0xAB⟩⟩ ⟨⟨⟨Vector.replicate 32 0xAB⟩⟩, 100⟩,
      "http://10.0.0.1:9999", none, .main⟩ false 0 0, .send 0]
    (fun s => s.outbound.any fun m =>
      m.1 == .blockAdded ⟨⟨Vector.replicate 32 0xAB⟩⟩ ⟨⟨⟨Vector.replicate 32 0xAB⟩⟩, 100⟩)
    (by decide)
  obtain ⟨m, hm, hsent⟩ := List.any_eq_true.mp hp
  have hblock : m.1 = .blockAdded ⟨⟨Vector.replicate 32 0xAB⟩⟩ ⟨⟨⟨Vector.replicate 32 0xAB⟩⟩, 100⟩ :=
    beq_iff_eq.mp hsent
  have hserved := sent_block_served hs hm hblock
  exact ⟨s, hs, m, hm, hblock, hserved⟩

/-! ## Where each stored event is served -/

/-- The path of the REST API that serves an event of each stored kind: a block by its
height, a deploy event by its deploy hash, a fault and a step by their era, a finality
signature by its block. -/
def SseData.restPath? : SseData → Option (List String)
  | .blockAdded _ block => some ["block", toString block.height]
  | .deployAccepted deploy => some ["deploy", "accepted", deploy.hash.inner.hexText]
  | .deployProcessed deployHash .. => some ["deploy", "processed", deployHash.inner.hexText]
  | .deployExpired deployHash => some ["deploy", "expired", deployHash.inner.hexText]
  | .fault eraId .. => some ["faults", toString eraId.value]
  | .finalitySignature signature => some ["signatures", signature.blockHash.inner.hexText]
  | .step eraId _ => some ["step", toString eraId.value]
  | _ => none

/-- Whether a reply carries a row: the row itself, or a list holding it. -/
def RestReply.serves : RestReply → Row → Bool
  | .block r, row | .deployAccepted r, row | .deployProcessed r, row | .deployExpired r, row
  | .step r, row => r == row
  | .faults rows, row | .finalitySignatures rows, row => rows.contains row
  | _, _ => false

theorem restResponse_deployAccepted {store : EventStore} {row : Row} (hrow : row ∈ store.tables.rows)
    {deployHash : DeployHash} (hkey : IndexKey.deployAccepted deployHash ∈ row.keys) :
    restResponse store ⟨true, ["deploy", "accepted", deployHash.inner.hexText]⟩ = .ok (.deployAccepted row) := by
  have hread : getDeployAcceptedByHash store (hexEncode deployHash.inner.bytes.toList) = .ok row := by
    rw [getDeployAcceptedByHash, selectWhereHex_eq_singleton hrow hkey fun k => by
      cases k <;> simp [IndexKey.deployAcceptedDeployHash, Digest.toList_inj, DeployHash.inner_inj]]
    rfl
  refine Route.recover_eq_ok_iff.mpr (combinedFilters_of_first_ok 6 (by
    simp [restRoutes, rootFilter, rootAndInvalidPath, stringParam, latestBlock, blockByHash,
      blockByHeight, deployByHash, getRoute, pathParam, pathExact]) ?_)
  rw [show (restRoutes store).drop 6 = deployAcceptedByHash store :: _ from rfl]
  exact Route.first_cons_of_ok (hashRoute_eq_ok ["deploy", "accepted"] hread)

theorem restResponse_deployProcessed {store : EventStore} {row : Row} (hrow : row ∈ store.tables.rows)
    {deployHash : DeployHash} (hkey : IndexKey.deployProcessed deployHash ∈ row.keys) :
    restResponse store ⟨true, ["deploy", "processed", deployHash.inner.hexText]⟩ = .ok (.deployProcessed row) := by
  have hread : getDeployProcessedByHash store (hexEncode deployHash.inner.bytes.toList) = .ok row := by
    rw [getDeployProcessedByHash, selectWhereHex_eq_singleton hrow hkey fun k => by
      cases k <;> simp [IndexKey.deployProcessedDeployHash, Digest.toList_inj, DeployHash.inner_inj]]
    rfl
  refine Route.recover_eq_ok_iff.mpr (combinedFilters_of_first_ok 7 (by
    simp [restRoutes, rootFilter, rootAndInvalidPath, stringParam, latestBlock, blockByHash,
      blockByHeight, deployByHash, deployAcceptedByHash, deployProcessedByHash, deployExpiredByHash,
      stepByEra, faultsByPublicKey, faultsByEra, getRoute, pathParam, pathExact]) ?_)
  rw [show (restRoutes store).drop 7 = deployProcessedByHash store :: _ from rfl]
  exact Route.first_cons_of_ok (hashRoute_eq_ok ["deploy", "processed"] hread)

theorem restResponse_deployExpired {store : EventStore} {row : Row} (hrow : row ∈ store.tables.rows)
    {deployHash : DeployHash} (hkey : IndexKey.deployExpired deployHash ∈ row.keys) :
    restResponse store ⟨true, ["deploy", "expired", deployHash.inner.hexText]⟩ = .ok (.deployExpired row) := by
  have hread : getDeployExpiredByHash store (hexEncode deployHash.inner.bytes.toList) = .ok row := by
    rw [getDeployExpiredByHash, selectWhereHex_eq_singleton hrow hkey fun k => by
      cases k <;> simp [IndexKey.deployExpiredDeployHash, Digest.toList_inj, DeployHash.inner_inj]]
    rfl
  refine Route.recover_eq_ok_iff.mpr (combinedFilters_of_first_ok 8 (by
    simp [restRoutes, rootFilter, rootAndInvalidPath, stringParam, latestBlock, blockByHash,
      blockByHeight, deployByHash, deployAcceptedByHash, deployProcessedByHash, deployExpiredByHash,
      stepByEra, faultsByPublicKey, faultsByEra, getRoute, pathParam, pathExact]) ?_)
  rw [show (restRoutes store).drop 8 = deployExpiredByHash store :: _ from rfl]
  exact Route.first_cons_of_ok (hashRoute_eq_ok ["deploy", "expired"] hread)

/-- The era is a unique index of `Step`: `step/<era>` answers the one step stored for it. -/
theorem restResponse_step {store : EventStore} {row : Row} (hrow : row ∈ store.tables.rows)
    {eraId : EraId} (hkey : IndexKey.step eraId ∈ row.keys) :
    restResponse store ⟨true, ["step", toString eraId.value]⟩ = .ok (.step row) := by
  have hread : getStepByEra store eraId.value = .ok row := by
    rw [getStepByEra, selectWhere_eq_singleton hrow hkey fun k => by
      cases k <;> simp [IndexKey.stepEraColumn, EraId.value_inj]]
    rfl
  refine Route.recover_eq_ok_iff.mpr (combinedFilters_of_first_ok 9 (by
    simp [restRoutes, rootFilter, rootAndInvalidPath, stringParam, latestBlock, blockByHash,
      blockByHeight, deployByHash, deployAcceptedByHash, deployProcessedByHash, deployExpiredByHash,
      stepByEra, faultsByPublicKey, faultsByEra, getRoute, pathParam, pathExact]) ?_)
  rw [show (restRoutes store).drop 9 = stepByEra store :: _ from rfl]
  refine Route.first_cons_of_ok ?_
  rw [stepByEra, getRoute_of_get ((pathParam_append _ ["step"] _).trans (Decimal.parseU64_toString _)) rfl, hread]
  rfl

/-- `faults/<era>`: `faults_by_public_key` matches first and rejects the decimal text as no
key, and `faults_by_era` answers every fault of the era. -/
theorem restResponse_faults {store : EventStore} {row : Row} (hrow : row ∈ store.tables.rows)
    {eraId : EraId} {publicKey : PublicKey} (hkey : IndexKey.fault eraId publicKey ∈ row.keys) :
    ∃ rows, restResponse store ⟨true, ["faults", toString eraId.value]⟩ = .ok (.faults rows) ∧ row ∈ rows := by
  have hmem : row ∈ selectWhere store IndexKey.faultEraColumn eraId.value := mem_selectWhere hrow hkey rfl
  refine ⟨_, Route.recover_eq_ok_iff.mpr (combinedFilters_of_first_ok 10 (by
    simp [restRoutes, rootFilter, rootAndInvalidPath, stringParam, latestBlock, blockByHash,
      blockByHeight, deployByHash, deployAcceptedByHash, deployProcessedByHash, deployExpiredByHash,
      stepByEra, faultsByPublicKey, faultsByEra, getRoute, pathParam, pathExact]) ?_), hmem⟩
  have hsegment : stringParam (toString eraId.value) = some (toString eraId.value) :=
    stringParam_of_ne_empty Nat.repr_ne_empty
  have hkeyRoute : faultsByPublicKey store ⟨true, ["faults", toString eraId.value]⟩ =
      .error [.invalidParam (invalidPublicKeyMessage (toString eraId.value))] := by
    rw [faultsByPublicKey, getRoute_of_get ((pathParam_append _ ["faults"] _).trans hsegment) rfl,
      Handlers.getFaultsByPublicKey, checkedRead_of_not_check (checkPublicKeyIsCorrectFormat_toString _)]
    rfl
  have heraRoute : faultsByEra store ⟨true, ["faults", toString eraId.value]⟩ =
      .ok (.faults (selectWhere store IndexKey.faultEraColumn eraId.value)) := by
    rw [faultsByEra, getRoute_of_get ((pathParam_append _ ["faults"] _).trans (Decimal.parseU64_toString _)) rfl,
      getFaultsByEra, fetchAll_of_mem hmem]
    rfl
  rw [show (restRoutes store).drop 10 = faultsByPublicKey store :: faultsByEra store :: _ from rfl,
    Route.first_cons_of_error hkeyRoute, Route.first_cons_of_ok heraRoute]
  rfl

/-- `signatures/<block hash>` answers every finality signature of the block. -/
theorem restResponse_finalitySignatures {store : EventStore} {row : Row} (hrow : row ∈ store.tables.rows)
    {blockHash : BlockHash} {publicKey : PublicKey}
    (hkey : IndexKey.finalitySignature blockHash publicKey ∈ row.keys) :
    ∃ rows, restResponse store ⟨true, ["signatures", blockHash.inner.hexText]⟩ =
      .ok (.finalitySignatures rows) ∧ row ∈ rows := by
  have hmem := mem_selectWhereHex hrow hkey (rfl : IndexKey.finalitySignatureBlockHash _ = _)
  have hread : getFinalitySignaturesByBlock store (hexEncode blockHash.inner.bytes.toList) =
      .ok (selectWhereHex store IndexKey.finalitySignatureBlockHash (hexEncode blockHash.inner.bytes.toList)) :=
    fetchAll_of_mem hmem
  refine ⟨_, Route.recover_eq_ok_iff.mpr (combinedFilters_of_first_ok 12 (by
    simp [restRoutes, rootFilter, rootAndInvalidPath, stringParam, latestBlock, blockByHash,
      blockByHeight, deployByHash, deployAcceptedByHash, deployProcessedByHash, deployExpiredByHash,
      stepByEra, faultsByPublicKey, faultsByEra, getRoute, pathParam, pathExact]) ?_), hmem⟩
  rw [show (restRoutes store).drop 12 = finalitySignaturesByBlock store :: _ from rfl]
  exact Route.first_cons_of_ok (hashRoute_eq_ok ["signatures"] hread)

/-- Every stored row of an event of a stored kind is served at the event's path, in
every state of the store. -/
theorem restResponse_of_record {store : EventStore} {data : SseData} {eventTypeId : EventTypeId}
    {eventKey : EventKey} {row : Row} (hrecord : data.record? = some (eventTypeId, eventKey, row))
    (hrow : row ∈ store.tables.rows) {path : List String} (hpath : data.restPath? = some path) :
    ∃ reply, restResponse store ⟨true, path⟩ = .ok reply ∧ reply.serves row = true := by
  cases data with
  | blockAdded blockHash block =>
      cases hrecord
      cases hpath
      exact ⟨_, restResponse_block_at_height hrow List.mem_cons_self, by simp [RestReply.serves]⟩
  | deployAccepted deploy =>
      cases hrecord
      cases hpath
      exact ⟨_, restResponse_deployAccepted hrow List.mem_cons_self, by simp [RestReply.serves]⟩
  | deployProcessed deployHash =>
      cases hrecord
      cases hpath
      exact ⟨_, restResponse_deployProcessed hrow List.mem_cons_self, by simp [RestReply.serves]⟩
  | deployExpired deployHash =>
      cases hrecord
      cases hpath
      exact ⟨_, restResponse_deployExpired hrow List.mem_cons_self, by simp [RestReply.serves]⟩
  | fault eraId publicKey =>
      cases hrecord
      cases hpath
      obtain ⟨rows, hresponse, hmem⟩ := restResponse_faults hrow List.mem_cons_self
      exact ⟨_, hresponse, by simpa [RestReply.serves] using hmem⟩
  | finalitySignature signature =>
      cases hrecord
      cases hpath
      obtain ⟨rows, hresponse, hmem⟩ := restResponse_finalitySignatures hrow List.mem_cons_self
      exact ⟨_, hresponse, by simpa [RestReply.serves] using hmem⟩
  | step eraId =>
      cases hrecord
      cases hpath
      exact ⟨_, restResponse_step hrow List.mem_cons_self, by simp [RestReply.serves]⟩
  | apiVersion | sidecarVersion | shutdown => cases hrecord

/-- **Every event sent downstream is served by the REST API.**  In every run of the
sidecar's handlers over any database, each event of a stored kind on the outbound channel
is answered at its path: a block at `/block/<height>`, a deploy event at
`/deploy/accepted|processed|expired/<hash>` and a step at `/step/<era>` with the row its save
stored, and a fault at `/faults/<era>` and a finality signature at
`/signatures/<block hash>` with a list that holds it. -/
theorem sent_events_served {store : EventStore} {s : Sidecar} (hs : s.Reachable store)
    {m : OutboundMessage} (hm : m ∈ s.outbound) {path : List String} (hpath : m.1.restPath? = some path)
    {row : Row} (hrow : tableRow? m = some row) :
    ∃ reply, restResponse s.store ⟨true, path⟩ = .ok reply ∧ reply.serves row = true := by
  -- the event's row was committed before the event was sent
  have hstored : row ∈ s.store.tables.rows := hs.mem_rows_of_sent hm hrow
  obtain ⟨record, hrecord, rfl⟩ := Option.map_eq_some_iff.mp hrow
  exact restResponse_of_record hrecord hstored hpath

/-- A deploy a node reports, once sent. -/
theorem sent_events_served_accepted_deploy :
    ∃ s : Sidecar, s.Reachable .empty ∧ ∃ m ∈ s.outbound,
      m.1 = .deployAccepted ⟨⟨⟨Vector.replicate 32 7⟩⟩⟩ ∧
      ∃ reply, restResponse s.store
          ⟨true, ["deploy", "accepted", (⟨Vector.replicate 32 7⟩ : Digest).hexText]⟩ = .ok reply ∧
        reply.serves ⟨.deployAccepted, [.deployAccepted ⟨⟨Vector.replicate 32 7⟩⟩]⟩ = true := by
  obtain ⟨s, hs, hp⟩ := @Transition.exists_reachable_of_exec _ _ Sidecar.step (.init .empty)
    [.handle ⟨1, .deployAccepted ⟨⟨⟨Vector.replicate 32 7⟩⟩⟩, "http://10.0.0.1:9999", none, .main⟩
      false 0 0, .send 0]
    (fun s => s.outbound.any fun m => m.1 == .deployAccepted ⟨⟨⟨Vector.replicate 32 7⟩⟩⟩)
    (by decide)
  obtain ⟨m, hm, hsent⟩ := List.any_eq_true.mp hp
  have hdeploy : m.1 = .deployAccepted ⟨⟨⟨Vector.replicate 32 7⟩⟩⟩ := beq_iff_eq.mp hsent
  have hpath : m.1.restPath? = some ["deploy", "accepted", (⟨Vector.replicate 32 7⟩ : Digest).hexText] := by
    rw [hdeploy]
    rfl
  have hrow : tableRow? m = some ⟨.deployAccepted, [.deployAccepted ⟨⟨Vector.replicate 32 7⟩⟩]⟩ := by
    simp [tableRow?, hdeploy, SseData.record?]
  exact ⟨s, hs, m, hm, hdeploy, sent_events_served hs hm hpath hrow⟩

end CasperSidecar
