import Mathlib
import CasperSidecar.Lib.Decimal
import CasperSidecar.Listener.SseConnector
import CasperSidecar.Listener.AttemptLoop
import CasperSidecar.Sidecar.EventHandling

/-!
# Listener.ConnectionManager

One `DefaultConnectionManager` (`listener/src/connection_manager.rs`) run to its
end, and what `do_connect` (`listener/src/lib.rs`) makes of the tasks' results.

`start_handling` connects through the connector, reads the first message, which
must be an `ApiVersion` (`consume_api_version`), sends it downstream with id `0`,
registers its success or failure with the shared `ConnectionTasks`, waits for the
other filters, and then reads the stream (`handle_stream`): each event's id, when it
parses as a `u32`, becomes `current_event_id` and is reported to the registry, and
`handle_event` sends the event downstream with that id (`0` when it does not parse).
A stream error, the end of the stream or an event that does not deserialize ends
the run.  What the manager does is kept as the list of its effects, in order.

What the connector returns, the node's stream, what `tasks.wait()` returns and the
JSON decoder (`serde_json::from_str::<SseData>`) are free inputs.  Sends on the
channels are taken to succeed: the registry and the sidecar's processors hold their
receivers for the whole run.

* `doStartHandling_isError` — `start_handling` never returns `Ok`, so `do_connect`
  never returns `ConnectOutcome::SystemReconnect` (`doConnectOutcome_connectionLost`);
* `handleStream_effects` — the effects of `handle_stream` in closed form;
* `doStartHandling_initialConnectionError` — the recoverable error is returned only
  by a manager that sent and reported nothing.
-/

namespace CasperSidecar

/-! ## The stream -/

/-- `eventsource_stream::Event` as the manager reads it: its `id` and `data` fields. -/
structure StreamEvent where
  id : String
  data : String
deriving DecidableEq

/-- An item of the stream the connector returns (`EventResult`): an event, or an error
of the stream (a failed read, a malformed event, or the keep-alive monitor's
`NoDataTimeout`), whose content only goes into a message. -/
abbrev EventResult := Except Unit StreamEvent

/-- `str::contains`: some suffix of the text starts with the pattern. -/
def containsText (haystack needle : String) : Bool :=
  haystack.toList.tails.any needle.toList.isPrefixOf

/-- `API_VERSION`. -/
def apiVersionText : String := "ApiVersion"

/-- `sse_data::deserialize`: `serde_json::from_str::<SseData>`, here `decode`, with
`needs_raw_json` always `false`. -/
def deserialize (decode : String → Option SseData) (jsonRaw : String) :
    Except Unit (SseData × Bool) :=
  match decode jsonRaw with
  | some sseData => .ok (sseData, false)
  | none => .error ()

/-- What a manager does that the rest of the listener sees, in order. -/
inductive ManagerEffect where
  /-- `current_event_id_sender.send((filter, id))`. -/
  | report (filter : Filter) (id : UInt32)
  /-- `sse_event_sender.send(sse_event)`. -/
  | send (event : SseEvent)
  /-- `tasks.register_success()`. -/
  | registerSuccess
  /-- `tasks.register_failure()`. -/
  | registerFailure
deriving DecidableEq

/-- The id a report carries. -/
def ManagerEffect.reportedId? : ManagerEffect → Option UInt32
  | .report _ id => some id
  | _ => none

/-- The fields of a `DefaultConnectionManager` that `start_handling` reads, and the
decoder of the JSON it receives. -/
structure ConnectionManager where
  bindAddress : String
  filter : Filter
  /-- Whether `maybe_tasks` is `Some`: partial connections are not allowed. -/
  hasTasks : Bool
  decode : String → Option SseData

namespace ConnectionManager

variable (m : ConnectionManager)

/-! ## `start_handling` -/

/-- `handle_event`: an event that deserializes is sent downstream with its id, `0` when
the id does not parse; one that does not is an error. -/
def handleEvent (event : StreamEvent) : Except Unit SseEvent :=
  match deserialize m.decode event.data with
  | .error _ => .error ()
  | .ok (sseData, needsRawJson) =>
      .ok ⟨(Decimal.parseU32 event.id).getD 0, sseData, m.bindAddress,
        if needsRawJson then some event.data else none, m.filter⟩

/-- The id step of `handle_stream`: an id that parses becomes `current_event_id` and is
reported to the registry. -/
def observeId (currentEventId : Option UInt32) (event : StreamEvent) :
    List ManagerEffect × Option UInt32 :=
  match Decimal.parseU32 event.id with
  | some id => ([.report m.filter id], some id)
  | none => ([], currentEventId)

/-- `handle_stream` from `current_event_id`: the effects, the last `current_event_id`,
and the result.  Its stream ends, fails, or carries an event that does not
deserialize; each ends it with a `NonRecoverableError`. -/
def handleStream (currentEventId : Option UInt32) :
    List EventResult → List ManagerEffect × Option UInt32 × Except ConnectionManagerError Unit
  | [] => ([], currentEventId, .error .nonRecoverableError)
  | .error _ :: _ => ([], currentEventId, .error .nonRecoverableError)
  | .ok event :: rest =>
      let observed := m.observeId currentEventId event
      match m.handleEvent event with
      | .error _ => (observed.1, observed.2, .error .nonRecoverableError)
      | .ok sseEvent =>
          let next := handleStream observed.2 rest
          (observed.1 ++ .send sseEvent :: next.1, next.2)

/-- `try_handle_api_version_message`: an `ApiVersion` is sent downstream with id `0`
and the rest of the stream is handed back; any other data is an error. -/
def tryHandleApiVersionMessage (event : StreamEvent) (rest : List EventResult) :
    List ManagerEffect × Except ConnectionManagerError (List EventResult) :=
  match deserialize m.decode event.data with
  | .ok (.apiVersion semver, _) =>
      ([.send ⟨0, .apiVersion semver, m.bindAddress, none, m.filter⟩], .ok rest)
  | .ok _ => ([], .error .nonRecoverableError)
  | .error _ => ([], .error .nonRecoverableError)

/-- `consume_api_version`: a stream that ends before its first message gives the
recoverable `FIRST_EVENT_EMPTY`; a first message that is not an `ApiVersion` is not
valid. -/
def consumeApiVersion :
    List EventResult → List ManagerEffect × Except ConnectionManagerError (List EventResult)
  | [] => ([], .error .initialConnectionError)
  | .error _ :: _ => ([], .error .nonRecoverableError)
  | .ok event :: rest =>
      if containsText event.data apiVersionText then m.tryHandleApiVersionMessage event rest
      else ([], .error .nonRecoverableError)

/-- `DefaultConnectionManager::connect`: what the connector returns, then
`consume_api_version` on its stream. -/
def connect (connected : Except ConnectionManagerError (List EventResult)) :
    List ManagerEffect × Except ConnectionManagerError (List EventResult) :=
  match connected with
  | .ok stream => m.consumeApiVersion stream
  | .error err => ([], .error err)

/-- `do_start_handling` from `current_event_id`, given what the connector returns and what
`tasks.wait()` would return: the effects, the last `current_event_id`, and the result. -/
def doStartHandling (currentEventId : Option UInt32)
    (connected : Except ConnectionManagerError (List EventResult)) (waitResult : Bool) :
    List ManagerEffect × Option UInt32 × Except ConnectionManagerError Unit :=
  let handshake := m.connect connected
  match handshake.2 with
  | .error err =>
      (handshake.1 ++ (if m.hasTasks then [.registerFailure] else []), currentEventId, .error err)
  | .ok stream =>
      let registered := handshake.1 ++ (if m.hasTasks then [.registerSuccess] else [])
      if m.hasTasks && !waitResult then (registered, currentEventId, .error .nonRecoverableError)
      else
        let run := m.handleStream currentEventId stream
        (registered ++ run.1, run.2)

/-! ## What `handle_stream` does -/

/-- What `handle_stream` does for one event it reads: report the id when it parses, then
send the event when it deserializes. -/
def eventEffects (event : StreamEvent) : List ManagerEffect :=
  (m.observeId none event).1 ++ ((m.handleEvent event).toOption.map ManagerEffect.send).toList

/-- The events `handle_stream` reads: those before the first stream error, up to the
first that does not deserialize, that one included. -/
def readEvents : List EventResult → List StreamEvent
  | [] => []
  | .error _ :: _ => []
  | .ok event :: rest => event :: if (m.handleEvent event).isOk then readEvents rest else []

theorem observeId_fst (currentEventId : Option UInt32) (event : StreamEvent) :
    (m.observeId currentEventId event).1 = (m.observeId none event).1 := by
  unfold observeId
  cases Decimal.parseU32 event.id <;> rfl

/-- The step of `handle_stream` on an event that deserializes. -/
theorem handleStream_of_ok {currentEventId : Option UInt32} {event : StreamEvent}
    {sseEvent : SseEvent} (hevent : m.handleEvent event = .ok sseEvent) (rest : List EventResult) :
    m.handleStream currentEventId (.ok event :: rest) =
      ((m.observeId currentEventId event).1 ++ .send sseEvent ::
          (m.handleStream (m.observeId currentEventId event).2 rest).1,
        (m.handleStream (m.observeId currentEventId event).2 rest).2) := by
  rw [handleStream, hevent]

/-- The step of `handle_stream` on an event that does not deserialize: it ends there. -/
theorem handleStream_of_error {currentEventId : Option UInt32} {event : StreamEvent}
    (hevent : m.handleEvent event = .error ()) (rest : List EventResult) :
    m.handleStream currentEventId (.ok event :: rest) =
      ((m.observeId currentEventId event).1, (m.observeId currentEventId event).2,
        .error .nonRecoverableError) := by
  rw [handleStream, hevent]

theorem eventEffects_of_ok {event : StreamEvent} {sseEvent : SseEvent}
    (hevent : m.handleEvent event = .ok sseEvent) :
    m.eventEffects event = (m.observeId none event).1 ++ [.send sseEvent] := by
  rw [eventEffects, hevent]
  rfl

theorem eventEffects_of_error {event : StreamEvent} (hevent : m.handleEvent event = .error ()) :
    m.eventEffects event = (m.observeId none event).1 := by
  rw [eventEffects, hevent]
  exact List.append_nil _

/-- **The effects of `handle_stream`**: for each event it reads, in order, the report of
its id when the id parses, then the event sent downstream when it deserializes. -/
theorem handleStream_effects (currentEventId : Option UInt32) (stream : List EventResult) :
    (m.handleStream currentEventId stream).1 = (m.readEvents stream).flatMap m.eventEffects := by
  induction stream generalizing currentEventId with
  | nil => rfl
  | cons item rest ih =>
      cases item with
      | error e => rfl
      | ok event =>
          cases hevent : m.handleEvent event with
          | error e =>
              -- the event is read and ends the stream
              rw [handleStream_of_error m hevent, readEvents, hevent]
              show (m.observeId currentEventId event).1 = [event].flatMap m.eventEffects
              rw [List.flatMap_singleton, eventEffects_of_error m hevent, observeId_fst]
          | ok sseEvent =>
              rw [handleStream_of_ok m hevent, ih, readEvents, hevent]
              show _ = (event :: m.readEvents rest).flatMap m.eventEffects
              rw [List.flatMap_cons, eventEffects_of_ok m hevent, observeId_fst, List.append_assoc]
              rfl

/-- `handle_stream` returns only with an error. -/
theorem handleStream_result (currentEventId : Option UInt32) (stream : List EventResult) :
    (m.handleStream currentEventId stream).2.2 = .error .nonRecoverableError := by
  induction stream generalizing currentEventId with
  | nil => rfl
  | cons item rest ih =>
      cases item with
      | error e => rfl
      | ok event =>
          cases hevent : m.handleEvent event with
          | error e => rw [handleStream_of_error m hevent]
          | ok sseEvent =>
              rw [handleStream_of_ok m hevent]
              exact ih _

/-! ## The ids a manager reports -/

theorem handleEvent_isOk_iff (event : StreamEvent) :
    (m.handleEvent event).isOk ↔ (m.decode event.data).isSome := by
  unfold handleEvent deserialize
  cases m.decode event.data <;> simp [Except.isOk, Except.toBool]

/-- On a stream of events that all deserialize, `handle_stream` reads every event. -/
theorem readEvents_of_isOk {events : List StreamEvent}
    (h : ∀ event ∈ events, (m.handleEvent event).isOk) :
    m.readEvents (events.map .ok) = events := by
  induction events with
  | nil => rfl
  | cons event rest ih =>
      have hrest := ih fun e he => h e (List.mem_cons_of_mem _ he)
      rw [List.map_cons, readEvents, if_pos (h event List.mem_cons_self), hrest]

/-- An event's effects report the id it parses to, and no other. -/
theorem eventEffects_reportedIds (event : StreamEvent) :
    (m.eventEffects event).filterMap ManagerEffect.reportedId? = (Decimal.parseU32 event.id).toList := by
  unfold eventEffects observeId
  cases Decimal.parseU32 event.id <;> cases m.handleEvent event <;> rfl

/-- The ids `handle_stream` reports: those of the events it reads that parse, in order. -/
theorem handleStream_reportedIds (currentEventId : Option UInt32) (stream : List EventResult) :
    (m.handleStream currentEventId stream).1.filterMap ManagerEffect.reportedId? =
      (m.readEvents stream).filterMap fun event => Decimal.parseU32 event.id := by
  rw [handleStream_effects, List.filterMap_flatMap, List.filterMap_eq_flatMap_toList]
  simp only [eventEffects_reportedIds]

/-! ## The handshake -/

/-- `try_handle_api_version_message` either sends the node's `ApiVersion` with id `0` and
hands on the rest of the stream, or fails having sent nothing. -/
theorem tryHandleApiVersionMessage_cases (event : StreamEvent) (rest : List EventResult) :
    (∃ semver, m.tryHandleApiVersionMessage event rest =
        ([.send ⟨0, .apiVersion semver, m.bindAddress, none, m.filter⟩], .ok rest)) ∨
      m.tryHandleApiVersionMessage event rest = ([], .error .nonRecoverableError) := by
  unfold tryHandleApiVersionMessage
  split
  · exact .inl ⟨_, rfl⟩
  · exact .inr rfl
  · exact .inr rfl

/-- **The handshake's three outcomes**: the node's `ApiVersion` is sent with id `0` and
nothing else; or it fails with a `NonRecoverableError` having sent nothing; or, when the
connector gave up or the stream ended before its first message, it fails with an
`InitialConnectionError` having sent nothing. -/
theorem connect_cases (connected : Except ConnectionManagerError (List EventResult)) :
    (∃ semver stream, m.connect connected =
        ([.send ⟨0, .apiVersion semver, m.bindAddress, none, m.filter⟩], .ok stream)) ∨
      m.connect connected = ([], .error .nonRecoverableError) ∨
      ((connected = .error .initialConnectionError ∨ connected = .ok []) ∧
        m.connect connected = ([], .error .initialConnectionError)) := by
  match connected with
  | .error .nonRecoverableError => exact .inr (.inl rfl)
  | .error .initialConnectionError => exact .inr (.inr ⟨.inl rfl, rfl⟩)
  | .ok [] => exact .inr (.inr ⟨.inr rfl, rfl⟩)
  | .ok (.error _ :: _) => exact .inr (.inl rfl)
  | .ok (.ok event :: rest) =>
      -- only a first message naming the `ApiVersion` goes on to be decoded
      have hconsume : m.connect (.ok (.ok event :: rest)) =
          if containsText event.data apiVersionText then m.tryHandleApiVersionMessage event rest
          else ([], .error .nonRecoverableError) := rfl
      rw [hconsume]
      split
      · rcases m.tryHandleApiVersionMessage_cases event rest with ⟨semver, hsent⟩ | hfailed
        · exact .inl ⟨semver, rest, hsent⟩
        · exact .inr (.inl hfailed)
      · exact .inr (.inl rfl)

/-! ## How `start_handling` returns -/

/-- `do_start_handling` after a successful handshake. -/
theorem doStartHandling_of_connected {currentEventId : Option UInt32}
    {connected : Except ConnectionManagerError (List EventResult)} {waitResult : Bool}
    {stream : List EventResult} (h : (m.connect connected).2 = .ok stream) :
    m.doStartHandling currentEventId connected waitResult =
      if m.hasTasks && !waitResult then
        ((m.connect connected).1 ++ (if m.hasTasks then [.registerSuccess] else []), currentEventId,
          .error .nonRecoverableError)
      else
        ((m.connect connected).1 ++ (if m.hasTasks then [.registerSuccess] else []) ++
            (m.handleStream currentEventId stream).1,
          (m.handleStream currentEventId stream).2) := by
  dsimp only [doStartHandling]
  rw [h]

/-- `do_start_handling` after a failed handshake. -/
theorem doStartHandling_of_not_connected {currentEventId : Option UInt32}
    {connected : Except ConnectionManagerError (List EventResult)} {waitResult : Bool}
    {err : ConnectionManagerError} (h : m.connect connected = ([], .error err)) :
    m.doStartHandling currentEventId connected waitResult =
      ((if m.hasTasks then [.registerFailure] else []), currentEventId, .error err) := by
  dsimp only [doStartHandling]
  rw [h, List.nil_append]

/-- **`start_handling` never returns `Ok`**: whatever the connector, the node's stream,
the other filters and the decoder do, the run ends with an error. -/
theorem doStartHandling_isError (currentEventId : Option UInt32)
    (connected : Except ConnectionManagerError (List EventResult)) (waitResult : Bool) :
    ∃ err, (m.doStartHandling currentEventId connected waitResult).2.2 = .error err := by
  rcases m.connect_cases connected with ⟨semver, stream, hsent⟩ | hfailed | ⟨_, hfailed⟩
  · rw [m.doStartHandling_of_connected (congrArg Prod.snd hsent)]
    split
    · exact ⟨_, rfl⟩
    · exact ⟨_, m.handleStream_result currentEventId stream⟩
  · rw [m.doStartHandling_of_not_connected hfailed]
    exact ⟨_, rfl⟩
  · rw [m.doStartHandling_of_not_connected hfailed]
    exact ⟨_, rfl⟩

/-- **The recoverable error comes only from a manager that did nothing**: when
`start_handling` returns an `InitialConnectionError` (the connector gave up on it, or
the stream ended before its first message), the manager sent nothing downstream and
reported no id; it only registered its failure. -/
theorem doStartHandling_initialConnectionError {currentEventId : Option UInt32}
    {connected : Except ConnectionManagerError (List EventResult)} {waitResult : Bool}
    (h : (m.doStartHandling currentEventId connected waitResult).2.2 = .error .initialConnectionError) :
    (connected = .error .initialConnectionError ∨ connected = .ok []) ∧
      (m.doStartHandling currentEventId connected waitResult).1 =
        if m.hasTasks then [.registerFailure] else [] := by
  rcases m.connect_cases connected with ⟨semver, stream, hsent⟩ | hfailed | ⟨hconnected, hfailed⟩
  · -- after the handshake every error is a `NonRecoverableError`
    rw [m.doStartHandling_of_connected (congrArg Prod.snd hsent)] at h
    split at h
    · cases h
    · rw [m.handleStream_result] at h
      cases h
  · rw [m.doStartHandling_of_not_connected hfailed] at h
    cases h
  · rw [m.doStartHandling_of_not_connected hfailed]
    exact ⟨hconnected, rfl⟩

end ConnectionManager

/-! ## What `do_connect` makes of the tasks -/

/-- The error `SseConnection::connect` returns, as the manager sees it. -/
def ConnectFailure.error : ConnectFailure → ConnectionManagerError
  | .returned err => err
  | .couldntConnect kind _ => kind

/-- What `connector.connect(current_event_id)` hands the manager: the node's stream
once a call of `internal_connect` succeeded, or the error `connect` gives up with. -/
def connectorResult (maxAttempts : Nat) (internalConnect : Nat → Except ConnectionManagerError Unit)
    (stream : List EventResult) : Except ConnectionManagerError (List EventResult) :=
  match (SseConnection.connect maxAttempts internalConnect).2 with
  | .ok () => .ok stream
  | .error failure => .error failure.error

/-- What awaiting a manager's `JoinHandle` gives: the result of `start_handling`, or a
`JoinError` when the task panicked. -/
abbrev JoinResult := Except Unit (Except ConnectionManagerError Unit)

/-- `do_connect` without partial connections, on the task `select_all` returns first. -/
def selectAllOutcome (taskResult : JoinResult) : ConnectOutcome :=
  match taskResult with
  | .ok res => if res matches .error _ then .connectionLost else .systemReconnect
  | .error _ => .connectionLost

/-- `allow_partial_connection_wait` over the tasks in the order they finish: a `JoinError`
or a `NonRecoverableError` loses the connection, `Ok` asks for a reconnect, and an
`InitialConnectionError` waits for the others while some are left.  `none` where
`select_all` would be given no task. -/
def allowPartialConnectionWait : List JoinResult → Option ConnectOutcome
  | [] => none
  | taskResult :: futuresLeft =>
      match taskResult with
      | .error _ => some .connectionLost
      | .ok (.ok ()) => some .systemReconnect
      | .ok (.error .nonRecoverableError) => some .connectionLost
      | .ok (.error .initialConnectionError) =>
          if futuresLeft.isEmpty then some .connectionLost
          else allowPartialConnectionWait futuresLeft

/-- The outcome `do_connect` returns once its connections are built, from the tasks'
results in the order they finish. -/
def doConnectOutcome (allowPartialConnection : Bool) (finished : List JoinResult) :
    Option ConnectOutcome :=
  if allowPartialConnection then allowPartialConnectionWait finished
  else
    match finished with
    | [] => none
    | first :: _ => some (selectAllOutcome first)

/-- A result `select_all` can give: the task panicked, or some manager's `start_handling`
returned. -/
def IsTaskResult (taskResult : JoinResult) : Prop :=
  taskResult = .error () ∨
    ∃ (m : ConnectionManager) (currentEventId : Option UInt32)
      (connected : Except ConnectionManagerError (List EventResult)) (waitResult : Bool),
      taskResult = .ok (m.doStartHandling currentEventId connected waitResult).2.2

theorem IsTaskResult.ne_ok {taskResult : JoinResult} (h : IsTaskResult taskResult) :
    taskResult ≠ .ok (.ok ()) := by
  rcases h with rfl | ⟨m, currentEventId, connected, waitResult, rfl⟩
  · intro hok
    cases hok
  · obtain ⟨err, herr⟩ := m.doStartHandling_isError currentEventId connected waitResult
    rw [herr]
    intro hok
    cases hok

/-- `allow_partial_connection_wait` loses the connection once no task asks for a
reconnect: each `InitialConnectionError` passes on to the rest, and the last one ends
the wait. -/
theorem allowPartialConnectionWait_of_ne_ok {finished : List JoinResult}
    (hfinished : ∀ taskResult ∈ finished, taskResult ≠ .ok (.ok ())) (hnonempty : finished ≠ []) :
    allowPartialConnectionWait finished = some .connectionLost := by
  induction finished with
  | nil => exact absurd rfl hnonempty
  | cons taskResult futuresLeft ih =>
      have hhead := hfinished taskResult List.mem_cons_self
      have hrest : ∀ r ∈ futuresLeft, r ≠ .ok (.ok ()) :=
        fun r hr => hfinished r (List.mem_cons_of_mem _ hr)
      match taskResult, hhead with
      | .error _, _ => rfl
      | .ok (.ok ()), hhead => exact absurd rfl hhead
      | .ok (.error .nonRecoverableError), _ => rfl
      | .ok (.error .initialConnectionError), _ =>
          show (if futuresLeft.isEmpty then some .connectionLost
            else allowPartialConnectionWait futuresLeft) = _
          split
          · rfl
          · rename_i hleft
            exact ih hrest (fun hnil => hleft (hnil ▸ rfl))

/-- **`do_connect` never asks for a system reconnect**: whatever the tasks do and in
whatever order they finish, once one has finished `do_connect` returns
`ConnectOutcome::ConnectionLost`, with or without partial connections, since no
`start_handling` returns `Ok`. -/
theorem doConnectOutcome_connectionLost (allowPartialConnection : Bool)
    {finished : List JoinResult} (hfinished : ∀ taskResult ∈ finished, IsTaskResult taskResult)
    (hnonempty : finished ≠ []) :
    doConnectOutcome allowPartialConnection finished = some .connectionLost := by
  unfold doConnectOutcome
  split
  · exact allowPartialConnectionWait_of_ne_ok (fun r hr => (hfinished r hr).ne_ok) hnonempty
  · match finished, hnonempty with
    | first :: _, _ =>
        have hfirst := (hfinished first List.mem_cons_self).ne_ok
        show some (selectAllOutcome first) = _
        unfold selectAllOutcome
        match first, hfirst with
        | .error _, _ => rfl
        | .ok (.error _), _ => rfl
        | .ok (.ok ()), hfirst => exact absurd rfl hfirst

/-- Three managers of one `do_connect` with partial connections: the first stream ends
after the handshake, the second never connects, the third is given a stream that never
starts. -/
theorem doConnectOutcome_connectionLost_three_filters :
    let m : Filter → ConnectionManager := fun filter => ⟨"127.0.0.1:18101", filter, false, fun _ => some (.apiVersion (.fromParts 2 0 0))⟩
    let version : EventResult := .ok ⟨"", "\x7b\"ApiVersion\":\"2.0.0\"\x7d"⟩
    let finished : List JoinResult :=
      [.ok ((m .main).doStartHandling none (.ok []) true).2.2,
        .ok ((m .sigs).doStartHandling (some 3) (.error .initialConnectionError) true).2.2,
        .ok ((m .deploys).doStartHandling none (.ok [version]) true).2.2]
    (∀ taskResult ∈ finished, IsTaskResult taskResult) ∧ finished ≠ [] ∧
      doConnectOutcome true finished = some .connectionLost := by
  intro m version finished
  have hfinished : ∀ taskResult ∈ finished, IsTaskResult taskResult := by
    intro taskResult hmem
    simp only [finished, List.mem_cons, List.not_mem_nil, or_false] at hmem
    rcases hmem with rfl | rfl | rfl
    · exact .inr ⟨_, _, _, _, rfl⟩
    · exact .inr ⟨_, _, _, _, rfl⟩
    · exact .inr ⟨_, _, _, _, rfl⟩
  exact ⟨hfinished, List.cons_ne_nil _ _, doConnectOutcome_connectionLost true hfinished (List.cons_ne_nil _ _)⟩

end CasperSidecar
