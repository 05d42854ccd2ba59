import Mathlib
import CasperSidecar.Lib.Transition
import CasperSidecar.Types.SseData

/-!
# Listener.EventListener

The listener of one node (`listener/src/lib.rs`, `connections_builder.rs`,
`connection_manager.rs`, `connection_tasks.rs`), as one system of concurrent
parties:

* the loop of `stream_aggregated_events`: `get_version`, then `do_connect`,
  which builds one `DefaultConnectionManager` per filter of
  `filters_from_version`, each starting from the registry's last event id for
  its filter (`0` when none), spawns them (`start_connections`) and waits in
  `select_all` for the first to finish (or, with partial connections allowed,
  loops in `allow_partial_connection_wait`);
* every connection-manager task ever spawned: dropping a `JoinHandle` detaches
  its task and does not stop it, so `tasks` only grows;
* the `ConnectionTasks` shared by the tasks of one `do_connect` when partial
  connections are not allowed;
* the task of `start_last_event_id_registry`, which moves the ids the managers
  report through its channel (capacity 10) into the map `build_connections`
  reads;
* the node, whose stream for a filter delivers, after a connection with
  `start_from = k`, its retained events with id `≥ k` in increasing id order
  and then every event it publishes; it may stop retaining its oldest events.

A manager reports an event's id to the registry before `handle_event` sends the
event downstream on `sse_event_sender` (`handed`).  Payloads, error messages,
the keep-alive monitor and the metrics are left out; a payload is kept as
whether it deserializes.
-/

namespace CasperSidecar

/-! ## The node's filter streams -/

/-- An event the node publishes on a filter: its id, and whether its data
deserializes. -/
structure NodeEvent where
  id : UInt32
  deserializes : Bool
deriving DecidableEq

/-- The node's stream of one filter: the events it published, oldest first, at
strictly increasing ids, of which it no longer retains the first `evicted`. -/
structure NodeFilter where
  events : List NodeEvent
  evicted : Nat
  ids_increasing : (events.map NodeEvent.id).Pairwise (· < ·)
  evicted_le : evicted ≤ events.length

/-- A filter on which nothing was published yet. -/
def NodeFilter.empty : NodeFilter := ⟨[], 0, List.Pairwise.nil, le_refl 0⟩

/-- The events the node still retains. -/
def NodeFilter.retained (node : NodeFilter) : List NodeEvent :=
  node.events.drop node.evicted

/-- Where a connection with `start_from = k` starts reading: the first retained event
with id `≥ k`, or the end when there is none yet. -/
def NodeFilter.startPosition (node : NodeFilter) (startFrom : UInt32) : Nat :=
  node.evicted + (node.retained.takeWhile fun event => event.id < startFrom).length

/-- The node publishes an event, at an id above every earlier one. -/
def NodeFilter.publish (node : NodeFilter) (event : NodeEvent) : Option NodeFilter :=
  if h : ∀ e ∈ node.events, e.id < event.id then
    some ⟨node.events ++ [event], node.evicted, by
      rw [List.map_append, List.pairwise_append]
      refine ⟨node.ids_increasing, by simp, ?_⟩
      intro a ha b hb
      obtain ⟨e, he, rfl⟩ := List.mem_map.mp ha
      simp only [List.map_cons, List.map_nil, List.mem_singleton] at hb
      exact hb ▸ h e he, by
      rw [List.length_append]
      exact Nat.le_add_right_of_le node.evicted_le⟩
  else none

/-- The node stops retaining its oldest retained event. -/
def NodeFilter.evict (node : NodeFilter) : NodeFilter :=
  { node with evicted := min (node.evicted + 1) node.events.length, evicted_le := min_le_right _ _ }

/-! ### How the node's streams change -/

/-- How a filter's stream changes: events are only published after the others, and
the retained ones only shrink from the front. -/
structure NodeFilter.Grows (node node' : NodeFilter) : Prop where
  events_prefix : node.events <+: node'.events
  evicted_le : node.evicted ≤ node'.evicted

theorem NodeFilter.Grows.refl (node : NodeFilter) : node.Grows node :=
  ⟨List.prefix_refl _, le_refl _⟩

theorem NodeFilter.grows_publish {node node' : NodeFilter} {event : NodeEvent}
    (h : node.publish event = some node') : node.Grows node' := by
  unfold NodeFilter.publish at h
  split at h
  · cases h
    exact ⟨List.prefix_append _ _, le_refl _⟩
  · cases h

theorem NodeFilter.grows_evict (node : NodeFilter) : node.Grows node.evict := by
  refine ⟨List.prefix_refl _, ?_⟩
  show node.evicted ≤ min (node.evicted + 1) node.events.length
  have := node.evicted_le
  omega

/-- Growing one filter's stream grows every filter's. -/
theorem NodeFilter.Grows.update {nodes : Filter → NodeFilter} {filter : Filter}
    {node : NodeFilter} (h : (nodes filter).Grows node) (g : Filter) :
    (nodes g).Grows (Function.update nodes filter node g) := by
  by_cases hg : g = filter
  · subst hg
    simpa using h
  · simpa [Function.update_of_ne hg] using NodeFilter.Grows.refl (nodes g)

/-! ## Connection managers -/

/-- `ConnectionManagerError`; the error messages are left out. -/
inductive ConnectionManagerError where
  | nonRecoverableError
  | initialConnectionError
deriving DecidableEq, Repr

/-- Where a `DefaultConnectionManager`'s `start_handling` is; positions index the
node's events of the manager's filter. -/
inductive ManagerPhase where
  /-- `connect`: the connector's connection and the `ApiVersion` it must start with. -/
  | connecting
  /-- Connected, reading from `position`; in `tasks.wait()` for the other filters. -/
  | waiting (position : Nat)
  /-- `handle_stream`, about to read the event at `position`. -/
  | streaming (position : Nat)
  /-- Received the event at `position`; reporting its id to the registry. -/
  | reporting (position : Nat)
  /-- Reported the event at `position`; `handle_event` sending it downstream. -/
  | forwarding (position : Nat)
  /-- `start_handling` returned. -/
  | finished (result : Except ConnectionManagerError Unit)
deriving DecidableEq

/-- A spawned connection-manager task: its filter, its `current_event_id`, the
`ConnectionTasks` it shares with the other tasks of its `do_connect` (when partial
connections are not allowed), and where it is. -/
structure ManagerTask where
  filter : Filter
  currentEventId : Option UInt32
  connectionTasks : Option Nat
  phase : ManagerPhase
deriving DecidableEq

/-- Whether the task is still running, reading the node's stream or about to. -/
def ManagerTask.isRunning (task : ManagerTask) : Bool :=
  match task.phase with
  | .finished _ => false
  | _ => true

/-- `ConnectionTasks`: how many filters one `do_connect` connects to, how many have
connected, and whether one has failed. -/
structure ConnectionTasks where
  total : Nat
  successes : Nat
  failure : Bool
deriving DecidableEq

/-! ## The listener -/

/-- The `EventListenerBuilder` fields the modelled code reads. -/
structure ListenerConfig where
  maxConnectionAttempts : Nat
  allowPartialConnection : Bool

/-- What `version_fetcher.fetch()` returns. -/
inductive FetchResult where
  | ok (version : ProtocolVersion)
  | versionNotAcceptable
  | error

/-- `MINIMAL_NODE_VERSION`. -/
def minimalNodeVersion : ProtocolVersion := .fromParts 1 5 2

/-- `StatusEndpointVersionFetcher::fetch`: the build version `try_resolve_version` reads
from the node's status (`none` when the request, its JSON or the version text fails),
checked by `validate_version`. -/
def statusEndpointFetch (buildVersion : Option ProtocolVersion) : FetchResult :=
  match buildVersion with
  | some version => if version.lt minimalNodeVersion then .versionNotAcceptable else .ok version
  | none => .error

/-- Where `stream_aggregated_events` is. -/
inductive ListenerPhase where
  /-- At the head of its `while` loop. -/
  | attempting
  /-- `get_version` let the attempt go on: `do_connect` is next. -/
  | connecting
  /-- `do_connect` in `select_all` over these tasks' handles. -/
  | selecting (handles : List Nat)
  /-- Returned its error. -/
  | stopped
deriving DecidableEq

/-- The listener, its tasks and the node it listens to. -/
structure EventListener where
  nodeBuildVersion : ProtocolVersion
  currentAttempt : Nat
  phase : ListenerPhase
  /-- Every connection-manager task spawned, oldest first. -/
  tasks : List ManagerTask
  /-- The `ConnectionTasks` of the `do_connect` calls, oldest first. -/
  connectionTasks : List ConnectionTasks
  /-- The registry's map from filter to last seen event id. -/
  lastEventIdForFilter : List (Filter × UInt32)
  /-- The registry's channel, oldest message first. -/
  lastSeenEventIds : List (Filter × UInt32)
  /-- The ids of the events sent on `sse_event_sender`, with their filters, oldest first. -/
  handed : List (Filter × UInt32)
  node : Filter → NodeFilter

/-- The capacity of the registry's channel. -/
def lastSeenEventIdCapacity : Nat := 10

/-- `filters_from_version`: every version is listened to on the same three filters. -/
def filtersFromVersion (_buildVersion : ProtocolVersion) : List Filter := [.main, .sigs, .deploys]

/-- The listener as `EventListenerBuilder::build` and `stream_aggregated_events` start
it, before the loop's first check. -/
def EventListener.init (config : ListenerConfig) (node : Filter → NodeFilter) : EventListener :=
  ⟨.fromParts 1 0 0, 1, if 1 ≤ config.maxConnectionAttempts then .attempting else .stopped,
    [], [], [], [], [], node⟩

/-- The end of one pass of the loop: `current_attempt += 1`, and the loop goes on while
it is at most `max_connection_attempts`. -/
def EventListener.nextAttempt (l : EventListener) (config : ListenerConfig) : EventListener :=
  { l with
    currentAttempt := l.currentAttempt + 1
    phase := if l.currentAttempt + 1 ≤ config.maxConnectionAttempts then .attempting else .stopped }

/-- `get_version` and what the loop does with it: a new version resets the attempts, a
failed fetch retries, a version the sidecar cannot talk to ends the loop. -/
def EventListener.getVersion (l : EventListener) (config : ListenerConfig) (result : FetchResult) :
    EventListener :=
  match result with
  | .ok version =>
      if l.nodeBuildVersion ≠ version then
        { l with nodeBuildVersion := version, currentAttempt := 1, phase := .connecting }
      else { l with phase := .connecting }
  | .error => l.nextAttempt config
  | .versionNotAcceptable => { l with phase := .stopped }

/-- `build_connections` when every manager is built, and `start_connections`: under the
registry's lock one manager per filter, starting from the last event id seen on it (or
`0`), is built and spawned. -/
def EventListener.startConnections (l : EventListener) (config : ListenerConfig) : EventListener :=
  let filters := filtersFromVersion l.nodeBuildVersion
  let maybeTasks := if config.allowPartialConnection then none else some l.connectionTasks.length
  { l with
    tasks := l.tasks ++ filters.map fun filter =>
      ⟨filter, some ((l.lastEventIdForFilter.lookup filter).getD 0), maybeTasks, .connecting⟩
    connectionTasks :=
      if config.allowPartialConnection then l.connectionTasks
      else l.connectionTasks ++ [⟨filters.length, 0, false⟩]
    phase := .selecting ((List.range filters.length).map (l.tasks.length + ·)) }

/-- `do_connect` up to its wait.  `build_connections` returns an error, before any manager
is spawned, when `filtered_sse_url` cannot parse the node's address and port into a URL
(`built` is false); `do_connect` returns it and the loop counts the attempt. -/
def EventListener.doConnect (l : EventListener) (config : ListenerConfig) (built : Bool) :
    EventListener :=
  if built then l.startConnections config else l.nextAttempt config

/-- `select_all` returns the result of the task behind `handle`.  Without partial
connections `do_connect` returns at once; with them `allow_partial_connection_wait`
goes on waiting for the others after an `InitialConnectionError` while some are left.
The remaining handles are dropped; their tasks keep running. -/
def EventListener.select (l : EventListener) (config : ListenerConfig) (handle : Nat) :
    Option EventListener :=
  match l.phase with
  | .selecting handles =>
      if handle ∈ handles then
        match (l.tasks[handle]?).map ManagerTask.phase with
        | some (.finished result) =>
            if config.allowPartialConnection then
              match result with
              | .error .initialConnectionError =>
                  if (handles.erase handle).isEmpty then some (l.nextAttempt config)
                  else some { l with phase := .selecting (handles.erase handle) }
              | _ => some (l.nextAttempt config)
            else some (l.nextAttempt config)
        | _ => none
      else none
  | _ => none

/-- Replace task `k`. -/
def EventListener.setTask (l : EventListener) (k : Nat) (task : ManagerTask) : EventListener :=
  { l with tasks := l.tasks.set k task }

/-- `connect` of task `k` ends: on success the node's stream starts at the task's
`current_event_id` and the task registers its success; on failure it registers its
failure and returns the error. -/
def EventListener.connect (l : EventListener) (k : Nat)
    (result : Except ConnectionManagerError Unit) : Option EventListener :=
  match l.tasks[k]? with
  | some task =>
      match task.phase, result with
      | .connecting, .ok () =>
          let node := l.node task.filter
          let position := match task.currentEventId with
            | some eventId => node.startPosition eventId
            | none => node.events.length
          match task.connectionTasks with
          | some g =>
              some { l.setTask k { task with phase := .waiting position } with
                connectionTasks := l.connectionTasks.modify g fun t => { t with successes := t.successes + 1 } }
          | none => some (l.setTask k { task with phase := .streaming position })
      | .connecting, .error err =>
          match task.connectionTasks with
          | some g =>
              some { l.setTask k { task with phase := .finished (.error err) } with
                connectionTasks := l.connectionTasks.modify g fun t => { t with failure := true } }
          | none => some (l.setTask k { task with phase := .finished (.error err) })
      | _, _ => none
  | none => none

/-- `tasks.wait()` of task `k` returns: `false` once a filter failed to connect, which
ends the task, and `true` once every filter connected. -/
def EventListener.wait (l : EventListener) (k : Nat) : Option EventListener :=
  match l.tasks[k]? with
  | some task =>
      match task.phase, task.connectionTasks with
      | .waiting position, some g =>
          match l.connectionTasks[g]? with
          | some tasks =>
              if tasks.failure then
                some (l.setTask k { task with phase := .finished (.error .nonRecoverableError) })
              else if tasks.total ≤ tasks.successes then
                some (l.setTask k { task with phase := .streaming position })
              else none
          | none => none
      | _, _ => none
  | none => none

/-- `handle_stream` of task `k` receives the next event of its stream and records its
id as `current_event_id`. -/
def EventListener.receive (l : EventListener) (k : Nat) : Option EventListener :=
  match l.tasks[k]? with
  | some task =>
      match task.phase with
      | .streaming position =>
          match (l.node task.filter).events[position]? with
          | some event =>
              some (l.setTask k { task with currentEventId := some event.id, phase := .reporting position })
          | none => none
      | _ => none
  | none => none

/-- The stream of task `k` fails or closes: `handle_stream` returns a non-recoverable
error. -/
def EventListener.streamEnds (l : EventListener) (k : Nat) : Option EventListener :=
  match l.tasks[k]? with
  | some task =>
      match task.phase with
      | .streaming _ => some (l.setTask k { task with phase := .finished (.error .nonRecoverableError) })
      | _ => none
  | none => none

/-- Task `k`'s `current_event_id_sender.send` completes once the registry's channel
has room. -/
def EventListener.report (l : EventListener) (k : Nat) : Option EventListener :=
  match l.tasks[k]? with
  | some task =>
      match task.phase with
      | .reporting position =>
          match (l.node task.filter).events[position]? with
          | some event =>
              if l.lastSeenEventIds.length < lastSeenEventIdCapacity then
                some { l.setTask k { task with phase := .forwarding position } with
                  lastSeenEventIds := l.lastSeenEventIds ++ [(task.filter, event.id)] }
              else none
          | none => none
      | _ => none
  | none => none

/-- Task `k`'s `handle_event`: an event that deserializes is sent downstream and the
stream goes on; one that does not ends the task with a non-recoverable error. -/
def EventListener.forward (l : EventListener) (k : Nat) : Option EventListener :=
  match l.tasks[k]? with
  | some task =>
      match task.phase with
      | .forwarding position =>
          match (l.node task.filter).events[position]? with
          | some event =>
              if event.deserializes then
                some { l.setTask k { task with phase := .streaming (position + 1) } with
                  handed := l.handed ++ [(task.filter, event.id)] }
              else some (l.setTask k { task with phase := .finished (.error .nonRecoverableError) })
          | none => none
      | _ => none
  | none => none

/-- `HashMap::insert` on the registry's map. -/
def registryInsert (map : List (Filter × UInt32)) (filter : Filter) (eventId : UInt32) :
    List (Filter × UInt32) :=
  (filter, eventId) :: map.filter fun entry => entry.1 != filter

/-- The registry task receives the oldest message of its channel and stores it. -/
def EventListener.registerLastSeenEventId (l : EventListener) : Option EventListener :=
  match l.lastSeenEventIds with
  | (filter, eventId) :: rest =>
      some { l with
        lastEventIdForFilter := registryInsert l.lastEventIdForFilter filter eventId
        lastSeenEventIds := rest }
  | [] => none

/-- What happens next: a step of the listener's loop, of a manager task, of the
registry task, or of the node. -/
inductive ListenerAction where
  | getVersion (result : FetchResult)
  /-- `built`: whether `build_connections` built every manager. -/
  | doConnect (built : Bool)
  | select (handle : Nat)
  | connect (task : Nat) (result : Except ConnectionManagerError Unit)
  | wait (task : Nat)
  | receive (task : Nat)
  | streamEnds (task : Nat)
  | report (task : Nat)
  | forward (task : Nat)
  | registerLastSeenEventId
  | publish (filter : Filter) (event : NodeEvent)
  | evict (filter : Filter)

def EventListener.step (config : ListenerConfig) (l : EventListener) :
    ListenerAction → Option EventListener
  | .getVersion result =>
      if l.phase = .attempting then some (l.getVersion config result) else none
  | .doConnect built => if l.phase = .connecting then some (l.doConnect config built) else none
  | .select handle => l.select config handle
  | .connect k result => l.connect k result
  | .wait k => l.wait k
  | .receive k => l.receive k
  | .streamEnds k => l.streamEnds k
  | .report k => l.report k
  | .forward k => l.forward k
  | .registerLastSeenEventId => l.registerLastSeenEventId
  | .publish filter event =>
      (l.node filter |>.publish event).map fun node =>
        { l with node := Function.update l.node filter node }
  | .evict filter => some { l with node := Function.update l.node filter (l.node filter).evict }

/-- The states of any run of the listener, its tasks and the node from `node`. -/
def EventListener.Reachable (config : ListenerConfig) (node : Filter → NodeFilter) :
    EventListener → Prop :=
  Transition.Reachable (EventListener.step config) (.init config node)

/-! ## What each step touches -/

/-- A step of the listener's loop alone: the tasks and their `ConnectionTasks`, the
registry, what was sent and the node stay as they are. -/
structure EventListener.KeepsTasks (l l' : EventListener) : Prop where
  tasks : l'.tasks = l.tasks
  connectionTasks : l'.connectionTasks = l.connectionTasks
  node : l'.node = l.node
  map : l'.lastEventIdForFilter = l.lastEventIdForFilter
  channel : l'.lastSeenEventIds = l.lastSeenEventIds
  handed : l'.handed = l.handed

theorem EventListener.keepsTasks_nextAttempt (l : EventListener) (config : ListenerConfig) :
    l.KeepsTasks (l.nextAttempt config) :=
  ⟨rfl, rfl, rfl, rfl, rfl, rfl⟩

theorem EventListener.keepsTasks_getVersion (l : EventListener) (config : ListenerConfig)
    (result : FetchResult) : l.KeepsTasks (l.getVersion config result) := by
  cases result with
  | ok version =>
      by_cases hversion : l.nodeBuildVersion ≠ version
      · simp only [EventListener.getVersion, if_pos hversion]
        exact ⟨rfl, rfl, rfl, rfl, rfl, rfl⟩
      · simp only [EventListener.getVersion, if_neg hversion]
        exact ⟨rfl, rfl, rfl, rfl, rfl, rfl⟩
  | versionNotAcceptable => exact ⟨rfl, rfl, rfl, rfl, rfl, rfl⟩
  | error => exact l.keepsTasks_nextAttempt config

/-- A fetched version: the count restarts at `1` when the version is new. -/
theorem EventListener.getVersion_ok (l : EventListener) (config : ListenerConfig)
    (version : ProtocolVersion) :
    l.getVersion config (.ok version) =
      { l with
        nodeBuildVersion := version
        currentAttempt := if l.nodeBuildVersion ≠ version then 1 else l.currentAttempt
        phase := .connecting } := by
  by_cases hversion : l.nodeBuildVersion ≠ version
  · simp only [EventListener.getVersion, if_pos hversion]
  · obtain rfl : l.nodeBuildVersion = version := not_not.mp hversion
    simp only [EventListener.getVersion, if_neg hversion]

/-- `select_all` returns while `do_connect` waits: either `do_connect` returns and the loop
moves on, or, with partial connections, it waits on the handles left. -/
theorem EventListener.select_cases {l l' : EventListener} {config : ListenerConfig}
    {handle : Nat} (hstep : l.select config handle = some l') :
    ∃ handles, l.phase = .selecting handles ∧
      (l' = l.nextAttempt config ∨ l' = { l with phase := .selecting (handles.erase handle) }) := by
  unfold EventListener.select at hstep
  split at hstep
  · rename_i handles hphase
    refine ⟨handles, hphase, ?_⟩
    repeat' split at hstep
    all_goals (try simp only [Option.some.injEq] at hstep)
    all_goals (try subst hstep)
    all_goals first
      | cases hstep
      | exact .inl rfl
      | exact .inr rfl
  · cases hstep

theorem EventListener.keepsTasks_of_select {l l' : EventListener} {config : ListenerConfig}
    {handle : Nat} (hstep : l.select config handle = some l') : l.KeepsTasks l' := by
  obtain ⟨handles, -, rfl | rfl⟩ := EventListener.select_cases hstep
  · exact l.keepsTasks_nextAttempt config
  · exact ⟨rfl, rfl, rfl, rfl, rfl, rfl⟩

/-- A step of the loop's `get_version`. -/
theorem EventListener.eq_getVersion_of_step {l l' : EventListener} {config : ListenerConfig}
    {result : FetchResult} (hstep : l.step config (.getVersion result) = some l') :
    l.phase = .attempting ∧ l' = l.getVersion config result := by
  simp only [EventListener.step] at hstep
  split at hstep
  · rename_i hphase
    exact ⟨hphase, (Option.some.inj hstep).symm⟩
  · cases hstep

/-- A step of the loop's `do_connect`, up to its wait. -/
theorem EventListener.eq_doConnect_of_step {l l' : EventListener} {config : ListenerConfig}
    {built : Bool} (hstep : l.step config (.doConnect built) = some l') :
    l.phase = .connecting ∧ l' = l.doConnect config built := by
  simp only [EventListener.step] at hstep
  split at hstep
  · rename_i hphase
    exact ⟨hphase, (Option.some.inj hstep).symm⟩
  · cases hstep

/-- A step of the registry task touches its map and its channel and nothing else. -/
theorem EventListener.exists_registry_of_register {l l' : EventListener}
    {config : ListenerConfig} (hstep : l.step config .registerLastSeenEventId = some l') :
    ∃ map channel, l' = { l with lastEventIdForFilter := map, lastSeenEventIds := channel } := by
  simp only [EventListener.step, EventListener.registerLastSeenEventId] at hstep
  split at hstep
  · exact ⟨_, _, (Option.some.inj hstep).symm⟩
  · cases hstep

/-- A step of the node publishing an event grows that filter's stream and nothing else. -/
theorem EventListener.exists_grows_of_publish {l l' : EventListener} {config : ListenerConfig}
    {filter : Filter} {event : NodeEvent} (hstep : l.step config (.publish filter event) = some l') :
    ∃ node, (l.node filter).Grows node ∧ l' = { l with node := Function.update l.node filter node } := by
  simp only [EventListener.step] at hstep
  cases hpublish : (l.node filter).publish event with
  | none => simp [hpublish] at hstep
  | some node =>
      simp only [hpublish, Option.map_some, Option.some.injEq] at hstep
      exact ⟨node, NodeFilter.grows_publish hpublish, hstep.symm⟩

/-- A step of the node forgetting an event grows that filter's stream and nothing else. -/
theorem EventListener.exists_grows_of_evict {l l' : EventListener} {config : ListenerConfig}
    {filter : Filter} (hstep : l.step config (.evict filter) = some l') :
    ∃ node, (l.node filter).Grows node ∧ l' = { l with node := Function.update l.node filter node } := by
  simp only [EventListener.step, Option.some.injEq] at hstep
  exact ⟨_, (l.node filter).grows_evict, hstep.symm⟩

/-- A step of one manager task: the loop, the node and the registry's map stay as they
are; at most one event the node published on a filter, one that deserializes, is sent
downstream, and at most one id of a published event goes on the registry's channel,
when the channel has room. -/
structure EventListener.TaskStep (l l' : EventListener) : Prop where
  phase : l'.phase = l.phase
  nodeBuildVersion : l'.nodeBuildVersion = l.nodeBuildVersion
  currentAttempt : l'.currentAttempt = l.currentAttempt
  node : l'.node = l.node
  map : l'.lastEventIdForFilter = l.lastEventIdForFilter
  handed : l'.handed = l.handed ∨ ∃ filter, ∃ event ∈ (l.node filter).events,
    event.deserializes = true ∧ l'.handed = l.handed ++ [(filter, event.id)]
  channel : l'.lastSeenEventIds = l.lastSeenEventIds ∨
    l.lastSeenEventIds.length < lastSeenEventIdCapacity ∧ ∃ filter, ∃ event ∈ (l.node filter).events,
      l'.lastSeenEventIds = l.lastSeenEventIds ++ [(filter, event.id)]

theorem EventListener.taskStep_of_connect {l l' : EventListener} {k : Nat}
    {result : Except ConnectionManagerError Unit} (hstep : l.connect k result = some l') :
    l.TaskStep l' := by
  unfold EventListener.connect at hstep
  repeat' split at hstep
  all_goals (try simp only [Option.some.injEq] at hstep)
  all_goals (try subst hstep)
  -- a connection only moves the task and its `ConnectionTasks` on
  all_goals first
    | cases hstep
    | exact ⟨rfl, rfl, rfl, rfl, rfl, .inl rfl, .inl rfl⟩

theorem EventListener.taskStep_of_wait {l l' : EventListener} {k : Nat}
    (hstep : l.wait k = some l') : l.TaskStep l' := by
  unfold EventListener.wait at hstep
  repeat' split at hstep
  all_goals (try simp only [Option.some.injEq] at hstep)
  all_goals (try subst hstep)
  all_goals first
    | cases hstep
    | exact ⟨rfl, rfl, rfl, rfl, rfl, .inl rfl, .inl rfl⟩

theorem EventListener.taskStep_of_receive {l l' : EventListener} {k : Nat}
    (hstep : l.receive k = some l') : l.TaskStep l' := by
  unfold EventListener.receive at hstep
  repeat' split at hstep
  all_goals (try simp only [Option.some.injEq] at hstep)
  all_goals (try subst hstep)
  all_goals first
    | cases hstep
    | exact ⟨rfl, rfl, rfl, rfl, rfl, .inl rfl, .inl rfl⟩

theorem EventListener.taskStep_of_streamEnds {l l' : EventListener} {k : Nat}
    (hstep : l.streamEnds k = some l') : l.TaskStep l' := by
  unfold EventListener.streamEnds at hstep
  repeat' split at hstep
  all_goals (try simp only [Option.some.injEq] at hstep)
  all_goals (try subst hstep)
  all_goals first
    | cases hstep
    | exact ⟨rfl, rfl, rfl, rfl, rfl, .inl rfl, .inl rfl⟩

theorem EventListener.taskStep_of_report {l l' : EventListener} {k : Nat}
    (hstep : l.report k = some l') : l.TaskStep l' := by
  unfold EventListener.report at hstep
  cases htask : l.tasks[k]? with
  | none => simp [htask] at hstep
  | some task =>
      rw [htask] at hstep
      cases hphase : task.phase <;> simp only [hphase, reduceCtorEq] at hstep
      case reporting position =>
        cases hevent : (l.node task.filter).events[position]? with
        | none => simp [hevent] at hstep
        | some event =>
            simp only [hevent] at hstep
            split at hstep
            · rename_i hroom
              simp only [Option.some.injEq] at hstep
              subst hstep
              -- the id of the event received goes on the channel
              exact ⟨rfl, rfl, rfl, rfl, rfl, .inl rfl,
                .inr ⟨hroom, task.filter, event, List.mem_of_getElem? hevent, rfl⟩⟩
            · cases hstep

theorem EventListener.taskStep_of_forward {l l' : EventListener} {k : Nat}
    (hstep : l.forward k = some l') : l.TaskStep l' := by
  unfold EventListener.forward at hstep
  cases htask : l.tasks[k]? with
  | none => simp [htask] at hstep
  | some task =>
      rw [htask] at hstep
      cases hphase : task.phase <;> simp only [hphase, reduceCtorEq] at hstep
      case forwarding position =>
        cases hevent : (l.node task.filter).events[position]? with
        | none => simp [hevent] at hstep
        | some event =>
            simp only [hevent] at hstep
            split at hstep
            · rename_i hdeserializes
              simp only [Option.some.injEq] at hstep
              subst hstep
              -- the event received is sent downstream
              exact ⟨rfl, rfl, rfl, rfl, rfl,
                .inr ⟨task.filter, event, List.mem_of_getElem? hevent, hdeserializes, rfl⟩, .inl rfl⟩
            · simp only [Option.some.injEq] at hstep
              subst hstep
              exact ⟨rfl, rfl, rfl, rfl, rfl, .inl rfl, .inl rfl⟩

/-- **Managers outlive the `do_connect` that spawned them.**  Without partial
connections, the first `do_connect` spawns managers for `main`, `sigs` and `deploys`;
all connect; the `main` stream fails and `select_all` returns it, so `do_connect`
returns and drops the other two handles.  The loop's next attempt spawns three new
managers, which connect too: while the second `do_connect` waits, two managers read the
node's `sigs` stream. -/
theorem managers_outlive_do_connect :
    ∃ l : EventListener, l.Reachable ⟨3, false⟩ (fun _ => .empty) ∧
      l.phase = .selecting [3, 4, 5] ∧
      (l.tasks.filter fun task => task.filter == .sigs && task.isRunning).length = 2 := by
  obtain ⟨l, hl, hp⟩ := @Transition.exists_reachable_of_exec _ _ (EventListener.step ⟨3, false⟩)
    (.init ⟨3, false⟩ fun _ => .empty)
    [.getVersion (.ok (.fromParts 1 5 2)), .doConnect true,
      .connect 0 (.ok ()), .connect 1 (.ok ()), .connect 2 (.ok ()), .wait 0, .wait 1, .wait 2,
      .streamEnds 0, .select 0,
      .getVersion (.ok (.fromParts 1 5 2)), .doConnect true,
      .connect 3 (.ok ()), .connect 4 (.ok ()), .connect 5 (.ok ()), .wait 3, .wait 4, .wait 5]
    (fun l => l.phase == .selecting [3, 4, 5] &&
      (l.tasks.filter fun task => task.filter == .sigs && task.isRunning).length == 2)
    (by decide)
  simp only [Bool.and_eq_true, beq_iff_eq] at hp
  exact ⟨l, hl, hp.1, hp.2⟩

end CasperSidecar
