import Mathlib
import CasperSidecar.EventStreamServer.Buffer

/-!
# EventStreamServer.Versions

How a client reads protocol versions off its initial events.  A client reads
the stream as annotated by versions: each `ApiVersion(v)` makes `v` current,
every other event is read under the current version (`readVersions`).

`register_new_subscriber` sends `SidecarVersion`, then the replayed events
with an `ApiVersion` before the first one and before each change of buffered
version (`sendReplayed`), and, only when nothing was replayed, the latest
version.  Read this way, every replayed event gets the version it was
buffered under, and the announcements in the replay are exactly the changes
(`readVersions_sendReplayed`, `announcedVersions_sendReplayed`).  The version
current at the end of the initial events is the newest replayed event's,
however many `ApiVersion`s the run loop handled after that event
(`currentVersion_registerNewSubscriber`); a client that replays can thus end
its initial events on an older version than the run loop's latest one.
-/

namespace CasperSidecar

variable {wb : EventBufferImpl}

/-! ## Reading a stream -/

/-- A client's reading of a stream: each `ApiVersion(v)` makes `v` current, and
every other event is read under the current version. -/
def readVersions : Option ProtocolVersion → List ServerSentEvent →
    List (Option ProtocolVersion × ServerSentEvent)
  | _, [] => []
  | current, event :: rest =>
      match event.data.apiVersion? with
      | some v => readVersions (some v) rest
      | none => (current, event) :: readVersions current rest

/-- The version current once a stream is read. -/
def currentVersion (current : Option ProtocolVersion) (events : List ServerSentEvent) :
    Option ProtocolVersion :=
  events.foldl (fun current event => event.data.apiVersion?.or current) current

/-- The versions a stream announces, in order. -/
def announcedVersions (events : List ServerSentEvent) : List ProtocolVersion :=
  events.filterMap fun event => event.data.apiVersion?

@[simp] theorem apiVersion?_initialEvent (v : ProtocolVersion) :
    (ServerSentEvent.initialEvent v).data.apiVersion? = some v := rfl

@[simp] theorem apiVersion?_sidecarVersionEvent (v : ProtocolVersion) :
    (ServerSentEvent.sidecarVersionEvent v).data.apiVersion? = none := rfl

@[simp] theorem readVersions_nil (current : Option ProtocolVersion) :
    readVersions current [] = [] := rfl

theorem readVersions_append (current : Option ProtocolVersion) (events more : List ServerSentEvent) :
    readVersions current (events ++ more) =
      readVersions current events ++ readVersions (currentVersion current events) more := by
  induction events generalizing current with
  | nil => rfl
  | cons event rest ih =>
      cases hv : event.data.apiVersion? with
      | none => simp [readVersions, currentVersion, hv, ih]
      | some v => simp [readVersions, currentVersion, hv, ih]

/-- A `destutter'` keeps its starting point in front. -/
theorem destutter'_eq_cons {α : Type} (R : α → α → Prop) [DecidableRel R] (a : α) (l : List α) :
    l.destutter' R a = a :: (l.destutter' R a).tail := by
  induction l generalizing a with
  | nil => rfl
  | cons b l ih =>
      rw [List.destutter'_cons]
      split
      · rfl
      · exact ih a

/-! ## The replay loop -/

section Replay

variable {replayed : List (ProtocolVersion × ServerSentEvent)}

/-- **Every replayed event is read under the version it was buffered under.** -/
theorem readVersions_sendReplayed (hr : ∀ e ∈ replayed, e.2.data.apiVersion? = none)
    (observed : Option ProtocolVersion) :
    readVersions observed (sendReplayed observed replayed) = replayed.map fun e => (some e.1, e.2) := by
  induction replayed generalizing observed with
  | nil => rfl
  | cons entry rest ih =>
      obtain ⟨protocol, event⟩ := entry
      have hevent : event.data.apiVersion? = none := hr _ List.mem_cons_self
      have hrest := ih fun e he => hr e (List.mem_cons_of_mem _ he)
      by_cases hobserved : observed = some protocol
      · -- the version is already announced: the event is read under it
        simp [sendReplayed, hobserved, readVersions, hevent, hrest]
      · -- an `ApiVersion(protocol)` goes first
        simp [sendReplayed, hobserved, readVersions, hevent, hrest]

/-- After the replay the current version is the newest replayed event's. -/
theorem currentVersion_sendReplayed (hr : ∀ e ∈ replayed, e.2.data.apiVersion? = none)
    (observed : Option ProtocolVersion) :
    currentVersion observed (sendReplayed observed replayed) =
      (replayed.getLast?.map Prod.fst).or observed := by
  induction replayed generalizing observed with
  | nil => simp [sendReplayed, currentVersion]
  | cons entry rest ih =>
      obtain ⟨protocol, event⟩ := entry
      have hevent : event.data.apiVersion? = none := hr _ List.mem_cons_self
      have hrest := ih fun e he => hr e (List.mem_cons_of_mem _ he)
      by_cases hobserved : observed = some protocol
      · have hstep : currentVersion observed (sendReplayed observed ((protocol, event) :: rest)) =
            currentVersion observed (sendReplayed observed rest) := by
          simp [sendReplayed, hobserved, currentVersion, hevent]
        rw [hstep, hrest, hobserved]
        cases hlast : rest.getLast? <;> simp [List.getLast?_cons, hlast]
      · have hstep : currentVersion observed (sendReplayed observed ((protocol, event) :: rest)) =
            currentVersion (some protocol) (sendReplayed (some protocol) rest) := by
          simp [sendReplayed, hobserved, currentVersion, hevent]
        rw [hstep, hrest]
        cases hlast : rest.getLast? <;> simp [List.getLast?_cons, hlast]

theorem announcedVersions_sendReplayed_some (hr : ∀ e ∈ replayed, e.2.data.apiVersion? = none)
    (p : ProtocolVersion) :
    announcedVersions (sendReplayed (some p) replayed) =
      ((replayed.map Prod.fst).destutter' (· ≠ ·) p).tail := by
  induction replayed generalizing p with
  | nil => rfl
  | cons entry rest ih =>
      obtain ⟨protocol, event⟩ := entry
      have hevent : event.data.apiVersion? = none := hr _ List.mem_cons_self
      have hrest := ih fun e he => hr e (List.mem_cons_of_mem _ he)
      by_cases hp : p = protocol
      · subst hp
        simp [sendReplayed, announcedVersions, hevent, ← hrest]
      · have hchange : (((protocol, event) :: rest).map Prod.fst).destutter' (· ≠ ·) p =
            p :: (rest.map Prod.fst).destutter' (· ≠ ·) protocol := by
          simp [hp]
        rw [hchange, List.tail_cons, destutter'_eq_cons, ← hrest]
        simp [sendReplayed, announcedVersions, hp, hevent]

/-- **The replay announces exactly the changes of buffered version**: one
`ApiVersion` before the first replayed event and one at each change, nothing else. -/
theorem announcedVersions_sendReplayed (hr : ∀ e ∈ replayed, e.2.data.apiVersion? = none) :
    announcedVersions (sendReplayed none replayed) = (replayed.map Prod.fst).destutter (· ≠ ·) := by
  cases replayed with
  | nil => rfl
  | cons entry rest =>
      obtain ⟨protocol, event⟩ := entry
      have hevent : event.data.apiVersion? = none := hr _ List.mem_cons_self
      have hrest := announcedVersions_sendReplayed_some
        (fun e he => hr e (List.mem_cons_of_mem _ he)) protocol
      rw [List.map_cons, List.destutter_cons', destutter'_eq_cons, ← hrest]
      simp [sendReplayed, announcedVersions, hevent]

end Replay

/-! ## The initial events of a new subscriber -/

/-- `skip_while` keeps a suffix. -/
theorem suffix_of_skipWhile {α : Type} {p : α → Option Bool} {l r : List α}
    (h : skipWhile p l = some r) : r <:+ l := by
  induction l with
  | nil =>
      simp only [skipWhile, Option.some.injEq] at h
      rw [← h]
  | cons a l ih =>
      unfold skipWhile at h
      split at h
      · contradiction
      · exact (ih h).trans (List.suffix_cons a l)
      · rw [← Option.some.inj h]

/-- `register_new_subscriber`, inverted: the sidecar version, the replay of a suffix
of the buffer, and the fallback announcement. -/
theorem registerNewSubscriber_eq_some {startFrom : Option EventIndex} {buffer : wb.Buf}
    {latest : Option ProtocolVersion} {events : List ServerSentEvent}
    (h : registerNewSubscriber wb startFrom buffer latest = some events) :
    ∃ replayed, replayed <:+ wb.iter buffer ∧
      events = .sidecarVersionEvent sidecarVersion :: sendReplayed none replayed ++
        sendApiVersionIfNecessary (!replayed.isEmpty) latest := by
  cases startFrom with
  | none =>
      simp only [registerNewSubscriber] at h
      exact ⟨[], List.nil_suffix, (Option.some.inj h).symm⟩
  | some startIndex =>
      simp only [registerNewSubscriber, selectReplayed, bind, pure] at h
      cases hzone : inWraparoundZone wb buffer with
      | none => simp [hzone] at h
      | some inZone =>
          cases hskip : skipWhile (skipBeforeStart inZone (bufferSize wb buffer) startIndex)
              (wb.iter buffer) with
          | none => simp [hzone, hskip] at h
          | some replayed =>
              simp only [hzone, hskip, Option.bind_some, Option.some.injEq] at h
              exact ⟨replayed, suffix_of_skipWhile hskip, h.symm⟩

/-- How a client reads the initial events of a buffer of non-`ApiVersion` events:
the sidecar version unversioned, then each replayed event under its buffered version;
the announcements are the changes of buffered version, and the latest version only
when nothing was replayed; the version current at the end is the newest replayed
event's, or the latest one when nothing was replayed. -/
theorem read_registerNewSubscriber {startFrom : Option EventIndex} {buffer : wb.Buf}
    {latest : Option ProtocolVersion} {events : List ServerSentEvent}
    (hb : ∀ e ∈ wb.iter buffer, e.2.data.apiVersion? = none)
    (h : registerNewSubscriber wb startFrom buffer latest = some events) :
    ∃ replayed, replayed <:+ wb.iter buffer ∧
      events.head? = some (.sidecarVersionEvent sidecarVersion) ∧
      readVersions none events =
        (none, .sidecarVersionEvent sidecarVersion) :: replayed.map (fun e => (some e.1, e.2)) ∧
      announcedVersions events = (replayed.map Prod.fst).destutter (· ≠ ·) ++
        (if replayed.isEmpty then latest.toList else []) ∧
      currentVersion none events = if replayed.isEmpty then latest else replayed.getLast?.map Prod.fst := by
  obtain ⟨replayed, hsuffix, rfl⟩ := registerNewSubscriber_eq_some h
  have hr : ∀ e ∈ replayed, e.2.data.apiVersion? = none := fun e he => hb e (hsuffix.subset he)
  refine ⟨replayed, hsuffix, rfl, ?_, ?_, ?_⟩
  · -- the fallback announcement carries no event to read
    rw [List.cons_append, readVersions, apiVersion?_sidecarVersionEvent, readVersions_append,
      readVersions_sendReplayed hr]
    cases replayed <;> cases latest <;> simp [sendApiVersionIfNecessary, readVersions]
  · rw [announcedVersions, List.cons_append, List.filterMap_cons, apiVersion?_sidecarVersionEvent,
      List.filterMap_append, ← announcedVersions, announcedVersions_sendReplayed hr]
    cases replayed <;> cases latest <;> simp [sendApiVersionIfNecessary]
  · have hcurrent := currentVersion_sendReplayed hr none
    simp only [currentVersion, List.cons_append, List.foldl_cons, apiVersion?_sidecarVersionEvent,
      List.foldl_append] at hcurrent ⊢
    rw [Option.none_or, hcurrent]
    cases replayed <;> cases latest <;> simp [sendApiVersionIfNecessary]

/-! ## In the running server -/

/-- Buffered entries carry no `ApiVersion` in any reachable state. -/
theorem Server.Reachable.apiVersion?_eq_none {config : Config} {s : Server wb}
    (hs : s.Reachable config) : ∀ e ∈ wb.iter s.runLoop.buffer, e.2.data.apiVersion? = none := by
  intro e he
  have hapi := (hs.entry he).1.1
  rw [SseData.isApiVersion_eq, Option.isSome_eq_false_iff, Option.isNone_iff_eq_none] at hapi
  exact hapi

theorem getLast?_eq_of_suffix {α : Type} {r l : List α} (h : r <:+ l) (hr : r ≠ []) :
    r.getLast? = l.getLast? := by
  obtain ⟨t, rfl⟩ := h
  rw [List.getLast?_append_of_ne_nil _ hr]

/-- **A new subscriber's initial events, read for versions**, in every reachable
state: `SidecarVersion` first; then a suffix of the buffer, each event read under the
version it was buffered under, with an `ApiVersion` before the first replayed event
and at each change of buffered version and nowhere else in the replay; the latest
version is announced only when nothing was replayed; so the version current at the
end is the newest buffered event's when something was replayed, and the latest one
only when nothing was. -/
theorem initialEvents_read_of_reachable {config : Config} {s : Server wb} (hs : s.Reachable config)
    (startFrom : Option EventIndex) :
    ∃ events replayed,
      registerNewSubscriber wb startFrom s.runLoop.buffer s.runLoop.latestProtocolVersion = some events ∧
      replayed <:+ wb.iter s.runLoop.buffer ∧
      events.head? = some (.sidecarVersionEvent sidecarVersion) ∧
      readVersions none events =
        (none, .sidecarVersionEvent sidecarVersion) :: replayed.map (fun e => (some e.1, e.2)) ∧
      announcedVersions events = (replayed.map Prod.fst).destutter (· ≠ ·) ++
        (if replayed.isEmpty then s.runLoop.latestProtocolVersion.toList else []) ∧
      currentVersion none events = if replayed.isEmpty then s.runLoop.latestProtocolVersion
        else (wb.iter s.runLoop.buffer).getLast?.map Prod.fst := by
  obtain ⟨events, hevents⟩ := Option.isSome_iff_exists.mp
    (registerNewSubscriber_isSome startFrom s.runLoop.latestProtocolVersion
      fun _ he => (hs.entry he).1.2)
  obtain ⟨replayed, hsuffix, hhead, hread, hannounced, hcurrent⟩ :=
    read_registerNewSubscriber hs.apiVersion?_eq_none hevents
  refine ⟨events, replayed, hevents, hsuffix, hhead, hread, hannounced, ?_⟩
  rw [hcurrent]
  -- a nonempty replay is a suffix of the buffer, so it ends with the newest entry
  cases hempty : replayed.isEmpty with
  | true => rfl
  | false =>
      have hne : replayed ≠ [] := by simpa using hempty
      simp only [Bool.false_eq_true, if_false, getLast?_eq_of_suffix hsuffix hne]

/-- After an upgrade from `1.0.0` to `2.0.0` with one event buffered under each, the
replay for `start_from = 0` is read version by version. -/
theorem initialEvents_read_after_upgrade :
    ∃ s : Server wheelBufModel, s.Reachable ⟨4, 10⟩ ∧
      (wheelBufModel.iter s.runLoop.buffer).map Prod.fst = [.fromParts 1 0 0, .fromParts 2 0 0] ∧
      ∃ events replayed,
        registerNewSubscriber wheelBufModel (some 0) s.runLoop.buffer
          s.runLoop.latestProtocolVersion = some events ∧
        replayed <:+ wheelBufModel.iter s.runLoop.buffer ∧
        readVersions none events =
          (none, .sidecarVersionEvent sidecarVersion) :: replayed.map (fun e => (some e.1, e.2)) := by
  obtain ⟨s, hs, hp⟩ := @Server.exists_reachable_of_exec wheelBufModel ⟨4, 10⟩ 0
    [.broadcast (.apiVersion (.fromParts 1 0 0)) none none,
      .broadcast (.fault ⟨0⟩ ⟨0, []⟩ ⟨0⟩) none none,
      .broadcast (.apiVersion (.fromParts 2 0 0)) none none,
      .broadcast (.fault ⟨1⟩ ⟨0, []⟩ ⟨0⟩) none none,
      .receiveData, .receiveData, .receiveData, .receiveData]
    (fun s => (wheelBufModel.iter s.runLoop.buffer).map Prod.fst == [.fromParts 1 0 0, .fromParts 2 0 0])
    (by decide)
  obtain ⟨events, replayed, hevents, hsuffix, -, hread, -⟩ := initialEvents_read_of_reachable hs (some 0)
  exact ⟨s, hs, by simpa using hp, events, replayed, hevents, hsuffix, hread⟩

/-- A replaying client ends on an older version than the run loop's latest: after
`ApiVersion(1.0.0)`, an event of id `0` and `ApiVersion(2.0.0)`, a client asking for
`start_from = 0` is sent `SidecarVersion`, `ApiVersion(1.0.0)` and the event, and the
events that follow, buffered under `2.0.0`, come with no announcement of it. -/
theorem registered_client_ends_on_older_version :
    ∃ s : Server wheelBufModel, s.Reachable ⟨4, 10⟩ ∧
      s.runLoop.latestProtocolVersion = some (.fromParts 2 0 0) ∧
      ((s.clients[0]?).bind Client.initialEvents).map (currentVersion none) =
        some (some (.fromParts 1 0 0)) := by
  obtain ⟨s, hs, hp⟩ := @Server.exists_reachable_of_exec wheelBufModel ⟨4, 10⟩ 0
    [.broadcast (.apiVersion (.fromParts 1 0 0)) none none,
      .broadcast (.fault ⟨0⟩ ⟨0, []⟩ ⟨0⟩) none none,
      .broadcast (.apiVersion (.fromParts 2 0 0)) none none,
      .receiveData, .receiveData, .receiveData, .connect (some 0), .receiveSubscriber]
    (fun s => s.runLoop.latestProtocolVersion == some (.fromParts 2 0 0) &&
      ((s.clients[0]?).bind Client.initialEvents).map (currentVersion none) ==
        some (some (.fromParts 1 0 0)))
    (by decide)
  simp only [Bool.and_eq_true, beq_iff_eq] at hp
  exact ⟨s, hs, hp⟩

end CasperSidecar
