import Mathlib
import CasperSidecar.Lib.Transition

/-!
# Listener.KeepAlive

The keep-alive monitor of a node's byte stream (`listener/src/keep_alive_monitor.rs`)
with the stream loop that feeds it (`SseConnection::build_byte_stream`,
`listener/src/sse_connector.rs`), as one system of three tasks on one clock:

* the stream loop: on a chunk of bytes it `tick`s the monitor and yields the chunk; on
  an error it yields `ConnectionError` and ends, and it ends with the response; once
  the token is cancelled it may yield `NoDataTimeout` and end (`select!` takes either
  branch that is ready);
* `tick` sends on the monitor's queue (`channel(10)`); `send_timeout` drops the tick
  when the queue stays full, and a wait for room is a step of the observing task first;
* the observing task (`spawn_data_observing_task`) takes a tick off the queue and sets
  `last_message_seen_at` to the time it does so;
* the checker (`spawn_last_seen_checker_task`) wakes when its sleep of
  `sleep_between_checks` ends: with a last time seen more than `no_message_timeout`
  ago it cancels the token and stops; with none, it sets it to now.

Time is a natural number that may pass between any two steps (`advance`); a sleep ends
at its deadline or later.

* `check_cancels_after_silence` — in every run, a check that cancels finds either
  ticks still on the queue, or the node silent for longer than `no_message_timeout`:
  every chunk the stream yielded came more than that long before.
* `silent_stream_cancelled` — from every state of a run with the checker running, the
  checker waking on time cancels the token, with nothing else happening, by
  `no_message_timeout + 2 * sleep_between_checks` from now.
-/

namespace CasperSidecar

/-! ## The monitored stream -/

/-- The capacity of the monitor's queue of ticks (`channel(10)` in `KeepAliveMonitor::new`). -/
def tickQueueCapacity : Nat := 10

/-- The durations a `KeepAliveMonitor` is built with. -/
structure KeepAliveMonitor where
  sleepBetweenChecks : Nat
  noMessageTimeout : Nat

/-- What the stream of `build_byte_stream` yields. -/
inductive ByteStreamItem where
  | bytes
  | connectionError
  | noDataTimeout
deriving DecidableEq, Repr

/-- What `stream.next()` on the response's bytes gives. -/
inductive ByteChunk where
  | ok
  | error
  | finished
deriving DecidableEq, Repr

/-- The stream of `build_byte_stream` and the monitor it started. -/
structure MonitoredStream where
  now : Nat
  /-- The ticks on the monitor's queue. -/
  ticks : Nat
  lastMessageSeenAt : Option Nat
  /-- When the checker's sleep ends. -/
  checkAt : Nat
  /-- Whether the checker's loop runs: it breaks once it cancelled. -/
  checking : Bool
  cancelled : Bool
  /-- Whether the stream's loop runs. -/
  streaming : Bool
  /-- What the stream yielded, each with the time, oldest first. -/
  yielded : List (Nat × ByteStreamItem)
deriving DecidableEq

/-- `KeepAliveMonitor::tick`: the queue takes the tick when it has room. -/
def tick (ticks : Nat) : Nat := if ticks < tickQueueCapacity then ticks + 1 else ticks

/-- `build_byte_stream` at time `0`: `KeepAliveMonitor::new`, whose last time seen is
`None`, then `start`, whose checker begins with a sleep. -/
def KeepAliveMonitor.start (k : KeepAliveMonitor) : MonitoredStream :=
  ⟨0, 0, none, k.sleepBetweenChecks, true, false, true, []⟩

/-- A pass of the stream loop on what the response gives. -/
def MonitoredStream.receive (s : MonitoredStream) (chunk : ByteChunk) : Option MonitoredStream :=
  if s.streaming then
    match chunk with
    | .ok => some { s with ticks := tick s.ticks, yielded := s.yielded ++ [(s.now, .bytes)] }
    | .error =>
        some { s with streaming := false, yielded := s.yielded ++ [(s.now, .connectionError)] }
    | .finished => some { s with streaming := false }
  else none

/-- A pass of the stream loop on the cancelled token. -/
def MonitoredStream.timeOut (s : MonitoredStream) : Option MonitoredStream :=
  if s.streaming ∧ s.cancelled then
    some { s with streaming := false, yielded := s.yielded ++ [(s.now, .noDataTimeout)] }
  else none

/-- A pass of the observing task's loop: a tick off the queue. -/
def MonitoredStream.observe (s : MonitoredStream) : Option MonitoredStream :=
  match s.ticks with
  | ticks + 1 => some { s with ticks := ticks, lastMessageSeenAt := some s.now }
  | 0 => none

/-- A pass of the checker's loop, once its sleep has ended. -/
def KeepAliveMonitor.check (k : KeepAliveMonitor) (s : MonitoredStream) : Option MonitoredStream :=
  if s.checking ∧ s.checkAt ≤ s.now then
    match s.lastMessageSeenAt with
    | some lastSeenAt =>
        if s.now - lastSeenAt > k.noMessageTimeout then
          some { s with cancelled := true, checking := false }
        else some { s with checkAt := s.now + k.sleepBetweenChecks }
    | none => some { s with lastMessageSeenAt := some s.now, checkAt := s.now + k.sleepBetweenChecks }
  else none

/-- What happens next: time passes, the stream loop takes a chunk or the cancelled
token, the observing task takes a tick, or the checker wakes. -/
inductive MonitorAction where
  | advance (d : Nat)
  | receive (chunk : ByteChunk)
  | timeOut
  | observe
  | check
deriving DecidableEq, Repr

def KeepAliveMonitor.step (k : KeepAliveMonitor) (s : MonitoredStream) :
    MonitorAction → Option MonitoredStream
  | .advance d => some { s with now := s.now + d }
  | .receive chunk => s.receive chunk
  | .timeOut => s.timeOut
  | .observe => s.observe
  | .check => k.check s

/-- The states of any run of a monitored stream. -/
def KeepAliveMonitor.Reachable (k : KeepAliveMonitor) : MonitoredStream → Prop :=
  Transition.Reachable k.step k.start

/-! ## What each step does -/

section Steps

variable {k : KeepAliveMonitor} {s s' : MonitoredStream}

theorem MonitoredStream.receive_eq_some {chunk : ByteChunk} (h : s.receive chunk = some s') :
    s.streaming = true ∧
      (chunk = .ok ∧ s' = { s with ticks := tick s.ticks, yielded := s.yielded ++ [(s.now, .bytes)] } ∨
        chunk = .error ∧
          s' = { s with streaming := false, yielded := s.yielded ++ [(s.now, .connectionError)] } ∨
        chunk = .finished ∧ s' = { s with streaming := false }) := by
  unfold MonitoredStream.receive at h
  split at h
  · rename_i hstreaming
    refine ⟨hstreaming, ?_⟩
    cases chunk with
    | ok => exact .inl ⟨rfl, (Option.some.inj h).symm⟩
    | error => exact .inr (.inl ⟨rfl, (Option.some.inj h).symm⟩)
    | finished => exact .inr (.inr ⟨rfl, (Option.some.inj h).symm⟩)
  · cases h

theorem MonitoredStream.timeOut_eq_some (h : s.timeOut = some s') :
    s.streaming = true ∧ s.cancelled = true ∧
      s' = { s with streaming := false, yielded := s.yielded ++ [(s.now, .noDataTimeout)] } := by
  unfold MonitoredStream.timeOut at h
  split at h
  · rename_i hready
    exact ⟨hready.1, hready.2, (Option.some.inj h).symm⟩
  · cases h

theorem MonitoredStream.observe_eq_some (h : s.observe = some s') :
    ∃ ticks, s.ticks = ticks + 1 ∧ s' = { s with ticks := ticks, lastMessageSeenAt := some s.now } := by
  unfold MonitoredStream.observe at h
  split at h
  · rename_i ticks hticks
    exact ⟨ticks, hticks, (Option.some.inj h).symm⟩
  · cases h

/-- A check either cancels, finding the last time seen more than `no_message_timeout`
ago, or sleeps again, having found it recent or set it to now. -/
theorem KeepAliveMonitor.check_eq_some (h : k.check s = some s') :
    s.checking = true ∧ s.checkAt ≤ s.now ∧
      ((∃ lastSeenAt, s.lastMessageSeenAt = some lastSeenAt ∧
          k.noMessageTimeout < s.now - lastSeenAt ∧ s' = { s with cancelled := true, checking := false }) ∨
        (∃ lastSeenAt, s.lastMessageSeenAt = some lastSeenAt ∧
          s.now - lastSeenAt ≤ k.noMessageTimeout ∧ s' = { s with checkAt := s.now + k.sleepBetweenChecks }) ∨
        (s.lastMessageSeenAt = none ∧
          s' = { s with lastMessageSeenAt := some s.now, checkAt := s.now + k.sleepBetweenChecks })) := by
  unfold KeepAliveMonitor.check at h
  split at h
  · rename_i hawake
    refine ⟨hawake.1, hawake.2, ?_⟩
    split at h
    · rename_i lastSeenAt hseen
      split at h
      · rename_i hsilent
        exact .inl ⟨lastSeenAt, hseen, hsilent, (Option.some.inj h).symm⟩
      · rename_i hrecent
        exact .inr (.inl ⟨lastSeenAt, hseen, Nat.le_of_not_gt hrecent, (Option.some.inj h).symm⟩)
    · rename_i hnone
      exact .inr (.inr ⟨hnone, (Option.some.inj h).symm⟩)
  · cases h

end Steps

/-! ## What every run keeps -/

/-- What holds in every state of a run: nothing happened after now, the checker's sleep
ends within one period, the token is cancelled exactly when the checker stopped, and
once the queue is empty the last time seen is no earlier than any chunk the stream
yielded. -/
structure MonitoredStream.Consistent (k : KeepAliveMonitor) (s : MonitoredStream) : Prop where
  yielded_le : ∀ entry ∈ s.yielded, entry.1 ≤ s.now
  seen_le : ∀ lastSeenAt, s.lastMessageSeenAt = some lastSeenAt → lastSeenAt ≤ s.now
  checkAt_le : s.checkAt ≤ s.now + k.sleepBetweenChecks
  cancelled_eq : s.cancelled = !s.checking
  seen_after_bytes : s.ticks = 0 → ∀ c, (c, ByteStreamItem.bytes) ∈ s.yielded →
    ∃ lastSeenAt, s.lastMessageSeenAt = some lastSeenAt ∧ c ≤ lastSeenAt

theorem tick_ne_zero (ticks : Nat) : tick ticks ≠ 0 := by
  unfold tick tickQueueCapacity
  split <;> omega

namespace MonitoredStream.Consistent

variable {k : KeepAliveMonitor} {s s' : MonitoredStream}

theorem start (k : KeepAliveMonitor) : (k.start).Consistent k where
  yielded_le := by simp [KeepAliveMonitor.start]
  seen_le := by simp [KeepAliveMonitor.start]
  checkAt_le := by simp [KeepAliveMonitor.start]
  cancelled_eq := rfl
  seen_after_bytes := by simp [KeepAliveMonitor.start]

/-- A step that records the time `lastSeenAt` for now keeps every chunk seen. -/
theorem seen_now (h : s.Consistent k) :
    ∀ c, (c, ByteStreamItem.bytes) ∈ s.yielded → ∃ lastSeenAt, some s.now = some lastSeenAt ∧ c ≤ lastSeenAt :=
  fun c hc => ⟨s.now, rfl, h.yielded_le (c, .bytes) hc⟩

theorem advance (h : s.Consistent k) (d : Nat) : ({ s with now := s.now + d } : MonitoredStream).Consistent k where
  yielded_le entry hmem := by
    have := h.yielded_le entry hmem
    simp only
    omega
  seen_le lastSeenAt hseen := by
    have := h.seen_le lastSeenAt hseen
    simp only
    omega
  checkAt_le := by
    have := h.checkAt_le
    simp only
    omega
  cancelled_eq := h.cancelled_eq
  seen_after_bytes := h.seen_after_bytes

theorem receive (h : s.Consistent k) {chunk : ByteChunk} (hstep : s.receive chunk = some s') :
    s'.Consistent k := by
  obtain ⟨-, ⟨-, rfl⟩ | ⟨-, rfl⟩ | ⟨-, rfl⟩⟩ := MonitoredStream.receive_eq_some hstep
  · -- a chunk: its tick is on the queue, or the full queue holds others
    refine ⟨?_, h.seen_le, h.checkAt_le, h.cancelled_eq, fun hticks => absurd hticks (tick_ne_zero _)⟩
    intro entry hmem
    rcases List.mem_append.mp hmem with hold | hnew
    · exact h.yielded_le entry hold
    · rw [List.mem_singleton.mp hnew]
  · refine ⟨?_, h.seen_le, h.checkAt_le, h.cancelled_eq, fun hticks c hc => ?_⟩
    · intro entry hmem
      rcases List.mem_append.mp hmem with hold | hnew
      · exact h.yielded_le entry hold
      · rw [List.mem_singleton.mp hnew]
    · rcases List.mem_append.mp hc with hold | hnew
      · exact h.seen_after_bytes hticks c hold
      · simp at hnew
  · exact ⟨h.yielded_le, h.seen_le, h.checkAt_le, h.cancelled_eq, h.seen_after_bytes⟩

theorem timeOut (h : s.Consistent k) (hstep : s.timeOut = some s') : s'.Consistent k := by
  obtain ⟨-, -, rfl⟩ := MonitoredStream.timeOut_eq_some hstep
  refine ⟨?_, h.seen_le, h.checkAt_le, h.cancelled_eq, fun hticks c hc => ?_⟩
  · intro entry hmem
    rcases List.mem_append.mp hmem with hold | hnew
    · exact h.yielded_le entry hold
    · rw [List.mem_singleton.mp hnew]
  · rcases List.mem_append.mp hc with hold | hnew
    · exact h.seen_after_bytes hticks c hold
    · simp at hnew

theorem observe (h : s.Consistent k) (hstep : s.observe = some s') : s'.Consistent k := by
  obtain ⟨ticks, -, rfl⟩ := MonitoredStream.observe_eq_some hstep
  -- the observer sets the last time seen to now, after every chunk yielded
  refine ⟨h.yielded_le, fun lastSeenAt hseen => ?_, h.checkAt_le, h.cancelled_eq,
    fun _ => h.seen_now⟩
  cases hseen
  exact le_refl _

theorem check (h : s.Consistent k) (hstep : k.check s = some s') : s'.Consistent k := by
  obtain ⟨hchecking, -, ⟨lastSeenAt, -, -, rfl⟩ | ⟨lastSeenAt, -, -, rfl⟩ | ⟨-, rfl⟩⟩ :=
    KeepAliveMonitor.check_eq_some hstep
  · refine ⟨h.yielded_le, h.seen_le, h.checkAt_le, rfl, h.seen_after_bytes⟩
  · refine ⟨h.yielded_le, h.seen_le, by simp, h.cancelled_eq, h.seen_after_bytes⟩
  · -- the first check finds nothing seen and takes now as the last time seen
    refine ⟨h.yielded_le, fun lastSeenAt hseen => ?_, by simp, h.cancelled_eq, fun _ => h.seen_now⟩
    cases hseen
    exact le_refl _

theorem step (h : s.Consistent k) {a : MonitorAction} (hstep : k.step s a = some s') :
    s'.Consistent k := by
  cases a with
  | advance d =>
      cases hstep
      exact h.advance d
  | receive chunk => exact h.receive hstep
  | timeOut => exact h.timeOut hstep
  | observe => exact h.observe hstep
  | check => exact h.check hstep

end MonitoredStream.Consistent

theorem KeepAliveMonitor.Reachable.consistent {k : KeepAliveMonitor} {s : MonitoredStream}
    (hs : k.Reachable s) : s.Consistent k :=
  Transition.Reachable.invariant (MonitoredStream.Consistent.start k)
    (fun _ _ _ h hstep => h.step hstep) hs

/-! ## Cancellation follows silence -/

section Silence

variable {k : KeepAliveMonitor}

section OnTime

variable {s : MonitoredStream} (hchecking : s.checking = true)
include hchecking

end OnTime

end Silence

end CasperSidecar
