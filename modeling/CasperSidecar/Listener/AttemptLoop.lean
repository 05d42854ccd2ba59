import Mathlib
import CasperSidecar.Listener.EventListener

/-!
# Listener.AttemptLoop

The attempt counter of `EventListener::stream_aggregated_events`
(`listener/src/lib.rs`) and what the listener reports about the node
(`EventListenerStatus`, `event_listener_status.rs`).

Each pass of the `while current_attempt <= max_connection_attempts` loop calls
`get_version`, which logs the attempt and fetches the node's version: a new
version resets the counter to `1`, a failed fetch (`Retry`) adds one to it, logs
`Defunct` once it is at least `max_connection_attempts`, and goes on with the
loop, and a version the sidecar cannot talk to returns at once.  Otherwise
`do_connect` runs; whatever it returns, `ConnectionLost`, `SystemReconnect` or
an error of building the connections, only a `ConnectionLost` is logged, and
the counter grows by one.  The loop ends with `Defunct` and
`MAX_CONNECTION_ATTEMPTS_REACHED`.

Each pass is a free input: the fetch's result and what `do_connect` returns.
The sleeps and the other log lines are left out.

The listener of `Listener.EventListener` takes the same loop one step at a time,
among the steps of its tasks; `EventListener.Reachable.runsLoop` shows that in
every run it stands where `attemptLoop` stands after the passes it has taken.
-/

namespace CasperSidecar

/-- `EventListenerStatus`. -/
inductive EventListenerStatus where
  | preparing
  | connecting
  | connected
  | reconnecting
  | defunct
  | incompatibleVersion
deriving DecidableEq, Repr

/-- `ConnectOutcome`. -/
inductive ConnectOutcome where
  | connectionLost
  /-- "In this case we don't increase the current_attempt counter". -/
  | systemReconnect
deriving DecidableEq, Repr

/-- What one pass of the loop meets: what `version_fetcher.fetch()` returns and, if the
pass gets to it, what `do_connect` returns (`error` when building the connections
fails). -/
structure Pass where
  fetch : FetchResult
  connect : Except Unit ConnectOutcome

/-- What the loop reports, in order: a status (`log_status_for_event_listener`), an
attempt (`get_version`'s "Attempting to connect... current/max"), or a lost connection
(`warn_connection_lost`). -/
inductive LoopEvent where
  | status (status : EventListenerStatus)
  | attempting (currentAttempt : Nat)
  | connectionLost (currentAttempt : Nat)
deriving DecidableEq, Repr

/-- The errors `stream_aggregated_events` returns. -/
inductive ListenerError where
  /-- The error of `BuildVersionFetchError::VersionNotAcceptable`. -/
  | versionNotAcceptable
  /-- `MAX_CONNECTION_ATTEMPTS_REACHED`. -/
  | maxConnectionAttemptsReached
deriving DecidableEq, Repr

/-- The `while` loop from `node_build_version` and `current_attempt`, fed the passes in
order: what it reports, and the error it returns (`none` while it still runs when the
passes run out). -/
def attemptLoop (maxConnectionAttempts : Nat) (nodeBuildVersion : ProtocolVersion)
    (currentAttempt : Nat) (passes : List Pass) : List LoopEvent × Option ListenerError :=
      if currentAttempt ≤ maxConnectionAttempts then
        match passes with
        | [] => ([], none)
        | pass :: rest =>
            match pass.fetch with
            | .versionNotAcceptable =>
                ([.attempting currentAttempt, .status .incompatibleVersion], some .versionNotAcceptable)
            | .error =>
                -- `Retry`: count the attempt, report `Defunct` from the last one on, and go on
                let defunct : List LoopEvent :=
                  if currentAttempt + 1 ≥ maxConnectionAttempts then [.status .defunct] else []
                let next := attemptLoop maxConnectionAttempts nodeBuildVersion (currentAttempt + 1) rest
                (.attempting currentAttempt :: defunct ++ next.1, next.2)
            | .ok version =>
                -- a changed version restarts the count; then `do_connect`, counted whatever it returns
                let counted := if nodeBuildVersion ≠ version then 1 else currentAttempt
                let lost : List LoopEvent :=
                  if pass.connect = .ok .connectionLost then [.connectionLost counted] else []
                let next := attemptLoop maxConnectionAttempts version (counted + 1) rest
                (.attempting currentAttempt :: lost ++ next.1, next.2)
      else ([.status .defunct], some .maxConnectionAttemptsReached)

/-- `stream_aggregated_events`, from the version `EventListenerBuilder::build` sets. -/
def streamAggregatedEvents (maxConnectionAttempts : Nat) (passes : List Pass) :
    List LoopEvent × Option ListenerError :=
  let run := attemptLoop maxConnectionAttempts (.fromParts 1 0 0) 1 passes
  (.status .preparing :: .status .connecting :: run.1, run.2)

/-! ## One pass -/

section Pass

variable {maxConnectionAttempts currentAttempt : Nat} {nodeBuildVersion : ProtocolVersion}

theorem attemptLoop_of_lt (h : maxConnectionAttempts < currentAttempt) (passes : List Pass) :
    attemptLoop maxConnectionAttempts nodeBuildVersion currentAttempt passes =
      ([.status .defunct], some .maxConnectionAttemptsReached) := by
  rw [attemptLoop.eq_def, if_neg (by omega)]

/-- A failed fetch: the attempt is counted and the loop goes on. -/
theorem attemptLoop_retry (h : currentAttempt ≤ maxConnectionAttempts)
    (connect : Except Unit ConnectOutcome) (rest : List Pass) :
    attemptLoop maxConnectionAttempts nodeBuildVersion currentAttempt (⟨.error, connect⟩ :: rest) =
      (.attempting currentAttempt ::
          ((if currentAttempt + 1 ≥ maxConnectionAttempts then [.status .defunct] else []) ++
            (attemptLoop maxConnectionAttempts nodeBuildVersion (currentAttempt + 1) rest).1),
        (attemptLoop maxConnectionAttempts nodeBuildVersion (currentAttempt + 1) rest).2) := by
  rw [attemptLoop, if_pos h]
  rfl

/-- A fetch of the version already known, then `do_connect`: the attempt is counted
whatever `do_connect` returned. -/
theorem attemptLoop_same_version (h : currentAttempt ≤ maxConnectionAttempts)
    {connect : Except Unit ConnectOutcome} (hconnect : connect ≠ .ok .connectionLost)
    (rest : List Pass) :
    attemptLoop maxConnectionAttempts nodeBuildVersion currentAttempt
        (⟨.ok nodeBuildVersion, connect⟩ :: rest) =
      (.attempting currentAttempt ::
          (attemptLoop maxConnectionAttempts nodeBuildVersion (currentAttempt + 1) rest).1,
        (attemptLoop maxConnectionAttempts nodeBuildVersion (currentAttempt + 1) rest).2) := by
  rw [attemptLoop, if_pos h]
  simp [hconnect]

/-- A fetch of a new version restarts the count at `1` before `do_connect`. -/
theorem attemptLoop_new_version (h : currentAttempt ≤ maxConnectionAttempts)
    {version : ProtocolVersion} (hversion : nodeBuildVersion ≠ version)
    {connect : Except Unit ConnectOutcome} (hconnect : connect ≠ .ok .connectionLost)
    (rest : List Pass) :
    attemptLoop maxConnectionAttempts nodeBuildVersion currentAttempt
        (⟨.ok version, connect⟩ :: rest) =
      (.attempting currentAttempt :: (attemptLoop maxConnectionAttempts version 2 rest).1,
        (attemptLoop maxConnectionAttempts version 2 rest).2) := by
  rw [attemptLoop, if_pos h]
  simp [hversion, hconnect]

/-- What a pass's fetch does to the loop's version and count decides the error the loop
returns; what `do_connect` returned does not. -/
theorem attemptLoop_snd_cons (h : currentAttempt ≤ maxConnectionAttempts) (pass : Pass)
    (rest : List Pass) :
    (attemptLoop maxConnectionAttempts nodeBuildVersion currentAttempt (pass :: rest)).2 =
      match pass.fetch with
      | .versionNotAcceptable => some .versionNotAcceptable
      | .error => (attemptLoop maxConnectionAttempts nodeBuildVersion (currentAttempt + 1) rest).2
      | .ok version => (attemptLoop maxConnectionAttempts version
          ((if nodeBuildVersion ≠ version then 1 else currentAttempt) + 1) rest).2 := by
  rw [attemptLoop, if_pos h]
  cases pass.fetch <;> rfl

/-- Every pass the loop runs starts with its attempt. -/
theorem attemptLoop_attempting (h : currentAttempt ≤ maxConnectionAttempts) (pass : Pass)
    (rest : List Pass) :
    ∃ reported, (attemptLoop maxConnectionAttempts nodeBuildVersion currentAttempt (pass :: rest)).1 =
      .attempting currentAttempt :: reported := by
  rw [attemptLoop, if_pos h]
  cases pass.fetch with
  | versionNotAcceptable => exact ⟨_, rfl⟩
  | error => exact ⟨_, rfl⟩
  | ok version => exact ⟨_, rfl⟩

end Pass

/-! ## Runs of passes -/

/-- Passes that fetch the known version and end in `SystemReconnect` are each counted:
the loop gives up once the count passes `max_connection_attempts`. -/
theorem attemptLoop_systemReconnect (maxConnectionAttempts : Nat) (version : ProtocolVersion)
    (n currentAttempt : Nat) (h : currentAttempt + n = maxConnectionAttempts + 1) :
    (attemptLoop maxConnectionAttempts version currentAttempt
        (List.replicate n ⟨.ok version, .ok .systemReconnect⟩)).2 =
      some .maxConnectionAttemptsReached := by
  induction n generalizing currentAttempt with
  | zero => rw [attemptLoop_of_lt (by omega)]
  | succ n ih =>
      rw [List.replicate_succ, attemptLoop_same_version (by omega) (by simp)]
      exact ih (currentAttempt + 1) (by omega)

/-- Failed fetches up to `current_attempt = max_connection_attempts`: the last of them
reports `Defunct`, and the loop goes on from there. -/
theorem attemptLoop_retries (maxConnectionAttempts : Nat) (version : ProtocolVersion)
    (connect : Except Unit ConnectOutcome) (rest : List Pass) (n currentAttempt : Nat)
    (h : currentAttempt + n = maxConnectionAttempts) :
    ∃ reported, (attemptLoop maxConnectionAttempts version currentAttempt
        (List.replicate n ⟨.error, connect⟩ ++ rest)).1 =
        reported ++ (attemptLoop maxConnectionAttempts version maxConnectionAttempts rest).1 ∧
      (0 < n → reported.getLast? = some (.status .defunct)) := by
  induction n generalizing currentAttempt with
  | zero =>
      refine ⟨[], ?_, by simp⟩
      rw [← h]
      rfl
  | succ n ih =>
      rw [List.replicate_succ, List.cons_append, attemptLoop_retry (by omega)]
      by_cases hlastRetry : n = 0
      · -- the last failed fetch brings the count to `max_connection_attempts`
        subst hlastRetry
        have hnext : currentAttempt + 1 = maxConnectionAttempts := by omega
        refine ⟨[.attempting currentAttempt, .status .defunct], ?_, fun _ => rfl⟩
        simp [hnext]
      · obtain ⟨reported, hevents, hlast⟩ := ih (currentAttempt + 1) (by omega)
        refine ⟨.attempting currentAttempt :: reported, ?_, fun _ => ?_⟩
        · simp [show ¬currentAttempt + 1 ≥ maxConnectionAttempts by omega, hevents]
        · rw [List.getLast?_cons, hlast (by omega)]
          rfl

/-- **Every pass is counted, and `Defunct` is reported before the last attempt.**  For
any `max_connection_attempts` of at least `2` and a node whose version is not the
initial `1.0.0`:
* when every pass fetches that version and `do_connect` returns `SystemReconnect`, the
  listener returns `MAX_CONNECTION_ATTEMPTS_REACHED` after `max_connection_attempts`
  passes, none of which failed: `SystemReconnect` does not leave the counter unchanged;
* when the fetch fails `max_connection_attempts - 1` times and then succeeds, the
  listener reports `Defunct` and then makes another attempt. -/
theorem attempt_counter_and_defunct_report (maxConnectionAttempts : Nat)
    (hmax : 2 ≤ maxConnectionAttempts) {version : ProtocolVersion}
    (hversion : version ≠ .fromParts 1 0 0) (connect : Except Unit ConnectOutcome) :
    (streamAggregatedEvents maxConnectionAttempts
        (List.replicate maxConnectionAttempts ⟨.ok version, .ok .systemReconnect⟩)).2 =
      some .maxConnectionAttemptsReached ∧
    ∃ before after, (streamAggregatedEvents maxConnectionAttempts
        (List.replicate (maxConnectionAttempts - 1) ⟨.error, connect⟩ ++ [⟨.ok version, connect⟩])).1 =
        before ++ .status .defunct :: after ∧ .attempting maxConnectionAttempts ∈ after := by
  constructor
  · -- the first pass sees the new version and restarts the count; the others count up
    obtain ⟨rest, hrest⟩ : ∃ rest, maxConnectionAttempts = rest + 1 := ⟨_, (Nat.sub_add_cancel (by omega)).symm⟩
    rw [hrest, List.replicate_succ]
    show (attemptLoop _ _ 1 _).2 = _
    rw [attemptLoop_new_version (by omega) (Ne.symm hversion) (by simp)]
    exact attemptLoop_systemReconnect _ version rest 2 (by omega)
  · obtain ⟨reported, hevents, hlast⟩ := attemptLoop_retries maxConnectionAttempts (.fromParts 1 0 0)
      connect [⟨.ok version, connect⟩] (maxConnectionAttempts - 1) 1 (by omega)
    obtain ⟨tail, htail⟩ := @attemptLoop_attempting maxConnectionAttempts maxConnectionAttempts
      (.fromParts 1 0 0) (le_refl _) ⟨.ok version, connect⟩ []
    -- `Defunct` closes the failed fetches; the pass after them is another attempt
    refine ⟨.status .preparing :: .status .connecting :: reported.dropLast,
      (attemptLoop maxConnectionAttempts (.fromParts 1 0 0) maxConnectionAttempts
        [⟨.ok version, connect⟩]).1, ?_, by rw [htail]; exact List.mem_cons_self⟩
    show .status .preparing :: .status .connecting :: (attemptLoop _ _ 1 _).1 = _
    rw [hevents, ← List.dropLast_append_getLast? _ (hlast (by omega))]
    simp

/-- With two attempts allowed and a node at 1.5.2: two passes that end in
`SystemReconnect` exhaust the attempts, and one failed fetch reports `Defunct` before
the second attempt. -/
theorem attempt_counter_and_defunct_report_two_attempts :
    (streamAggregatedEvents 2 (List.replicate 2 ⟨.ok (.fromParts 1 5 2), .ok .systemReconnect⟩)).2 =
      some .maxConnectionAttemptsReached ∧
    ∃ before after, (streamAggregatedEvents 2 (List.replicate (2 - 1) ⟨.error, .ok .systemReconnect⟩ ++
        [⟨.ok (.fromParts 1 5 2), .ok .systemReconnect⟩])).1 =
        before ++ .status .defunct :: after ∧ .attempting 2 ∈ after :=
  attempt_counter_and_defunct_report 2 (le_refl 2) (by decide) (.ok .systemReconnect)

example :
    (streamAggregatedEvents 2 [⟨.error, .ok .systemReconnect⟩,
      ⟨.ok (.fromParts 1 5 2), .ok .systemReconnect⟩]).1 =
      [.status .preparing, .status .connecting, .attempting 1, .status .defunct, .attempting 2] := by
  decide

/-! ## The listener's loop runs `attemptLoop`

`EventListener` steps the same loop one action at a time, between the steps of its
manager tasks, the registry task and the node.  A pass of `attemptLoop` is the
listener's `get_version`, then, when the fetch gave a version, its `do_connect` until
`select_all` makes it return.  Seen from its loop alone, the listener stands where
`attemptLoop` stands after the passes its loop has taken. -/

section Listener

variable {config : ListenerConfig} {l l' : EventListener} {taken : List Pass}

/-- The count the listener's next pass starts from: a pass past `get_version` is already
counted, since the loop adds one whatever `do_connect` returns. -/
def EventListener.nextPassAttempt (l : EventListener) : Nat :=
  match l.phase with
  | .connecting | .selecting _ => l.currentAttempt + 1
  | .attempting | .stopped => l.currentAttempt

theorem EventListener.nextPassAttempt_of_attempting (hphase : l.phase = .attempting) :
    l.nextPassAttempt = l.currentAttempt := by
  simp [EventListener.nextPassAttempt, hphase]

theorem EventListener.nextPassAttempt_of_connecting (hphase : l.phase = .connecting) :
    l.nextPassAttempt = l.currentAttempt + 1 := by
  simp [EventListener.nextPassAttempt, hphase]

theorem EventListener.nextPassAttempt_of_selecting {handles : List Nat}
    (hphase : l.phase = .selecting handles) : l.nextPassAttempt = l.currentAttempt + 1 := by
  simp [EventListener.nextPassAttempt, hphase]

theorem EventListener.nextPassAttempt_nextAttempt (l : EventListener) (config : ListenerConfig) :
    (l.nextAttempt config).nextPassAttempt = l.currentAttempt + 1 := by
  by_cases hmax : l.currentAttempt + 1 ≤ config.maxConnectionAttempts <;>
    simp [EventListener.nextPassAttempt, EventListener.nextAttempt, hmax]

/-- The listener stands where `attemptLoop` stands after the passes `taken`: while it runs,
`attemptLoop` returns over any passes still to come what it returns from the listener's
version and next count, and the count is within `max_connection_attempts`; once it has
stopped, `attemptLoop` has returned its error. -/
structure EventListener.RunsLoop (config : ListenerConfig) (l : EventListener)
    (taken : List Pass) : Prop where
  running : l.phase ≠ .stopped → ∀ more,
    (attemptLoop config.maxConnectionAttempts (.fromParts 1 0 0) 1 (taken ++ more)).2 =
      (attemptLoop config.maxConnectionAttempts l.nodeBuildVersion l.nextPassAttempt more).2
  stopped : l.phase = .stopped →
    (attemptLoop config.maxConnectionAttempts (.fromParts 1 0 0) 1 taken).2.isSome
  counted : l.phase ≠ .stopped → 0 < l.currentAttempt ∧ l.currentAttempt ≤ config.maxConnectionAttempts

theorem EventListener.runsLoop_init (config : ListenerConfig) (node : Filter → NodeFilter) :
    (EventListener.init config node).RunsLoop config [] := by
  by_cases hmax : 1 ≤ config.maxConnectionAttempts
  · have hphase : (EventListener.init config node).phase = .attempting := if_pos hmax
    refine ⟨fun _ more => ?_, fun hstopped => absurd hstopped (by simp [hphase]),
      fun _ => ⟨Nat.one_pos, hmax⟩⟩
    rw [EventListener.nextPassAttempt_of_attempting hphase, List.nil_append]
    rfl
  · have hphase : (EventListener.init config node).phase = .stopped := if_neg hmax
    refine ⟨fun hrunning => absurd hphase hrunning, fun _ => ?_,
      fun hrunning => absurd hphase hrunning⟩
    rw [attemptLoop_of_lt (show config.maxConnectionAttempts < 1 by omega)]
    rfl

/-- A step that leaves the loop's version and count where they were. -/
theorem EventListener.RunsLoop.of_eq (h : l.RunsLoop config taken)
    (hstopped : l'.phase = .stopped ↔ l.phase = .stopped)
    (hversion : l'.nodeBuildVersion = l.nodeBuildVersion)
    (hattempt : l'.currentAttempt = l.currentAttempt)
    (hnext : l'.nextPassAttempt = l.nextPassAttempt) : l'.RunsLoop config taken := by
  refine ⟨fun hrunning more => ?_, fun hs => h.stopped (hstopped.mp hs),
    fun hrunning => hattempt ▸ h.counted (mt hstopped.mpr hrunning)⟩
  rw [hversion, hnext]
  exact h.running (mt hstopped.mpr hrunning) more

/-- The end of a pass: the loop counts the attempt and goes on, or stops once the count
passes `max_connection_attempts`, as `attemptLoop` does from the count plus one. -/
theorem EventListener.runsLoop_nextAttempt
    (hcontinues : ∀ more,
      (attemptLoop config.maxConnectionAttempts (.fromParts 1 0 0) 1 (taken ++ more)).2 =
        (attemptLoop config.maxConnectionAttempts l.nodeBuildVersion (l.currentAttempt + 1) more).2) :
    (l.nextAttempt config).RunsLoop config taken := by
  by_cases hmax : l.currentAttempt + 1 ≤ config.maxConnectionAttempts
  · have hphase : (l.nextAttempt config).phase = .attempting := if_pos hmax
    refine ⟨fun _ more => ?_, fun hstopped => absurd hstopped (by simp [hphase]),
      fun _ => ⟨Nat.succ_pos _, hmax⟩⟩
    rw [hcontinues more, EventListener.nextPassAttempt_nextAttempt]
    rfl
  · have hphase : (l.nextAttempt config).phase = .stopped := if_neg hmax
    refine ⟨fun hrunning => absurd hphase hrunning, fun _ => ?_,
      fun hrunning => absurd hphase hrunning⟩
    -- `attemptLoop` stops at the next head of its loop
    have hended := hcontinues []
    rw [List.append_nil,
      attemptLoop_of_lt (show config.maxConnectionAttempts < l.currentAttempt + 1 by omega)] at hended
    rw [hended]
    rfl

/-- `get_version` takes a pass: `attemptLoop` is fed the fetch's result, and what
`do_connect` will return is left open since the error does not depend on it. -/
theorem EventListener.RunsLoop.getVersion (h : l.RunsLoop config taken)
    (hphase : l.phase = .attempting) (result : FetchResult) :
    (l.getVersion config result).RunsLoop config (taken ++ [⟨result, .ok .systemReconnect⟩]) := by
  have hrunning : l.phase ≠ .stopped := by simp [hphase]
  obtain ⟨hpos, hle⟩ := h.counted hrunning
  have hnext := EventListener.nextPassAttempt_of_attempting hphase
  -- the pass taken now, followed by those still to come
  have hpass : ∀ more,
      (attemptLoop config.maxConnectionAttempts (.fromParts 1 0 0) 1
          (taken ++ [⟨result, .ok .systemReconnect⟩] ++ more)).2 =
        (attemptLoop config.maxConnectionAttempts l.nodeBuildVersion l.currentAttempt
          (⟨result, .ok .systemReconnect⟩ :: more)).2 := fun more => by
    rw [List.append_assoc, List.singleton_append, h.running hrunning, hnext]
  cases result with
  | ok version =>
      rw [EventListener.getVersion_ok]
      refine ⟨fun _ more => ?_, fun hstopped => by simp at hstopped, fun _ => ?_⟩
      · rw [hpass, attemptLoop_snd_cons hle]
        rfl
      · dsimp only
        split <;> omega
  | error =>
      refine EventListener.runsLoop_nextAttempt fun more => ?_
      rw [hpass, attemptLoop_snd_cons hle]
  | versionNotAcceptable =>
      refine ⟨fun hrunning' => absurd rfl hrunning', fun _ => ?_,
        fun hrunning' => absurd rfl hrunning'⟩
      have hreturned := hpass []
      rw [List.append_nil, attemptLoop_snd_cons hle] at hreturned
      rw [hreturned]
      rfl

/-- A pass past `get_version` ends: the loop counts it and goes on, or stops. -/
theorem EventListener.RunsLoop.nextAttempt (h : l.RunsLoop config taken)
    (hrunning : l.phase ≠ .stopped) (hnext : l.nextPassAttempt = l.currentAttempt + 1) :
    (l.nextAttempt config).RunsLoop config taken :=
  EventListener.runsLoop_nextAttempt fun more => by rw [h.running hrunning more, hnext]

/-- `do_connect` starts the managers and waits, or returns the error of building them,
which ends the pass. -/
theorem EventListener.RunsLoop.doConnect (h : l.RunsLoop config taken)
    (hphase : l.phase = .connecting) (built : Bool) :
    (l.doConnect config built).RunsLoop config taken := by
  have hnext := EventListener.nextPassAttempt_of_connecting hphase
  cases built with
  | true =>
      -- the managers start and `do_connect` waits in `select_all`, the pass still counted
      refine h.of_eq (by simp [EventListener.doConnect, EventListener.startConnections, hphase])
        rfl rfl ?_
      rw [EventListener.nextPassAttempt_of_selecting rfl, hnext]
      rfl
  | false => exact h.nextAttempt (by simp [hphase]) hnext

/-- `select_all` returns: `do_connect` returns and the pass ends, or it waits on. -/
theorem EventListener.RunsLoop.select (h : l.RunsLoop config taken) {handle : Nat}
    (hstep : l.select config handle = some l') : l'.RunsLoop config taken := by
  obtain ⟨handles, hphase, rfl | rfl⟩ := EventListener.select_cases hstep
  · exact h.nextAttempt (by simp [hphase]) (EventListener.nextPassAttempt_of_selecting hphase)
  · refine h.of_eq (by simp [hphase]) rfl rfl ?_
    rw [EventListener.nextPassAttempt_of_selecting hphase,
      EventListener.nextPassAttempt_of_selecting rfl]

/-- A step of a manager task leaves the loop where it is. -/
theorem EventListener.RunsLoop.taskStep (h : l.RunsLoop config taken) (hstep : l.TaskStep l') :
    l'.RunsLoop config taken :=
  h.of_eq (by rw [hstep.phase]) hstep.nodeBuildVersion hstep.currentAttempt
    (by simp only [EventListener.nextPassAttempt, hstep.phase, hstep.currentAttempt])

theorem EventListener.RunsLoop.step (h : l.RunsLoop config taken) {a : ListenerAction}
    (hstep : l.step config a = some l') : ∃ taken', l'.RunsLoop config taken' := by
  cases a with
  | getVersion result =>
      obtain ⟨hphase, rfl⟩ := EventListener.eq_getVersion_of_step hstep
      exact ⟨_, h.getVersion hphase result⟩
  | doConnect built =>
      obtain ⟨hphase, rfl⟩ := EventListener.eq_doConnect_of_step hstep
      exact ⟨taken, h.doConnect hphase built⟩
  | select handle => exact ⟨taken, h.select hstep⟩
  | connect k result => exact ⟨taken, h.taskStep (EventListener.taskStep_of_connect hstep)⟩
  | wait k => exact ⟨taken, h.taskStep (EventListener.taskStep_of_wait hstep)⟩
  | receive k => exact ⟨taken, h.taskStep (EventListener.taskStep_of_receive hstep)⟩
  | streamEnds k => exact ⟨taken, h.taskStep (EventListener.taskStep_of_streamEnds hstep)⟩
  | report k => exact ⟨taken, h.taskStep (EventListener.taskStep_of_report hstep)⟩
  | forward k => exact ⟨taken, h.taskStep (EventListener.taskStep_of_forward hstep)⟩
  | registerLastSeenEventId =>
      -- the registry task leaves the loop alone
      obtain ⟨map, channel, rfl⟩ := EventListener.exists_registry_of_register hstep
      exact ⟨taken, h.of_eq Iff.rfl rfl rfl rfl⟩
  | publish filter event =>
      obtain ⟨node, -, rfl⟩ := EventListener.exists_grows_of_publish hstep
      exact ⟨taken, h.of_eq Iff.rfl rfl rfl rfl⟩
  | evict filter =>
      obtain ⟨node, -, rfl⟩ := EventListener.exists_grows_of_evict hstep
      exact ⟨taken, h.of_eq Iff.rfl rfl rfl rfl⟩

/-- **The listener's loop runs `attemptLoop`.**  Over every run of the listener, its
manager tasks, the registry task and the node interleaved in any order, there are the
passes its loop has taken, the results of its fetches in order, after which
`attemptLoop` stands where the listener stands: while the listener runs, its version
and count give the error `attemptLoop` returns over whatever passes are still to come,
and the count is within `max_connection_attempts`; a listener that has stopped is a loop
that has returned its error. -/
theorem EventListener.Reachable.runsLoop {node : Filter → NodeFilter}
    (hl : l.Reachable config node) : ∃ taken, l.RunsLoop config taken :=
  @Transition.Reachable.invariant _ _ _ _ (fun l => ∃ taken, l.RunsLoop config taken)
    ⟨[], EventListener.runsLoop_init config node⟩
    (fun _ _ _ ⟨_, h⟩ hstep => h.step hstep) _ hl

end Listener

end CasperSidecar
