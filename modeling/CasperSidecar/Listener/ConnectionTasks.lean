import Mathlib
import CasperSidecar.Listener.EventListener

/-!
# Listener.ConnectionTasks

When partial connections are not allowed, the managers of one `do_connect` share a
`ConnectionTasks` (`listener/src/connection_tasks.rs`), so that "a failure to
connect to any filter should cause all connections to fail without reading any
events from the stream(s)".  Each manager registers the success or the failure of
its connection; `wait` ends the manager once a failure is registered and lets it
read its stream once `successes` reaches `total`.

Over every run of the listener, with the managers of earlier `do_connect` calls
still running, a manager reads its stream only when every manager of its
`do_connect` has connected and none has failed (`reads_only_when_all_connected`).
The proof counts: `total` is the number of managers spawned with the
`ConnectionTasks`, and every registration is made by one of them as it leaves its
connecting phase (`EventListener.Synchronized`).
-/

namespace CasperSidecar

/-! ## Counting the managers of a `do_connect` -/

/-- Whether a task was spawned with the `ConnectionTasks` of number `g`. -/
def ManagerTask.inGroup (g : Nat) (task : ManagerTask) : Bool :=
  task.connectionTasks == some g

/-- Whether a task spawned with the `ConnectionTasks` of number `g` is past its
connection. -/
def ManagerTask.connectedIn (g : Nat) (task : ManagerTask) : Bool :=
  task.phase != .connecting && task.inGroup g

/-- Whether a task reads its stream: in `handle_stream` or `handle_event`. -/
def ManagerPhase.isReading : ManagerPhase → Bool
  | .streaming _ | .reporting _ | .forwarding _ => true
  | _ => false

/-- The invariant: every task's `ConnectionTasks` exists; `total` is the number of
tasks spawned with it; its successes and its failure were registered by tasks past
their connection, one registration each; and a task reading its stream saw `wait`
return with every success registered. -/
structure EventListener.Synchronized (l : EventListener) : Prop where
  groupLt : ∀ task ∈ l.tasks, ∀ g, task.connectionTasks = some g → g < l.connectionTasks.length
  total : ∀ g tasks, l.connectionTasks[g]? = some tasks →
    tasks.total = l.tasks.countP (ManagerTask.inGroup g)
  counted : ∀ g tasks, l.connectionTasks[g]? = some tasks →
    tasks.successes + (if tasks.failure then 1 else 0) ≤ l.tasks.countP (ManagerTask.connectedIn g)
  passed : ∀ task ∈ l.tasks, ∀ g, task.connectionTasks = some g → task.phase.isReading →
    ∀ tasks, l.connectionTasks[g]? = some tasks → tasks.total ≤ tasks.successes

/-- Replacing an element by one on which the predicate agrees keeps the count. -/
theorem countP_set_of_eq {α : Type} {p : α → Bool} {l : List α} {k : Nat} {a b : α}
    (hk : l[k]? = some a) (hab : p b = p a) : (l.set k b).countP p = l.countP p := by
  obtain ⟨hlt, rfl⟩ := List.getElem?_eq_some_iff.mp hk
  have hle : (if p l[k] then 1 else 0) ≤ l.countP p := List.boole_getElem_le_countP hlt
  rw [List.countP_set hlt, hab]
  omega

/-- Replacing an element the predicate rejects by one it accepts counts one more. -/
theorem countP_set_of_false_of_true {α : Type} {p : α → Bool} {l : List α} {k : Nat} {a b : α}
    (hk : l[k]? = some a) (ha : p a = false) (hb : p b = true) :
    (l.set k b).countP p = l.countP p + 1 := by
  obtain ⟨hlt, rfl⟩ := List.getElem?_eq_some_iff.mp hk
  rw [List.countP_set hlt, ha, hb]
  simp

theorem ManagerTask.inGroup_eq {task task' : ManagerTask}
    (hgroup : task'.connectionTasks = task.connectionTasks) (g : Nat) :
    task'.inGroup g = task.inGroup g := by
  simp only [ManagerTask.inGroup, hgroup]

/-- Two tasks past their connection, of the same `do_connect`, count alike. -/
theorem ManagerTask.connectedIn_eq {task task' : ManagerTask} (hphase : task.phase ≠ .connecting)
    (hphase' : task'.phase ≠ .connecting) (hgroup : task'.connectionTasks = task.connectionTasks)
    (g : Nat) : task'.connectedIn g = task.connectedIn g := by
  have hne : (task.phase != .connecting) = true := bne_iff_ne.mpr hphase
  have hne' : (task'.phase != .connecting) = true := bne_iff_ne.mpr hphase'
  simp only [ManagerTask.connectedIn, hne, hne', ManagerTask.inGroup_eq hgroup]

/-! ## Each step keeps the invariant -/

theorem EventListener.Synchronized.of_eq {l l' : EventListener} (h : l.Synchronized)
    (htasks : l'.tasks = l.tasks) (hgroups : l'.connectionTasks = l.connectionTasks) :
    l'.Synchronized := by
  obtain ⟨groupLt, total, counted, passed⟩ := h
  refine ⟨?_, ?_, ?_, ?_⟩ <;> simpa only [htasks, hgroups]

/-- A task moves on within its `do_connect` without registering anything: it counts
as before, and it reads its stream afterwards only if it did before, or if its
`ConnectionTasks` has every success registered. -/
theorem EventListener.Synchronized.setTask {l l' : EventListener} (h : l.Synchronized) {k : Nat}
    {task task' : ManagerTask} (htask : l.tasks[k]? = some task)
    (htasks : l'.tasks = l.tasks.set k task') (hgroups : l'.connectionTasks = l.connectionTasks)
    (hgroup : task'.connectionTasks = task.connectionTasks)
    (hconnected : ∀ g, task'.connectedIn g = task.connectedIn g)
    (hreading : task'.phase.isReading → task.phase.isReading ∨ ∀ g, task.connectionTasks = some g →
      ∀ tasks, l.connectionTasks[g]? = some tasks → tasks.total ≤ tasks.successes) :
    l'.Synchronized := by
  have hmem := List.mem_of_getElem? htask
  refine ⟨fun t ht g hg => ?_, fun g tasks hg => ?_, fun g tasks hg => ?_,
    fun t ht g hg hr tasks htg => ?_⟩
  · rw [htasks] at ht
    rw [hgroups]
    rcases List.mem_or_eq_of_mem_set ht with hold | rfl
    · exact h.groupLt t hold g hg
    · exact h.groupLt task hmem g (hgroup ▸ hg)
  · rw [hgroups] at hg
    rw [htasks, countP_set_of_eq htask (ManagerTask.inGroup_eq hgroup g)]
    exact h.total g tasks hg
  · rw [hgroups] at hg
    rw [htasks, countP_set_of_eq htask (hconnected g)]
    exact h.counted g tasks hg
  · rw [htasks] at ht
    rw [hgroups] at htg
    rcases List.mem_or_eq_of_mem_set ht with hold | rfl
    · exact h.passed t hold g hg hr tasks htg
    · rcases hreading hr with hwas | hall
      · exact h.passed task hmem g (hgroup ▸ hg) hwas tasks htg
      · exact hall g (hgroup ▸ hg) tasks htg

/-- A task past its connection moves on without registering anything, and reads its
stream afterwards only if it did before. -/
theorem EventListener.Synchronized.moveOn {l l' : EventListener} (h : l.Synchronized) {k : Nat}
    {task task' : ManagerTask} (htask : l.tasks[k]? = some task)
    (htasks : l'.tasks = l.tasks.set k task') (hgroups : l'.connectionTasks = l.connectionTasks)
    (hgroup : task'.connectionTasks = task.connectionTasks) (hphase : task.phase ≠ .connecting)
    (hphase' : task'.phase ≠ .connecting) (hreading : task'.phase.isReading → task.phase.isReading) :
    l'.Synchronized :=
  h.setTask htask htasks hgroups hgroup (ManagerTask.connectedIn_eq hphase hphase' hgroup)
    fun hr => .inl (hreading hr)

/-- What registering a connection's outcome does to a `ConnectionTasks`: `total` stays,
`successes` does not go down, and at most one more success or failure is counted. -/
def Registration (register : ConnectionTasks → ConnectionTasks) : Prop :=
  ∀ tasks, (register tasks).total = tasks.total ∧ tasks.successes ≤ (register tasks).successes ∧
    (register tasks).successes + (if (register tasks).failure then 1 else 0) ≤
      tasks.successes + (if tasks.failure then 1 else 0) + 1

theorem registration_success :
    Registration fun tasks => { tasks with successes := tasks.successes + 1 } := by
  intro tasks
  refine ⟨rfl, Nat.le_succ _, ?_⟩
  simp only
  omega

theorem registration_failure : Registration fun tasks => { tasks with failure := true } := by
  intro tasks
  refine ⟨rfl, le_refl _, ?_⟩
  simp only [if_true]
  split <;> omega

/-- A task of a `do_connect` leaves its connecting phase and registers the outcome with
its `ConnectionTasks`. -/
theorem EventListener.Synchronized.register {l l' : EventListener} (h : l.Synchronized)
    {k g : Nat} {task task' : ManagerTask} {register : ConnectionTasks → ConnectionTasks}
    (htask : l.tasks[k]? = some task) (htasks : l'.tasks = l.tasks.set k task')
    (hgroups : l'.connectionTasks = l.connectionTasks.modify g register)
    (hphase : task.phase = .connecting) (hphase' : task'.phase ≠ .connecting)
    (hgroup : task.connectionTasks = some g) (hgroup' : task'.connectionTasks = some g)
    (hreading : task'.phase.isReading = false) (hregister : Registration register) :
    l'.Synchronized := by
  have hmem := List.mem_of_getElem? htask
  have hsame := ManagerTask.inGroup_eq (hgroup'.trans hgroup.symm)
  -- the registration's `ConnectionTasks`, and every other one as it was
  have hget : ∀ g' tasks, l'.connectionTasks[g']? = some tasks →
      ∃ old, l.connectionTasks[g']? = some old ∧ tasks = if g = g' then register old else old := by
    intro g' tasks hg'
    rw [hgroups, List.getElem?_modify] at hg'
    cases hold : l.connectionTasks[g']? with
    | none => simp [hold] at hg'
    | some old =>
        simp only [hold, Option.map_eq_map, Option.map_some, Option.some.injEq] at hg'
        exact ⟨old, rfl, hg'.symm⟩
  refine ⟨fun t ht g' hg' => ?_, fun g' tasks hg' => ?_, fun g' tasks hg' => ?_,
    fun t ht g' hg' hr tasks htg => ?_⟩
  · rw [htasks] at ht
    rw [hgroups, List.length_modify]
    rcases List.mem_or_eq_of_mem_set ht with hold | rfl
    · exact h.groupLt t hold g' hg'
    · exact h.groupLt task hmem g' (hgroup.trans (hgroup'.symm.trans hg'))
  · obtain ⟨old, hold, rfl⟩ := hget g' tasks hg'
    rw [htasks, countP_set_of_eq htask (hsame g'), ← h.total g' old hold]
    split
    · exact (hregister old).1
    · rfl
  · obtain ⟨old, hold, rfl⟩ := hget g' tasks hg'
    have hcounted := h.counted g' old hold
    by_cases hg : g = g'
    · -- the task is one more of its `do_connect` past its connection
      subst hg
      rw [if_pos rfl, htasks, countP_set_of_false_of_true htask
        (by simp [ManagerTask.connectedIn, hphase]) (by simp [ManagerTask.connectedIn,
          ManagerTask.inGroup, hphase', hgroup'])]
      exact ((hregister old).2.2).trans (Nat.add_le_add_right hcounted 1)
    · have hother : ∀ t : ManagerTask, t.connectionTasks = some g → t.connectedIn g' = false :=
        fun t ht => by simp [ManagerTask.connectedIn, ManagerTask.inGroup, ht, hg]
      rw [if_neg hg, htasks, countP_set_of_eq htask ((hother task' hgroup').trans
        (hother task hgroup).symm)]
      exact hcounted
  · rw [htasks] at ht
    obtain ⟨old, hold, rfl⟩ := hget g' tasks htg
    rcases List.mem_or_eq_of_mem_set ht with hkept | rfl
    · have hpassed := h.passed t hkept g' hg' hr old hold
      split
      · rw [(hregister old).1]
        exact hpassed.trans (hregister old).2.1
      · exact hpassed
    · simp [hreading] at hr

/-- `start_connections` appends its managers, connecting, each with the `ConnectionTasks`
`build_connections` appends when partial connections are not allowed. -/
theorem EventListener.startConnections_spawns (l : EventListener) (config : ListenerConfig) :
    ∃ spawned : List ManagerTask, (l.startConnections config).tasks = l.tasks ++ spawned ∧
      spawned.length = 3 ∧ ∀ task ∈ spawned, task.phase = .connecting ∧
        task.connectionTasks =
          if config.allowPartialConnection then none else some l.connectionTasks.length :=
  ⟨_, rfl, rfl, fun task htask => by
    obtain ⟨filter, -, rfl⟩ := List.mem_map.mp htask
    exact ⟨rfl, rfl⟩⟩

/-- The `ConnectionTasks` one past the end of a list, or one of the list. -/
theorem getElem?_append_singleton {α : Type} {l : List α} {a b : α} {g : Nat}
    (h : (l ++ [b])[g]? = some a) : l[g]? = some a ∨ g = l.length ∧ a = b := by
  rcases Nat.lt_or_ge g l.length with hlt | hge
  · exact .inl (by rwa [List.getElem?_append_left hlt] at h)
  · rw [List.getElem?_append_right hge] at h
    have hzero : g - l.length = 0 := by
      cases hi : g - l.length with
      | zero => rfl
      | succ i => simp [hi] at h
    rw [hzero] at h
    exact .inr ⟨by omega, by simpa using h.symm⟩

/-- No task belongs to a `ConnectionTasks` not yet created. -/
theorem EventListener.Synchronized.countP_inGroup_of_le {l : EventListener} (h : l.Synchronized)
    {g : Nat} (hg : l.connectionTasks.length ≤ g) : l.tasks.countP (ManagerTask.inGroup g) = 0 := by
  refine List.countP_eq_zero.mpr fun t ht hin => ?_
  have hlt := h.groupLt t ht g (by simpa [ManagerTask.inGroup] using hin)
  omega

/-- Tasks all spawned with the `ConnectionTasks` of number `c` count in it only. -/
theorem countP_inGroup_of_forall {spawned : List ManagerTask} {c : Nat}
    (hnew : ∀ task ∈ spawned, task.connectionTasks = some c) (g : Nat) :
    spawned.countP (ManagerTask.inGroup g) = if g = c then spawned.length else 0 := by
  split
  · rename_i hg
    rw [List.countP_eq_length]
    intro t ht
    simp [ManagerTask.inGroup, hnew t ht, hg]
  · rename_i hg
    refine List.countP_eq_zero.mpr fun t ht hin => hg ?_
    simp [ManagerTask.inGroup, hnew t ht] at hin
    exact hin.symm

/-- Without partial connections the new managers, none of them reading yet, share the
`ConnectionTasks` appended for them, whose `total` counts them. -/
theorem EventListener.Synchronized.doConnect_shared {l l' : EventListener} (h : l.Synchronized)
    {spawned : List ManagerTask} (htasks : l'.tasks = l.tasks ++ spawned)
    (hgroups : l'.connectionTasks = l.connectionTasks ++ [⟨spawned.length, 0, false⟩])
    (hnew : ∀ task ∈ spawned, task.connectionTasks = some l.connectionTasks.length)
    (hnotReading : ∀ task ∈ spawned, task.phase.isReading = false) : l'.Synchronized := by
  refine ⟨fun t ht g hg => ?_, fun g tasks hg => ?_, fun g tasks hg => ?_,
    fun t ht g hg hr tasks htg => ?_⟩
  · rw [hgroups, List.length_append, List.length_singleton]
    rw [htasks, List.mem_append] at ht
    rcases ht with hkept | hnewTask
    · exact Nat.lt_succ_of_lt (h.groupLt t hkept g hg)
    · rw [hnew t hnewTask, Option.some.injEq] at hg
      omega
  · -- an old `ConnectionTasks` counts the old tasks, the new one the spawned tasks
    rw [hgroups] at hg
    rw [htasks, List.countP_append, countP_inGroup_of_forall hnew]
    rcases getElem?_append_singleton hg with hkept | ⟨rfl, rfl⟩
    · have hlt := (List.getElem?_eq_some_iff.mp hkept).1
      rw [if_neg (by omega), h.total g tasks hkept, Nat.add_zero]
    · rw [if_pos rfl, h.countP_inGroup_of_le (le_refl _), Nat.zero_add]
  · rw [hgroups] at hg
    rcases getElem?_append_singleton hg with hkept | ⟨rfl, rfl⟩
    · rw [htasks, List.countP_append]
      exact (h.counted g tasks hkept).trans (Nat.le_add_right _ _)
    · simp
  · rw [hgroups] at htg
    rw [htasks, List.mem_append] at ht
    rcases ht with hkept | hnewTask
    · rcases getElem?_append_singleton htg with hkept' | ⟨rfl, -⟩
      · exact h.passed t hkept g hg hr tasks hkept'
      · exact absurd (h.groupLt t hkept _ hg) (lt_irrefl _)
    · simp [hnotReading t hnewTask] at hr

/-- With partial connections the new managers have no `ConnectionTasks`: they count in
none. -/
theorem EventListener.Synchronized.doConnect_partial {l l' : EventListener} (h : l.Synchronized)
    {spawned : List ManagerTask} (htasks : l'.tasks = l.tasks ++ spawned)
    (hgroups : l'.connectionTasks = l.connectionTasks)
    (hnew : ∀ task ∈ spawned, task.connectionTasks = none) : l'.Synchronized := by
  have hnone : ∀ p, (∀ t : ManagerTask, t.connectionTasks = none → p t = false) →
      l'.tasks.countP p = l.tasks.countP p := by
    intro p hp
    have hzero : spawned.countP p = 0 :=
      List.countP_eq_zero.mpr fun t ht hpt => by simp [hp t (hnew t ht)] at hpt
    rw [htasks, List.countP_append, hzero, Nat.add_zero]
  refine ⟨fun t ht g hg => ?_, fun g tasks hg => ?_, fun g tasks hg => ?_,
    fun t ht g hg hr tasks htg => ?_⟩
  · rw [htasks, List.mem_append] at ht
    rw [hgroups]
    rcases ht with hkept | hnewTask
    · exact h.groupLt t hkept g hg
    · simp [hnew t hnewTask] at hg
  · rw [hgroups] at hg
    rw [hnone _ fun t ht => by simp [ManagerTask.inGroup, ht]]
    exact h.total g tasks hg
  · rw [hgroups] at hg
    rw [hnone _ fun t ht => by simp [ManagerTask.connectedIn, ManagerTask.inGroup, ht]]
    exact h.counted g tasks hg
  · rw [hgroups] at htg
    rw [htasks, List.mem_append] at ht
    rcases ht with hkept | hnewTask
    · exact h.passed t hkept g hg hr tasks htg
    · simp [hnew t hnewTask] at hg

/-- The managers of a new `do_connect` are connecting; without partial connections they
share a new `ConnectionTasks` whose `total` counts them. -/
theorem EventListener.Synchronized.startConnections {l : EventListener} (h : l.Synchronized)
    (config : ListenerConfig) : (l.startConnections config).Synchronized := by
  obtain ⟨spawned, htasks, hlength, hspawned⟩ := l.startConnections_spawns config
  cases hallowPartial : config.allowPartialConnection
  · have hnew : ∀ task ∈ spawned, task.connectionTasks = some l.connectionTasks.length :=
      fun task ht => by simpa [hallowPartial] using (hspawned task ht).2
    have hnotReading : ∀ task ∈ spawned, task.phase.isReading = false := fun task ht => by
      simp [(hspawned task ht).1, ManagerPhase.isReading]
    refine h.doConnect_shared htasks ?_ hnew hnotReading
    rw [hlength]
    simp [EventListener.startConnections, hallowPartial, filtersFromVersion]
  · have hnew : ∀ task ∈ spawned, task.connectionTasks = none :=
      fun task ht => by simpa [hallowPartial] using (hspawned task ht).2
    exact h.doConnect_partial htasks (by simp [EventListener.startConnections, hallowPartial]) hnew

/-- A `do_connect` whose `build_connections` failed spawned nothing. -/
theorem EventListener.Synchronized.doConnect {l : EventListener} (h : l.Synchronized)
    (config : ListenerConfig) (built : Bool) : (l.doConnect config built).Synchronized := by
  cases built with
  | true => exact h.startConnections config
  | false =>
      have hkeeps := l.keepsTasks_nextAttempt config
      exact h.of_eq hkeeps.tasks hkeeps.connectionTasks

theorem EventListener.Synchronized.connect {l l' : EventListener} (h : l.Synchronized) {k : Nat}
    {result : Except ConnectionManagerError Unit} (hstep : l.connect k result = some l') :
    l'.Synchronized := by
  unfold EventListener.connect at hstep
  cases htask : l.tasks[k]? with
  | none => simp [htask] at hstep
  | some task =>
      rw [htask] at hstep
      cases hphase : task.phase <;> cases result <;> simp only [hphase, reduceCtorEq] at hstep
      case connecting.error err =>
        cases hg : task.connectionTasks <;> simp only [hg, Option.some.injEq] at hstep <;>
          subst hstep
        · -- alone, the task only ends
          exact h.setTask htask rfl rfl hg.symm
            (fun g' => by simp [ManagerTask.connectedIn, ManagerTask.inGroup, hg])
            (fun hr => by simp [ManagerPhase.isReading] at hr)
        · exact h.register htask rfl rfl hphase (by simp) hg rfl rfl registration_failure
      case connecting.ok u =>
        cases hg : task.connectionTasks <;> simp only [hg, Option.some.injEq] at hstep <;>
          subst hstep
        · -- alone, the task reads its stream at once
          exact h.setTask htask rfl rfl hg.symm
            (fun g' => by simp [ManagerTask.connectedIn, ManagerTask.inGroup, hg])
            (fun _ => .inr fun g' hg' => by simp [hg] at hg')
        · exact h.register htask rfl rfl hphase (by simp) hg rfl rfl registration_success

theorem EventListener.Synchronized.wait {l l' : EventListener} (h : l.Synchronized) {k : Nat}
    (hstep : l.wait k = some l') : l'.Synchronized := by
  unfold EventListener.wait at hstep
  cases htask : l.tasks[k]? with
  | none => simp [htask] at hstep
  | some task =>
      rw [htask] at hstep
      cases hphase : task.phase <;> cases hg : task.connectionTasks <;>
        simp only [hphase, hg, reduceCtorEq] at hstep
      case waiting.some position g =>
        cases hgroup : l.connectionTasks[g]? with
        | none => simp [hgroup] at hstep
        | some tasks =>
            simp only [hgroup] at hstep
            split at hstep
            · -- a filter failed to connect: the task ends
              simp only [Option.some.injEq] at hstep
              subst hstep
              exact h.moveOn htask rfl rfl (by simp [hg]) (by simp [hphase]) (by simp)
                (fun hr => by simp [ManagerPhase.isReading] at hr)
            · split at hstep
              · -- every filter connected: the task reads its stream
                rename_i hall
                simp only [Option.some.injEq] at hstep
                subst hstep
                refine h.setTask htask rfl rfl (by simp [hg])
                  (ManagerTask.connectedIn_eq (by simp [hphase]) (by simp) (by simp [hg]))
                  fun _ => .inr fun g' hg' tasks' htasks' => ?_
                rw [hg, Option.some.injEq] at hg'
                subst hg'
                rw [hgroup, Option.some.injEq] at htasks'
                subst htasks'
                exact hall
              · cases hstep

theorem EventListener.Synchronized.receive {l l' : EventListener} (h : l.Synchronized) {k : Nat}
    (hstep : l.receive k = some l') : l'.Synchronized := by
  unfold EventListener.receive at hstep
  cases htask : l.tasks[k]? with
  | none => simp [htask] at hstep
  | some task =>
      rw [htask] at hstep
      cases hphase : task.phase <;> simp only [hphase, reduceCtorEq] at hstep
      case streaming position =>
        cases hevent : (l.node task.filter).events[position]? with
        | none => simp [hevent] at hstep
        | some event =>
            simp only [hevent, Option.some.injEq] at hstep
            subst hstep
            exact h.moveOn htask rfl rfl rfl (by simp [hphase]) (by simp)
              (fun _ => by simp [hphase, ManagerPhase.isReading])

theorem EventListener.Synchronized.streamEnds {l l' : EventListener} (h : l.Synchronized) {k : Nat}
    (hstep : l.streamEnds k = some l') : l'.Synchronized := by
  unfold EventListener.streamEnds at hstep
  cases htask : l.tasks[k]? with
  | none => simp [htask] at hstep
  | some task =>
      rw [htask] at hstep
      cases hphase : task.phase <;> simp only [hphase, reduceCtorEq, Option.some.injEq] at hstep
      subst hstep
      exact h.moveOn htask rfl rfl rfl (by simp [hphase]) (by simp)
        (fun hr => by simp [ManagerPhase.isReading] at hr)

theorem EventListener.Synchronized.report {l l' : EventListener} (h : l.Synchronized) {k : Nat}
    (hstep : l.report k = some l') : l'.Synchronized := by
  unfold EventListener.report at hstep
  cases htask : l.tasks[k]? with
  | none => simp [htask] at hstep
  | some task =>
      rw [htask] at hstep
      cases hphase : task.phase <;> simp only [hphase, reduceCtorEq] at hstep
      case reporting position =>
        cases hevent : (l.node task.filter).events[position]? with
        | none => simp [hevent] at hstep
        | some event =>
            simp only [hevent] at hstep
            split at hstep
            · simp only [Option.some.injEq] at hstep
              subst hstep
              exact h.moveOn htask rfl rfl rfl (by simp [hphase]) (by simp)
                (fun _ => by simp [hphase, ManagerPhase.isReading])
            · cases hstep

theorem EventListener.Synchronized.forward {l l' : EventListener} (h : l.Synchronized) {k : Nat}
    (hstep : l.forward k = some l') : l'.Synchronized := by
  unfold EventListener.forward at hstep
  cases htask : l.tasks[k]? with
  | none => simp [htask] at hstep
  | some task =>
      rw [htask] at hstep
      cases hphase : task.phase <;> simp only [hphase, reduceCtorEq] at hstep
      case forwarding position =>
        cases hevent : (l.node task.filter).events[position]? with
        | none => simp [hevent] at hstep
        | some event =>
            simp only [hevent] at hstep
            split at hstep
            · simp only [Option.some.injEq] at hstep
              subst hstep
              exact h.moveOn htask rfl rfl rfl (by simp [hphase]) (by simp)
                (fun _ => by simp [hphase, ManagerPhase.isReading])
            · simp only [Option.some.injEq] at hstep
              subst hstep
              exact h.moveOn htask rfl rfl rfl (by simp [hphase]) (by simp)
                (fun hr => by simp [ManagerPhase.isReading] at hr)

theorem EventListener.Synchronized.step {config : ListenerConfig} {l l' : EventListener}
    {a : ListenerAction} (h : l.Synchronized) (hstep : l.step config a = some l') :
    l'.Synchronized := by
  cases a with
  | getVersion result =>
      obtain ⟨-, rfl⟩ := EventListener.eq_getVersion_of_step hstep
      have hkeeps := l.keepsTasks_getVersion config result
      exact h.of_eq hkeeps.tasks hkeeps.connectionTasks
  | doConnect built =>
      obtain ⟨-, rfl⟩ := EventListener.eq_doConnect_of_step hstep
      exact h.doConnect config built
  | select handle =>
      have hkeeps := EventListener.keepsTasks_of_select hstep
      exact h.of_eq hkeeps.tasks hkeeps.connectionTasks
  | connect k result => exact h.connect hstep
  | wait k => exact h.wait hstep
  | receive k => exact h.receive hstep
  | streamEnds k => exact h.streamEnds hstep
  | report k => exact h.report hstep
  | forward k => exact h.forward hstep
  | registerLastSeenEventId =>
      obtain ⟨map, channel, rfl⟩ := EventListener.exists_registry_of_register hstep
      exact h.of_eq rfl rfl
  | publish filter event =>
      obtain ⟨node, -, rfl⟩ := EventListener.exists_grows_of_publish hstep
      exact h.of_eq rfl rfl
  | evict filter =>
      obtain ⟨node, -, rfl⟩ := EventListener.exists_grows_of_evict hstep
      exact h.of_eq rfl rfl

theorem EventListener.Reachable.synchronized {config : ListenerConfig} {node : Filter → NodeFilter}
    {l : EventListener} (hl : l.Reachable config node) : l.Synchronized :=
  Transition.Reachable.invariant
    ⟨by simp [EventListener.init], by simp [EventListener.init], by simp [EventListener.init],
      by simp [EventListener.init]⟩
    (fun _ _ _ hs hstep => hs.step hstep) hl

/-! ## A manager reads only when its `do_connect` is connected -/

/-- **No manager reads before every filter connected.**  Over every run of the listener,
with any number of `do_connect` calls and their managers still running, a manager that
reads its stream (in `handle_stream` or `handle_event`) and was spawned with a
`ConnectionTasks` belongs to a `do_connect` whose managers have all connected: none is
still connecting and no failure was registered. -/
theorem reads_only_when_all_connected {config : ListenerConfig} {node : Filter → NodeFilter}
    {l : EventListener} (hl : l.Reachable config node) {task : ManagerTask} (htask : task ∈ l.tasks)
    {g : Nat} (hg : task.connectionTasks = some g) (hreading : task.phase.isReading = true) :
    (∀ other ∈ l.tasks, other.connectionTasks = some g → other.phase ≠ .connecting) ∧
      ∃ tasks, l.connectionTasks[g]? = some tasks ∧ tasks.failure = false := by
  have h := hl.synchronized
  obtain ⟨tasks, htasks⟩ : ∃ tasks, l.connectionTasks[g]? = some tasks :=
    ⟨_, List.getElem?_eq_getElem (h.groupLt task htask g hg)⟩
  have htotal := h.total g tasks htasks
  have hcounted := h.counted g tasks htasks
  have hpassed := h.passed task htask g hg hreading tasks htasks
  -- the tasks of the `do_connect`, and those of them past their connection
  have hconnected : l.tasks.countP (ManagerTask.connectedIn g) =
      (l.tasks.filter (ManagerTask.inGroup g)).countP fun t => t.phase != .connecting := by
    rw [List.countP_filter]
    rfl
  have hle : ((l.tasks.filter (ManagerTask.inGroup g)).countP fun t => t.phase != .connecting) ≤
      (l.tasks.filter (ManagerTask.inGroup g)).length :=
    List.countP_le_length
  rw [List.countP_eq_length_filter] at htotal
  -- `total ≤ successes ≤ successes + failure ≤ connected ≤ total`
  have hall : ((l.tasks.filter (ManagerTask.inGroup g)).countP fun t => t.phase != .connecting) =
      (l.tasks.filter (ManagerTask.inGroup g)).length := by
    split at hcounted <;> omega
  refine ⟨fun other hother hgroup => ?_, tasks, htasks, ?_⟩
  · have hmem : other ∈ l.tasks.filter (ManagerTask.inGroup g) :=
      List.mem_filter.mpr ⟨hother, by simp [ManagerTask.inGroup, hgroup]⟩
    simpa using List.countP_eq_length.mp hall other hmem
  · cases hfailure : tasks.failure
    · rfl
    · rw [hfailure, if_pos rfl] at hcounted
      omega

/-- Without partial connections, the first `do_connect`'s three managers connect and the
`sigs` manager passes `wait`: it reads its stream, and none of the three is connecting. -/
theorem reads_only_when_all_connected_first_do_connect :
    ∃ l : EventListener, l.Reachable ⟨3, false⟩ (fun _ => .empty) ∧ ∃ task ∈ l.tasks,
      task.connectionTasks = some 0 ∧ task.phase.isReading = true ∧
      (∀ other ∈ l.tasks, other.connectionTasks = some 0 → other.phase ≠ .connecting) ∧
      ∃ tasks, l.connectionTasks[0]? = some tasks ∧ tasks.failure = false := by
  obtain ⟨l, hl, hp⟩ := @Transition.exists_reachable_of_exec _ _ (EventListener.step ⟨3, false⟩)
    (.init ⟨3, false⟩ fun _ => .empty)
    [.getVersion (.ok (.fromParts 1 5 2)), .doConnect true,
      .connect 0 (.ok ()), .connect 1 (.ok ()), .connect 2 (.ok ()), .wait 1]
    (fun l => l.tasks.any fun task => task.connectionTasks == some 0 && task.phase.isReading)
    (by decide)
  obtain ⟨task, htask, hp⟩ := List.any_eq_true.mp hp
  simp only [Bool.and_eq_true, beq_iff_eq] at hp
  exact ⟨l, hl, task, htask, hp.1, hp.2, reads_only_when_all_connected hl htask hp.1 hp.2⟩

end CasperSidecar
