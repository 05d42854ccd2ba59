import Mathlib
import CasperSidecar.Listener.EventListener

/-!
# Listener.LastEventId

What the last-event-id registry guarantees a reconnection.  A manager reports
an event's id before it sends the event downstream, and `build_connections`
starts each new manager from the id the registry holds for its filter, which
the node's stream delivers again (`start_from` is inclusive).

The registry's value for a filter can pass an event a manager holds but has
not sent yet (`registry_passes_event_in_flight`): the managers `do_connect`
leaves running read the same filter as the ones it spawns next, and a newer
manager that starts after the node stopped retaining that event reports a
higher id.  What holds over every run is that no start is ever past a retained
event that was not sent: every event the node still retains on a filter below
the registry's value, or below the start of a manager still connecting, was
sent downstream (`start_from_never_skips`).
-/

namespace CasperSidecar

/-! ## Safe starts -/

/-- Every retained event of `node` below `bound` was sent downstream. -/
def HandedBelow (node : NodeFilter) (handed : List (Filter × UInt32)) (filter : Filter)
    (bound : UInt32) : Prop :=
  ∀ event ∈ node.retained, event.id < bound → (filter, event.id) ∈ handed

/-- `bound` is no id beyond those the node has published. -/
def Reached (node : NodeFilter) (bound : UInt32) : Prop :=
  bound = 0 ∨ ∃ event ∈ node.events, bound ≤ event.id

/-- A bound a manager may start from without skipping a retained event. -/
def SafeStart (node : NodeFilter) (handed : List (Filter × UInt32)) (filter : Filter)
    (bound : UInt32) : Prop :=
  HandedBelow node handed filter bound ∧ Reached node bound

/-- Every retained event before `position` was sent downstream. -/
def HandedBefore (node : NodeFilter) (handed : List (Filter × UInt32)) (filter : Filter)
    (position : Nat) : Prop :=
  ∀ event ∈ (node.events.take position).drop node.evicted, (filter, event.id) ∈ handed

/-- A manager task skips nothing: a connecting one starts from a safe bound, and one
that reads the stream has sent every retained event before its position. -/
def ManagerTask.Safe (task : ManagerTask) (node : NodeFilter) (handed : List (Filter × UInt32)) :
    Prop :=
  match task.phase with
  | .connecting =>
      ∃ startFrom, task.currentEventId = some startFrom ∧ SafeStart node handed task.filter startFrom
  | .waiting position | .streaming position =>
      HandedBefore node handed task.filter position ∧ position ≤ node.events.length
  | .reporting position | .forwarding position =>
      HandedBefore node handed task.filter position ∧ position < node.events.length
  | .finished _ => True

/-- The invariant: the registry's map, its channel and every task start safely. -/
structure EventListener.NoSkip (l : EventListener) : Prop where
  registry : ∀ entry ∈ l.lastEventIdForFilter, SafeStart (l.node entry.1) l.handed entry.1 entry.2
  channel : ∀ entry ∈ l.lastSeenEventIds, SafeStart (l.node entry.1) l.handed entry.1 entry.2
  tasks : ∀ task ∈ l.tasks, task.Safe (l.node task.filter) l.handed

/-! ## The node's streams grow -/

/-- An event published later has an id above every earlier one. -/
theorem NodeFilter.Grows.id_lt {node node' : NodeFilter} (h : node.Grows node')
    {event₀ event : NodeEvent} (h₀ : event₀ ∈ node.events)
    (hnew : event ∈ node'.events.drop node.events.length) : event₀.id < event.id := by
  obtain ⟨extra, hextra⟩ := h.events_prefix
  have hincreasing := node'.ids_increasing
  rw [← hextra, List.map_append, List.pairwise_append] at hincreasing
  rw [← hextra, List.drop_left] at hnew
  exact hincreasing.2.2 _ (List.mem_map_of_mem h₀) _ (List.mem_map_of_mem hnew)

/-- A retained event of the grown stream is a retained event of the old one or one
published since. -/
theorem NodeFilter.Grows.mem_retained {node node' : NodeFilter} (h : node.Grows node')
    {event : NodeEvent} (hevent : event ∈ node'.retained) :
    event ∈ node.retained ∨ event ∈ node'.events.drop node.events.length := by
  obtain ⟨extra, hextra⟩ := h.events_prefix
  have hsub : (node'.events.drop node'.evicted).Sublist (node'.events.drop node.evicted) :=
    List.drop_sublist_drop_left _ h.evicted_le
  have hmem := hsub.subset hevent
  rw [← hextra, List.drop_append_of_le_length node.evicted_le, List.mem_append] at hmem
  rw [← hextra, List.drop_left]
  exact hmem

theorem SafeStart.grow {node node' : NodeFilter} {handed handed' : List (Filter × UInt32)}
    {filter : Filter} {bound : UInt32} (h : SafeStart node handed filter bound)
    (hgrows : node.Grows node') (hhanded : handed ⊆ handed') :
    SafeStart node' handed' filter bound := by
  obtain ⟨hbelow, hreached⟩ := h
  refine ⟨fun event hevent hlt => ?_, ?_⟩
  · rcases hgrows.mem_retained hevent with hold | hnew
    · exact hhanded (hbelow event hold hlt)
    · -- an event published since is above every bound the node had reached
      exfalso
      rcases hreached with rfl | ⟨event₀, h₀, hle⟩
      · exact UInt32.not_lt_zero hlt
      · have := hgrows.id_lt h₀ hnew
        rw [UInt32.le_iff_toNat_le] at hle
        rw [UInt32.lt_iff_toNat_lt] at this hlt
        omega
  · rcases hreached with rfl | ⟨event₀, h₀, hle⟩
    · exact .inl rfl
    · exact .inr ⟨event₀, hgrows.events_prefix.subset h₀, hle⟩

theorem HandedBefore.grow {node node' : NodeFilter} {handed handed' : List (Filter × UInt32)}
    {filter : Filter} {position : Nat} (h : HandedBefore node handed filter position)
    (hle : position ≤ node.events.length) (hgrows : node.Grows node')
    (hhanded : handed ⊆ handed') : HandedBefore node' handed' filter position := by
  intro event hevent
  obtain ⟨extra, hextra⟩ := hgrows.events_prefix
  have hsub : ((node'.events.take position).drop node'.evicted).Sublist
      ((node'.events.take position).drop node.evicted) :=
    List.drop_sublist_drop_left _ hgrows.evicted_le
  have hmem := hsub.subset hevent
  rw [← hextra, List.take_append_of_le_length hle] at hmem
  exact hhanded (h event hmem)

theorem ManagerTask.Safe.grow {task : ManagerTask} {node node' : NodeFilter}
    {handed handed' : List (Filter × UInt32)} (h : task.Safe node handed) (hgrows : node.Grows node')
    (hhanded : handed ⊆ handed') : task.Safe node' handed' := by
  have hlength := hgrows.events_prefix.length_le
  unfold ManagerTask.Safe at h ⊢
  split at h
  · obtain ⟨startFrom, hstart, hsafe⟩ := h
    exact ⟨startFrom, hstart, hsafe.grow hgrows hhanded⟩
  · exact ⟨h.1.grow h.2 hgrows hhanded, h.2.trans hlength⟩
  · exact ⟨h.1.grow h.2 hgrows hhanded, h.2.trans hlength⟩
  · exact ⟨h.1.grow h.2.le hgrows hhanded, Nat.lt_of_lt_of_le h.2 hlength⟩
  · exact ⟨h.1.grow h.2.le hgrows hhanded, Nat.lt_of_lt_of_le h.2 hlength⟩
  · trivial

/-- **The shape of every step**: the node's streams grow, `handed` grows, the
registry's map takes its entries from the old map or the channel, the channel and the
tasks keep old entries or gain safe ones. -/
theorem EventListener.NoSkip.extend {l l' : EventListener} (h : l.NoSkip)
    (hnode : ∀ filter, (l.node filter).Grows (l'.node filter)) (hhanded : l.handed ⊆ l'.handed)
    (hmap : ∀ entry ∈ l'.lastEventIdForFilter,
      entry ∈ l.lastEventIdForFilter ∨ entry ∈ l.lastSeenEventIds)
    (hchannel : ∀ entry ∈ l'.lastSeenEventIds, entry ∈ l.lastSeenEventIds ∨
      SafeStart (l'.node entry.1) l'.handed entry.1 entry.2)
    (htasks : ∀ task ∈ l'.tasks, task ∈ l.tasks ∨ task.Safe (l'.node task.filter) l'.handed) :
    l'.NoSkip := by
  refine ⟨fun entry hentry => ?_, fun entry hentry => ?_, fun task htask => ?_⟩
  · rcases hmap entry hentry with hold | hold
    · exact (h.registry entry hold).grow (hnode _) hhanded
    · exact (h.channel entry hold).grow (hnode _) hhanded
  · rcases hchannel entry hentry with hold | hnew
    · exact (h.channel entry hold).grow (hnode _) hhanded
    · exact hnew
  · rcases htasks task htask with hold | hnew
    · exact (h.tasks task hold).grow (hnode _) hhanded
    · exact hnew

/-! ## Positions in a stream -/

/-- An event at or after `position` has an id no smaller than the one there. -/
theorem NodeFilter.id_le_of_mem_drop (node : NodeFilter) {position : Nat}
    (hposition : position < node.events.length) {event : NodeEvent}
    (hevent : event ∈ node.events.drop position) : node.events[position].id ≤ event.id := by
  have hincreasing : ((node.events.drop position).map NodeEvent.id).Pairwise (· < ·) :=
    node.ids_increasing.sublist ((List.drop_sublist _ _).map _)
  rw [List.drop_eq_getElem_cons hposition, List.map_cons, List.pairwise_cons] at hincreasing
  rw [List.drop_eq_getElem_cons hposition, List.mem_cons] at hevent
  rcases hevent with rfl | hlater
  · exact UInt32.le_refl _
  · exact UInt32.le_of_lt (hincreasing.1 _ (List.mem_map_of_mem hlater))

/-- A connection from a safe bound starts at a position before which every retained
event was sent. -/
theorem SafeStart.startPosition {node : NodeFilter} {handed : List (Filter × UInt32)}
    {filter : Filter} {startFrom : UInt32} (h : SafeStart node handed filter startFrom) :
    HandedBefore node handed filter (node.startPosition startFrom) ∧
      node.startPosition startFrom ≤ node.events.length := by
  have hsplit := @List.takeWhile_append_dropWhile _
    (fun event : NodeEvent => decide (event.id < startFrom)) node.retained
  -- the events before the start are the retained ones below `startFrom`
  have hskipped : (node.events.take (node.startPosition startFrom)).drop node.evicted =
      node.retained.takeWhile fun event => event.id < startFrom := by
    rw [List.drop_take, NodeFilter.startPosition, Nat.add_sub_cancel_left]
    calc node.retained.take (node.retained.takeWhile fun event => event.id < startFrom).length
        = ((node.retained.takeWhile fun event => event.id < startFrom) ++
            node.retained.dropWhile fun event => event.id < startFrom).take
              (node.retained.takeWhile fun event => event.id < startFrom).length := by
          rw [hsplit]
      _ = node.retained.takeWhile fun event => event.id < startFrom := List.take_left' rfl
  refine ⟨fun event hevent => ?_, ?_⟩
  · rw [hskipped] at hevent
    exact h.1 event ((List.takeWhile_sublist _).subset hevent)
      (by simpa using List.mem_takeWhile_imp hevent)
  · have hlength := (@List.takeWhile_sublist _ node.retained
      (fun event : NodeEvent => decide (event.id < startFrom))).length_le
    have hretained : node.retained.length = node.events.length - node.evicted :=
      List.length_drop
    rw [NodeFilter.startPosition]
    have := node.evicted_le
    omega

/-- The id of the event at a position before which every retained event was sent is a
safe bound. -/
theorem HandedBefore.safeStart_id {node : NodeFilter} {handed : List (Filter × UInt32)}
    {filter : Filter} {position : Nat} (h : HandedBefore node handed filter position)
    (hposition : position < node.events.length) :
    SafeStart node handed filter node.events[position].id := by
  refine ⟨fun event hevent hlt => ?_, .inr ⟨_, List.getElem_mem hposition, UInt32.le_refl _⟩⟩
  -- a retained event below the id is before the position
  rw [NodeFilter.retained, ← List.take_append_drop position node.events, List.drop_append,
    List.mem_append] at hevent
  rcases hevent with hbefore | hafter
  · exact h event hbefore
  · have hle := node.id_le_of_mem_drop hposition (List.mem_of_mem_drop hafter)
    rw [UInt32.le_iff_toNat_le] at hle
    rw [UInt32.lt_iff_toNat_lt] at hlt
    omega

/-- Sending the event at `position` extends what was sent to the next position. -/
theorem HandedBefore.succ {node : NodeFilter} {handed : List (Filter × UInt32)} {filter : Filter}
    {position : Nat} (h : HandedBefore node handed filter position)
    (hposition : position < node.events.length) :
    HandedBefore node (handed ++ [(filter, node.events[position].id)]) filter (position + 1) := by
  intro event hevent
  rw [List.take_add_one, List.getElem?_eq_getElem hposition, Option.toList_some, List.drop_append,
    List.mem_append] at hevent
  rcases hevent with hbefore | hlast
  · exact List.mem_append_left _ (h event hbefore)
  · rw [List.mem_singleton.mp (List.mem_of_mem_drop hlast)]
    exact List.mem_append_right _ (List.mem_singleton_self _)

/-! ## Each step keeps the invariant -/

/-- A step of one manager task: it replaces the task by a safe one, may send an event
downstream and may put safe ids on the registry's channel. -/
theorem EventListener.NoSkip.setTask {l l' : EventListener} (h : l.NoSkip) {k : Nat}
    {task' : ManagerTask} (htasks : l'.tasks = l.tasks.set k task') (hnode : l'.node = l.node)
    (hmap : l'.lastEventIdForFilter = l.lastEventIdForFilter) (hhanded : l.handed ⊆ l'.handed)
    (hchannel : ∀ entry ∈ l'.lastSeenEventIds, entry ∈ l.lastSeenEventIds ∨
      SafeStart (l'.node entry.1) l'.handed entry.1 entry.2)
    (hsafe : task'.Safe (l'.node task'.filter) l'.handed) : l'.NoSkip := by
  refine h.extend (fun filter => hnode ▸ NodeFilter.Grows.refl _) hhanded
    (fun entry hentry => .inl (hmap ▸ hentry)) hchannel fun task htask => ?_
  rw [htasks] at htask
  rcases List.mem_or_eq_of_mem_set htask with hold | rfl
  · exact .inl hold
  · exact .inr hsafe

theorem EventListener.NoSkip.connect {l l' : EventListener} (h : l.NoSkip) {k : Nat}
    {result : Except ConnectionManagerError Unit} (hstep : l.connect k result = some l') :
    l'.NoSkip := by
  unfold EventListener.connect at hstep
  cases htask : l.tasks[k]? with
  | none => simp [htask] at hstep
  | some task =>
      have hold := h.tasks task (List.mem_of_getElem? htask)
      rw [htask] at hstep
      cases hphase : task.phase <;> cases result <;> simp only [hphase, reduceCtorEq] at hstep
      case connecting.error err =>
        -- the connection failed: the task ends
        cases hg : task.connectionTasks <;>
          simp only [hg, Option.some.injEq] at hstep <;> subst hstep <;>
          exact h.setTask rfl rfl rfl (List.Subset.refl _) (fun entry he => .inl he) trivial
      case connecting.ok u =>
        -- the stream starts where the task's safe bound puts it
        unfold ManagerTask.Safe at hold
        rw [hphase] at hold
        obtain ⟨startFrom, hstart, hsafe⟩ := hold
        have hposition := hsafe.startPosition
        cases hg : task.connectionTasks <;>
          simp only [hg, hstart, Option.some.injEq] at hstep <;> subst hstep <;>
          exact h.setTask rfl rfl rfl (List.Subset.refl _) (fun entry he => .inl he) hposition

theorem EventListener.NoSkip.wait {l l' : EventListener} (h : l.NoSkip) {k : Nat}
    (hstep : l.wait k = some l') : l'.NoSkip := by
  unfold EventListener.wait at hstep
  cases htask : l.tasks[k]? with
  | none => simp [htask] at hstep
  | some task =>
      have hold := h.tasks task (List.mem_of_getElem? htask)
      rw [htask] at hstep
      cases hphase : task.phase <;> cases hg : task.connectionTasks <;>
        simp only [hphase, hg, reduceCtorEq] at hstep
      case waiting.some position g =>
        cases hgroup : l.connectionTasks[g]? with
        | none => simp [hgroup] at hstep
        | some tasks =>
            simp only [hgroup] at hstep
            split at hstep
            · -- a filter failed to connect: the task ends
              simp only [Option.some.injEq] at hstep
              subst hstep
              exact h.setTask rfl rfl rfl (List.Subset.refl _) (fun entry he => .inl he) trivial
            · split at hstep
              · -- every filter connected: the task reads from where it connected
                simp only [Option.some.injEq] at hstep
                subst hstep
                unfold ManagerTask.Safe at hold
                rw [hphase] at hold
                exact h.setTask rfl rfl rfl (List.Subset.refl _) (fun entry he => .inl he) hold
              · cases hstep

theorem EventListener.NoSkip.receive {l l' : EventListener} (h : l.NoSkip) {k : Nat}
    (hstep : l.receive k = some l') : l'.NoSkip := by
  unfold EventListener.receive at hstep
  cases htask : l.tasks[k]? with
  | none => simp [htask] at hstep
  | some task =>
      have hold := h.tasks task (List.mem_of_getElem? htask)
      rw [htask] at hstep
      cases hphase : task.phase <;> simp only [hphase, reduceCtorEq] at hstep
      case streaming position =>
        cases hevent : (l.node task.filter).events[position]? with
        | none => simp [hevent] at hstep
        | some event =>
            -- the event received is one the node published
            simp only [hevent, Option.some.injEq] at hstep
            subst hstep
            unfold ManagerTask.Safe at hold
            rw [hphase] at hold
            exact h.setTask rfl rfl rfl (List.Subset.refl _) (fun entry he => .inl he)
              ⟨hold.1, (List.getElem?_eq_some_iff.mp hevent).1⟩

theorem EventListener.NoSkip.streamEnds {l l' : EventListener} (h : l.NoSkip) {k : Nat}
    (hstep : l.streamEnds k = some l') : l'.NoSkip := by
  unfold EventListener.streamEnds at hstep
  cases htask : l.tasks[k]? with
  | none => simp [htask] at hstep
  | some task =>
      rw [htask] at hstep
      cases hphase : task.phase <;> simp only [hphase, reduceCtorEq, Option.some.injEq] at hstep
      subst hstep
      exact h.setTask rfl rfl rfl (List.Subset.refl _) (fun entry he => .inl he) trivial

theorem EventListener.NoSkip.report {l l' : EventListener} (h : l.NoSkip) {k : Nat}
    (hstep : l.report k = some l') : l'.NoSkip := by
  unfold EventListener.report at hstep
  cases htask : l.tasks[k]? with
  | none => simp [htask] at hstep
  | some task =>
      have hold := h.tasks task (List.mem_of_getElem? htask)
      rw [htask] at hstep
      cases hphase : task.phase <;> simp only [hphase, reduceCtorEq] at hstep
      case reporting position =>
        unfold ManagerTask.Safe at hold
        rw [hphase] at hold
        obtain ⟨hbefore, hposition⟩ := hold
        simp only [List.getElem?_eq_getElem hposition] at hstep
        split at hstep
        · -- the id reported is a safe bound: every retained event below it was sent
          simp only [Option.some.injEq] at hstep
          subst hstep
          refine h.setTask rfl rfl rfl (List.Subset.refl _) (fun entry he => ?_) ⟨hbefore, hposition⟩
          rcases List.mem_append.mp he with hold | hnew
          · exact .inl hold
          · rw [List.mem_singleton.mp hnew]
            exact .inr (hbefore.safeStart_id hposition)
        · cases hstep

theorem EventListener.NoSkip.forward {l l' : EventListener} (h : l.NoSkip) {k : Nat}
    (hstep : l.forward k = some l') : l'.NoSkip := by
  unfold EventListener.forward at hstep
  cases htask : l.tasks[k]? with
  | none => simp [htask] at hstep
  | some task =>
      have hold := h.tasks task (List.mem_of_getElem? htask)
      rw [htask] at hstep
      cases hphase : task.phase <;> simp only [hphase, reduceCtorEq] at hstep
      case forwarding position =>
        unfold ManagerTask.Safe at hold
        rw [hphase] at hold
        obtain ⟨hbefore, hposition⟩ := hold
        simp only [List.getElem?_eq_getElem hposition] at hstep
        split at hstep
        · -- the event is sent: the task reads on from the next position
          simp only [Option.some.injEq] at hstep
          subst hstep
          exact h.setTask rfl rfl rfl (List.subset_append_left _ _) (fun entry he => .inl he)
            ⟨hbefore.succ hposition, hposition⟩
        · -- the event does not deserialize: the task ends
          simp only [Option.some.injEq] at hstep
          subst hstep
          exact h.setTask rfl rfl rfl (List.Subset.refl _) (fun entry he => .inl he) trivial

/-- The registry task moves the channel's oldest id into its map. -/
theorem EventListener.NoSkip.registerLastSeenEventId {l l' : EventListener} (h : l.NoSkip)
    (hstep : l.registerLastSeenEventId = some l') : l'.NoSkip := by
  unfold EventListener.registerLastSeenEventId at hstep
  split at hstep
  · rename_i filter eventId rest hchannel
    simp only [Option.some.injEq] at hstep
    subst hstep
    refine h.extend (fun _ => NodeFilter.Grows.refl _) (List.Subset.refl _) (fun entry he => ?_)
      (fun entry he => .inl (by rw [hchannel]; exact List.mem_cons_of_mem _ he))
      (fun task ht => .inl ht)
    -- the map's entries are the new one, from the channel, and the old ones kept
    rcases List.mem_cons.mp he with rfl | hkept
    · exact .inr (by rw [hchannel]; exact List.mem_cons_self)
    · exact .inl (List.mem_of_mem_filter hkept)
  · cases hstep

/-- The managers `build_connections` creates start from the registry's ids, or `0`. -/
theorem EventListener.NoSkip.startConnections {l : EventListener} (h : l.NoSkip)
    (config : ListenerConfig) : (l.startConnections config).NoSkip := by
  refine h.extend (fun _ => NodeFilter.Grows.refl _) (List.Subset.refl _) (fun entry he => .inl he)
    (fun entry he => .inl he) fun task htask => ?_
  rcases List.mem_append.mp htask with hold | hnew
  · exact .inl hold
  · obtain ⟨filter, -, rfl⟩ := List.mem_map.mp hnew
    refine .inr ⟨_, rfl, ?_⟩
    cases hlookup : l.lastEventIdForFilter.lookup filter with
    | none =>
        -- no id seen yet on the filter: the manager starts from `0`
        exact ⟨fun event _ hlt => absurd hlt (UInt32.not_lt_zero), .inl rfl⟩
    | some eventId =>
        obtain ⟨before, after, hmap, -⟩ := List.lookup_eq_some_iff.mp hlookup
        exact h.registry (filter, eventId) (by rw [hmap]; simp)

theorem EventListener.NoSkip.keepsTasks {l l' : EventListener} (h : l.NoSkip)
    (hkeeps : l.KeepsTasks l') : l'.NoSkip := by
  exact h.extend (fun _ => hkeeps.node ▸ NodeFilter.Grows.refl _)
    (hkeeps.handed ▸ List.Subset.refl _) (fun entry he => .inl (hkeeps.map ▸ he))
    (fun entry he => .inl (hkeeps.channel ▸ he)) (fun task ht => .inl (hkeeps.tasks ▸ ht))

/-- A `do_connect` whose `build_connections` failed spawned nothing. -/
theorem EventListener.NoSkip.doConnect {l : EventListener} (h : l.NoSkip) (config : ListenerConfig)
    (built : Bool) : (l.doConnect config built).NoSkip := by
  cases built with
  | true => exact h.startConnections config
  | false => exact h.keepsTasks (l.keepsTasks_nextAttempt config)

/-- The node publishes on, or forgets the oldest retained event of, one filter. -/
theorem EventListener.NoSkip.updateNode {l : EventListener} (h : l.NoSkip) {filter : Filter}
    {node : NodeFilter} (hgrows : (l.node filter).Grows node) :
    ({ l with node := Function.update l.node filter node } : EventListener).NoSkip :=
  h.extend hgrows.update (List.Subset.refl _) (fun _ he => .inl he)
    (fun _ he => .inl he) (fun _ ht => .inl ht)

theorem EventListener.NoSkip.step {config : ListenerConfig} {l l' : EventListener}
    {a : ListenerAction} (h : l.NoSkip) (hstep : l.step config a = some l') : l'.NoSkip := by
  cases a with
  | getVersion result =>
      obtain ⟨-, rfl⟩ := EventListener.eq_getVersion_of_step hstep
      exact h.keepsTasks (l.keepsTasks_getVersion config result)
  | doConnect built =>
      obtain ⟨-, rfl⟩ := EventListener.eq_doConnect_of_step hstep
      exact h.doConnect config built
  | select handle => exact h.keepsTasks (EventListener.keepsTasks_of_select hstep)
  | connect k result => exact h.connect hstep
  | wait k => exact h.wait hstep
  | receive k => exact h.receive hstep
  | streamEnds k => exact h.streamEnds hstep
  | report k => exact h.report hstep
  | forward k => exact h.forward hstep
  | registerLastSeenEventId => exact h.registerLastSeenEventId hstep
  | publish filter event =>
      obtain ⟨node, hgrows, rfl⟩ := EventListener.exists_grows_of_publish hstep
      exact h.updateNode hgrows
  | evict filter =>
      obtain ⟨node, hgrows, rfl⟩ := EventListener.exists_grows_of_evict hstep
      exact h.updateNode hgrows

theorem EventListener.Reachable.noSkip {config : ListenerConfig} {node : Filter → NodeFilter}
    {l : EventListener} (hl : l.Reachable config node) : l.NoSkip :=
  Transition.Reachable.invariant
    ⟨by simp [EventListener.init], by simp [EventListener.init], by simp [EventListener.init]⟩
    (fun _ _ _ hs hstep => hs.step hstep) hl

/-- **No reconnection skips an event.**  Over every run of the listener, its managers
(those `do_connect` left running included), the registry task and the node, whatever
the node publishes and forgets: every event the node still retains on a filter whose
id is below the id the registry holds for it (`0` when none), which is where the next
`build_connections` starts that filter, was sent on `sse_event_sender`; and so was
every retained event below the start of any manager still connecting. -/
theorem start_from_never_skips {config : ListenerConfig} {node : Filter → NodeFilter}
    {l : EventListener} (hl : l.Reachable config node) (filter : Filter) :
    HandedBelow (l.node filter) l.handed filter ((l.lastEventIdForFilter.lookup filter).getD 0) ∧
      ∀ task ∈ l.tasks, task.filter = filter → task.phase = .connecting →
        ∀ startFrom, task.currentEventId = some startFrom →
          HandedBelow (l.node filter) l.handed filter startFrom := by
  have h := hl.noSkip
  refine ⟨?_, fun task htask hfilter hphase startFrom hstart => ?_⟩
  · cases hlookup : l.lastEventIdForFilter.lookup filter with
    | none => exact fun event _ hlt => absurd hlt UInt32.not_lt_zero
    | some eventId =>
        obtain ⟨before, after, hmap, -⟩ := List.lookup_eq_some_iff.mp hlookup
        exact (h.registry (filter, eventId) (by rw [hmap]; simp)).1
  · have hsafe := h.tasks task htask
    unfold ManagerTask.Safe at hsafe
    rw [hphase] at hsafe
    obtain ⟨startFrom', hstart', hsafe'⟩ := hsafe
    rw [hstart, Option.some.injEq] at hstart'
    subst hstart' hfilter
    exact hsafe'.1

/-- One manager reads events `5` and `6` of `sigs`, sends `5` and reports both: the
registry holds `6`, and every retained event below it was sent. -/
theorem start_from_never_skips_after_two_events :
    ∃ l : EventListener, l.Reachable ⟨3, false⟩ (fun _ => .empty) ∧
      l.lastEventIdForFilter.lookup .sigs = some 6 ∧
      HandedBelow (l.node .sigs) l.handed .sigs 6 := by
  obtain ⟨l, hl, hp⟩ := @Transition.exists_reachable_of_exec _ _ (EventListener.step ⟨3, false⟩)
    (.init ⟨3, false⟩ fun _ => .empty)
    [.publish .sigs ⟨5, true⟩, .publish .sigs ⟨6, true⟩,
      .getVersion (.ok (.fromParts 1 5 2)), .doConnect true,
      .connect 0 (.ok ()), .connect 1 (.ok ()), .connect 2 (.ok ()), .wait 0, .wait 1, .wait 2,
      .receive 1, .report 1, .forward 1, .receive 1, .report 1,
      .registerLastSeenEventId, .registerLastSeenEventId]
    (fun l => l.lastEventIdForFilter.lookup .sigs == some 6) (by decide)
  have hlookup : l.lastEventIdForFilter.lookup .sigs = some 6 := by simpa using hp
  have hbelow := (start_from_never_skips hl .sigs).1
  rw [hlookup, Option.getD_some] at hbelow
  exact ⟨l, hl, hlookup, hbelow⟩

/-- **The registry can pass an event in flight.**  Without partial connections, the
node publishes `5` and `6` on `sigs`; the first `do_connect`'s `sigs` manager receives
`5`, reports it and has not sent it yet when the node stops retaining it.  The `main`
stream fails, `do_connect` returns, and the next one starts a second `sigs` manager
from `5`, whose stream begins at `6`; it reports `6`.  The registry holds `6` while the
first manager still holds event `5`, received and not sent downstream. -/
theorem registry_passes_event_in_flight :
    ∃ l : EventListener, l.Reachable ⟨3, false⟩ (fun _ => .empty) ∧
      l.lastEventIdForFilter.lookup .sigs = some 6 ∧
      (l.tasks[1]?).map (fun task => (task.filter, task.phase)) = some (.sigs, .forwarding 0) ∧
      ((l.node .sigs).events[0]?).map NodeEvent.id = some 5 ∧ (Filter.sigs, (5 : UInt32)) ∉ l.handed := by
  obtain ⟨l, hl, hp⟩ := @Transition.exists_reachable_of_exec _ _ (EventListener.step ⟨3, false⟩)
    (.init ⟨3, false⟩ fun _ => .empty)
    [.publish .sigs ⟨5, true⟩, .publish .sigs ⟨6, true⟩,
      .getVersion (.ok (.fromParts 1 5 2)), .doConnect true,
      .connect 0 (.ok ()), .connect 1 (.ok ()), .connect 2 (.ok ()), .wait 0, .wait 1, .wait 2,
      .receive 1, .report 1, .registerLastSeenEventId, .evict .sigs,
      .streamEnds 0, .select 0,
      .getVersion (.ok (.fromParts 1 5 2)), .doConnect true,
      .connect 3 (.ok ()), .connect 4 (.ok ()), .connect 5 (.ok ()), .wait 3, .wait 4, .wait 5,
      .receive 4, .report 4, .registerLastSeenEventId]
    (fun l => l.lastEventIdForFilter.lookup .sigs == some 6 &&
      (l.tasks[1]?).map (fun task => (task.filter, task.phase)) == some (.sigs, .forwarding 0) &&
      ((l.node .sigs).events[0]?).map NodeEvent.id == some 5 && !l.handed.contains (.sigs, 5))
    (by decide)
  simp only [Bool.and_eq_true, beq_iff_eq, Bool.not_eq_true'] at hp
  obtain ⟨⟨⟨hregistry, htask⟩, hevent⟩, hhanded⟩ := hp
  exact ⟨l, hl, hregistry, htask, hevent, by simpa using hhanded⟩

end CasperSidecar
