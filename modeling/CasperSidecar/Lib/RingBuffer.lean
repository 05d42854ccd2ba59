import Mathlib

/-!
# Lib.RingBuffer

A bounded FIFO that keeps the newest `capacity` items: a push appends, and
once the buffer is full it evicts the oldest item.

A ring buffer written elsewhere enters a development as a `RingBufferImpl`:
its state type and operations, with the laws a client may rely on as fields,
so that a theorem over an arbitrary implementation assumes those laws and
nothing else.  `push` returns `none` where the implementation fails, which
it does exactly at capacity zero; `iter` is the FIFO view, oldest first, and
a push leaves in it the last `capacity` items of the old view and the new
item.

The central fact is the closed form of a run of pushes
(`RingBufferImpl.pushAll_eq_some`), from the laws alone: the buffer holds the
last `capacity` items of its old contents and everything pushed.  The `lastN`
lemmas are the list algebra that closed form and its users need, proved once
so that no client redoes `drop` arithmetic.

`RingBuffer` is a reference implementation: the FIFO view itself, with the
capacity and the bound as fields (`RingBuffer.impl`).  The position of the
live slots in a backing array is not modelled, since nothing that reads the
buffer through its iterator can observe it.
-/

namespace RingBuffer

variable {α : Type}

/-! ## The last `n` items of a list -/

/-- The newest `n` items of `l`, oldest first. -/
def lastN (n : Nat) (l : List α) : List α := l.drop (l.length - n)

@[simp] theorem length_lastN (n : Nat) (l : List α) : (lastN n l).length = min n l.length := by
  simp only [lastN, List.length_drop]
  omega

theorem lastN_of_length_le {n : Nat} {l : List α} (h : l.length ≤ n) : lastN n l = l := by
  simp [lastN, Nat.sub_eq_zero_of_le h]

@[simp] theorem lastN_nil (n : Nat) : lastN n ([] : List α) = [] := by
  simp [lastN]

/-- `lastN` keeps a suffix. -/
theorem lastN_suffix (n : Nat) (l : List α) : lastN n l <:+ l :=
  List.drop_suffix _ _

theorem map_lastN {β : Type} (f : α → β) (n : Nat) (l : List α) :
    (lastN n l).map f = lastN n (l.map f) := by
  simp [lastN, List.map_drop]

theorem mem_of_mem_lastN {n : Nat} {l : List α} {x : α} (h : x ∈ lastN n l) : x ∈ l :=
  (lastN_suffix n l).subset h

/-- Truncating before appending changes nothing once the result is truncated again:
the evicted items would have been evicted anyway. -/
theorem lastN_lastN_append (n : Nat) (l m : List α) :
    lastN n (lastN n l ++ m) = lastN n (l ++ m) := by
  have hle : l.length - n ≤ l.length := Nat.sub_le _ _
  simp only [lastN, List.length_append, List.length_drop]
  rw [← List.drop_append_of_le_length hle, List.drop_drop]
  congr 1
  omega

end RingBuffer

/-- A ring buffer implementation over items of type `α`: its state, the operations a
client calls, and the laws it is assumed to keep. -/
structure RingBufferImpl (α : Type) where
  Buf : Type
  /-- A buffer over `capacity` slots, none of them a live item. -/
  new : Nat → Buf
  capacity : Buf → Nat
  /-- Append an item, evicting the oldest one when full; `none` where it fails. -/
  push : Buf → α → Option Buf
  /-- The live items, oldest first. -/
  iter : Buf → List α
  capacity_new (c : Nat) : capacity (new c) = c
  iter_new (c : Nat) : iter (new c) = []
  length_iter_le (b : Buf) : (iter b).length ≤ capacity b
  push_eq_none_iff (b : Buf) (x : α) : push b x = none ↔ capacity b = 0
  capacity_push {b b' : Buf} {x : α} : push b x = some b' → capacity b' = capacity b
  iter_push {b b' : Buf} {x : α} :
    push b x = some b' → iter b' = RingBuffer.lastN (capacity b) (iter b ++ [x])

namespace RingBufferImpl

variable {α : Type} (impl : RingBufferImpl α)

/-- Push the items of `xs` in order; `none` once a push fails. -/
def pushAll : impl.Buf → List α → Option impl.Buf
  | b, [] => some b
  | b, x :: xs => (impl.push b x).bind (pushAll · xs)

@[simp] theorem pushAll_nil (b : impl.Buf) : impl.pushAll b [] = some b := rfl

theorem pushAll_singleton (b : impl.Buf) (x : α) : impl.pushAll b [x] = impl.push b x := by
  simp only [pushAll]
  cases impl.push b x <;> rfl

variable {impl}

/-- **Closed form of a run of pushes**: the capacity stays, and the buffer holds the
last `capacity` items of its old contents followed by everything pushed. -/
theorem pushAll_eq_some {b b' : impl.Buf} {xs : List α} (h : impl.pushAll b xs = some b') :
    impl.capacity b' = impl.capacity b ∧
      impl.iter b' = RingBuffer.lastN (impl.capacity b) (impl.iter b ++ xs) := by
  induction xs generalizing b with
  | nil =>
      simp only [pushAll, Option.some.injEq] at h
      subst h
      rw [List.append_nil]
      exact ⟨rfl, (RingBuffer.lastN_of_length_le (impl.length_iter_le b)).symm⟩
  | cons x xs ih =>
      simp only [pushAll] at h
      cases hpush : impl.push b x with
      | none => simp [hpush] at h
      | some mid =>
          rw [hpush, Option.bind_some] at h
          obtain ⟨hcapacity, hiter⟩ := ih h
          have hmid := impl.capacity_push hpush
          refine ⟨hcapacity.trans hmid, ?_⟩
          rw [hiter, hmid, impl.iter_push hpush, RingBuffer.lastN_lastN_append, List.append_assoc,
            List.singleton_append]

end RingBufferImpl

/-- A ring buffer of fixed `capacity`, seen as the FIFO of its live items
(oldest first).  The field `length_items_le` is the bound every push keeps. -/
structure RingBuffer (α : Type) where
  capacity : Nat
  items : List α
  length_items_le : items.length ≤ capacity

namespace RingBuffer

variable {α : Type}

/-- A fresh buffer: no live items. -/
def empty (capacity : Nat) : RingBuffer α := ⟨capacity, [], Nat.zero_le _⟩

/-- Append `x`, evicting the oldest item when the buffer is full. -/
def push (b : RingBuffer α) (x : α) : RingBuffer α :=
  ⟨b.capacity, lastN b.capacity (b.items ++ [x]), by simp⟩

@[simp] theorem capacity_push (b : RingBuffer α) (x : α) : (b.push x).capacity = b.capacity := rfl

@[simp] theorem items_push (b : RingBuffer α) (x : α) :
    (b.push x).items = lastN b.capacity (b.items ++ [x]) := rfl

/-- The list model as an implementation: a push fails on a zero capacity, the one case
where an array-backed buffer has no slot to write. -/
def impl (α : Type) : RingBufferImpl α where
  Buf := RingBuffer α
  new := empty
  capacity := capacity
  push b x := if b.capacity = 0 then none else some (b.push x)
  iter := items
  capacity_new _ := rfl
  iter_new _ := rfl
  length_iter_le b := b.length_items_le
  push_eq_none_iff b x := by
    by_cases h : b.capacity = 0 <;> simp [h]
  capacity_push {b b' x} h := by
    by_cases hzero : b.capacity = 0
    · simp [hzero] at h
    · simp only [hzero, if_false, Option.some.injEq] at h
      rw [← h, capacity_push]
  iter_push {b b' x} h := by
    by_cases hzero : b.capacity = 0
    · simp [hzero] at h
    · simp only [hzero, if_false, Option.some.injEq] at h
      rw [← h, items_push]

end RingBuffer
