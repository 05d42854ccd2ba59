import Mathlib
import CasperSidecar.EventStreamServer.SseServer

/-!
# EventStreamServer.EventIndexer

The id counter of the event stream server
(`sidecar/src/event_stream_server/event_indexer.rs`).  `next_index` hands out
the current index and advances it with `wrapping_add(1)`, so the ids it hands
out form runs `f, f+1, …` modulo `2^32` (`idsFrom`).  The counter is restored
from a cache file on start, so a run may begin at any `u32`: `EventIndexer::new`
reads the file's bytes as `u32::from_le_bytes` when there are four of them and
starts from `0` otherwise, and `Drop` writes `to_le_bytes` of the counter, which
`new` reads back as the same counter (`new_drop`).  The file system is the
`Option` of the bytes `fs::read` returns.
-/

namespace CasperSidecar

/-- `EventIndexer`: the next index to hand out. -/
structure EventIndexer where
  index : EventIndex
deriving DecidableEq

/-- `EventIndexer::next_index`: the current index, and the counter advanced with
`wrapping_add(1)`. -/
def EventIndexer.nextIndex (indexer : EventIndexer) : EventIndex × EventIndexer :=
  (indexer.index, ⟨indexer.index + 1⟩)

/-! ## The cache file -/

/-- `u32::to_le_bytes`. -/
def toLeBytes (index : EventIndex) : List UInt8 :=
  [index.toNat.toUInt8, (index.toNat / 2 ^ 8).toUInt8, (index.toNat / 2 ^ 16).toUInt8,
    (index.toNat / 2 ^ 24).toUInt8]

/-- `u32::from_le_bytes`. -/
def fromLeBytes (b₀ b₁ b₂ b₃ : UInt8) : EventIndex :=
  (b₀.toNat + 2 ^ 8 * b₁.toNat + 2 ^ 16 * b₂.toNat + 2 ^ 24 * b₃.toNat).toUInt32

/-- `EventIndexer::new`, given what `fs::read` returned for the cache file (`none` when
it could not be read): four bytes replace the default `EventIndex::default().to_le_bytes()`,
and anything else leaves the index at `0`. -/
def EventIndexer.new (cachedBytes : Option (List UInt8)) : EventIndexer :=
  match cachedBytes with
  | some [b₀, b₁, b₂, b₃] => ⟨fromLeBytes b₀ b₁ b₂ b₃⟩
  | _ => ⟨0⟩

/-- `Drop for EventIndexer`: the bytes `fs::write` puts in the cache file. -/
def EventIndexer.drop (indexer : EventIndexer) : List UInt8 :=
  toLeBytes indexer.index

/-- **The cache round trip**: what `Drop` writes, `EventIndexer::new` reads back as the
same counter. -/
theorem EventIndexer.new_drop (indexer : EventIndexer) :
    EventIndexer.new (some indexer.drop) = indexer := by
  obtain ⟨index⟩ := indexer
  have hlt := index.toNat_lt
  simp only [EventIndexer.drop, toLeBytes, EventIndexer.new, EventIndexer.mk.injEq]
  apply UInt32.toNat_inj.mp
  simp only [fromLeBytes, Nat.toUInt8, UInt8.toNat_ofNat', Nat.toUInt32, UInt32.toNat_ofNat']
  omega

/-- A cache file of any other length than four bytes is ignored. -/
theorem EventIndexer.new_of_length_ne {cached : List UInt8} (h : cached.length ≠ 4) :
    EventIndexer.new (some cached) = ⟨0⟩ := by
  match cached, h with
  | [], _ | [_], _ | [_, _], _ | [_, _, _], _ | _ :: _ :: _ :: _ :: _ :: _, _ => rfl
  | [_, _, _, _], h => exact absurd rfl h

/-! ## Runs of consecutive ids -/

/-- The `n` ids `f, f+1, …, f+n-1` (mod `2^32`). -/
def idsFrom (f : EventIndex) (n : Nat) : List EventIndex :=
  (List.range n).map fun k => f + k.toUInt32

@[simp] theorem length_idsFrom (f : EventIndex) (n : Nat) : (idsFrom f n).length = n := by
  simp [idsFrom]

@[simp] theorem getElem_idsFrom (f : EventIndex) (n k : Nat) (hk : k < (idsFrom f n).length) :
    (idsFrom f n)[k] = f + k.toUInt32 := by
  simp [idsFrom]

@[simp] theorem idsFrom_zero (f : EventIndex) : idsFrom f 0 = [] := rfl

theorem idsFrom_succ (f : EventIndex) (n : Nat) :
    idsFrom f (n + 1) = idsFrom f n ++ [f + n.toUInt32] := by
  simp [idsFrom, List.range_succ]

theorem take_idsFrom (f : EventIndex) (n m : Nat) :
    (idsFrom f n).take m = idsFrom f (min m n) := by
  apply List.ext_getElem
  · simp
  · intro k hk _
    simp

/-- Dropping `m` ids moves the start of the run by `m`, wrapping. -/
theorem drop_idsFrom (f : EventIndex) (n m : Nat) :
    (idsFrom f n).drop m = idsFrom (f + m.toUInt32) (n - m) := by
  apply List.ext_getElem
  · simp
  · intro k hk _
    simp only [List.getElem_drop, getElem_idsFrom, UInt32.ofNat_add, UInt32.add_assoc]

/-- A prefix of a run is the run of its length. -/
theorem eq_idsFrom_of_append_eq {l₁ l₂ : List EventIndex} {f : EventIndex} {n : Nat}
    (h : l₁ ++ l₂ = idsFrom f n) : l₁ = idsFrom f l₁.length := by
  have htake := congrArg (List.take l₁.length) h
  have hlen : l₁.length ≤ n := by
    have hlengths := congrArg List.length h
    simp only [List.length_append, length_idsFrom] at hlengths
    omega
  rw [List.take_left, take_idsFrom, Nat.min_eq_left hlen] at htake
  exact htake

/-- A suffix of a run is a run. -/
theorem exists_idsFrom_of_suffix {l : List EventIndex} {f : EventIndex} {n : Nat}
    (h : l <:+ idsFrom f n) : ∃ g, l = idsFrom g l.length := by
  obtain ⟨pre, hpre⟩ := h
  have hdrop := congrArg (List.drop pre.length) hpre
  rw [List.drop_left, drop_idsFrom] at hdrop
  refine ⟨f + pre.length.toUInt32, ?_⟩
  rw [hdrop]
  simp

end CasperSidecar
