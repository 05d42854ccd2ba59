import Mathlib
import CasperSidecar.EventStreamServer.EventIndexer
import CasperSidecar.EventStreamServer.HttpServer

/-!
# EventStreamServer.Replay

Which buffered events `register_new_subscriber` replays for a client's
`start_from`.  The buffer the run loop keeps holds events with consecutive
ids `f, f+1, …, f+n-1` (`idsFrom`, mod 2^32), and the replay
skips the prefix of events whose id compares below `start_from`: plainly,
or, when the oldest id lies within the buffer size of the `u32` wrap, with
every id and `start_from` shifted up by the buffer size.

The comparison is therefore linear in a shifted coordinate whose origin is
`replayOrigin f B`: `f` itself, or `f + B` (mod 2^32) in the wraparound
zone.  With `d = (s - f) mod 2^32` the replay is the suffix from `s` when
`d < n`, nothing when `n ≤ d < 2^32 - replayOrigin f B`, and the whole
buffer beyond that (`selectReplayed_window`).

That threshold is where the code departs from its own comment ("If they
requested more than is buffered, just provide the whole buffer"): a
`start_from` behind the buffer on the other side of the wrap, up to
`2^32 - replayOrigin f B` away, is compared as if it lay ahead of the buffer,
and the client gets nothing.
-/

namespace CasperSidecar

/-! ## `skip_while` over ascending keys -/

/-- `skip_while` drops exactly the first `m` items when its predicate accepts
precisely the items of index below `m`. -/
theorem skipWhile_eq_drop {α : Type} (p : α → Option Bool) (l : List α) (m : Nat)
    (hp : ∀ k (hk : k < l.length), p l[k] = some (decide (k < m))) :
    skipWhile p l = some (l.drop m) := by
  induction l generalizing m with
  | nil => simp [skipWhile]
  | cons a l ih =>
      have ha := hp 0 (by simp)
      cases m with
      | zero =>
          have hfalse : p a = some false := by simpa using ha
          simp [skipWhile, hfalse]
      | succ m =>
          have htrue : p a = some true := by simpa using ha
          have hrest : ∀ k (hk : k < l.length), p l[k] = some (decide (k < m)) := by
            intro k hk
            have hk' := hp (k + 1) (by simpa using hk)
            rw [List.getElem_cons_succ] at hk'
            simpa using hk'
          simp [skipWhile, htrue, ih m hrest]

/-! ## The shifted coordinate -/

/-- Whether the oldest id `f` lies in the wraparound zone of a buffer of size `B`:
within `B` of either end of the `u32` range. -/
def InWraparoundZone (f : EventIndex) (B : Nat) : Prop := f.toNat > 4294967295 - B ∨ f.toNat < B

instance (f : EventIndex) (B : Nat) : Decidable (InWraparoundZone f B) :=
  inferInstanceAs (Decidable (_ ∨ _))

/-- The origin of the replay comparison: the oldest id, shifted by the buffer size
(mod 2^32) in the wraparound zone. -/
def replayOrigin (f : EventIndex) (B : Nat) : Nat :=
  if InWraparoundZone f B then (f.toNat + B) % 2 ^ 32 else f.toNat

/-- `start_from` in the same coordinate as `replayOrigin`. -/
def replayTarget (s f : EventIndex) (B : Nat) : Nat :=
  if InWraparoundZone f B then (s.toNat + B) % 2 ^ 32 else s.toNat

/-- In either coordinate, the distance from the origin to the target is the
distance `(s - f) mod 2^32`, or zero when the target lies past the wrap. -/
theorem replayTarget_sub_replayOrigin (s f : EventIndex) (B : Nat) :
    replayTarget s f B - replayOrigin f B =
      if (s - f).toNat < 2 ^ 32 - replayOrigin f B then (s - f).toNat else 0 := by
  have hf := UInt32.toNat_lt f
  have hs := UInt32.toNat_lt s
  have hd : (s - f).toNat = (2 ^ 32 - f.toNat + s.toNat) % 2 ^ 32 := UInt32.toNat_sub s f
  simp only [replayTarget, replayOrigin]
  split_ifs <;> omega

/-- A whole buffer fits between the origin and the wrap. -/
theorem replayOrigin_add_lt (f : EventIndex) (B : Nat) (hB' : B ≤ 2 ^ 30) :
    replayOrigin f B + B < 2 ^ 32 := by
  have hf := UInt32.toNat_lt f
  unfold replayOrigin
  split_ifs with hz
  · simp only [InWraparoundZone] at hz
    omega
  · simp only [InWraparoundZone] at hz
    omega

/-- The id of the `k`-th event of a buffer of consecutive ids. -/
theorem id_getElem_of_consecutive {items : List (ProtocolVersion × ServerSentEvent)}
    {f : EventIndex}
    (hids : items.map (fun e => e.2.id) = (idsFrom f items.length).map some)
    (k : Nat) (hk : k < items.length) : items[k].2.id = some (f + k.toUInt32) := by
  have hk' := congrArg (fun l => l[k]?) hids
  simpa [hk] using hk'

/-- The buffer size as an id is the capacity itself. -/
theorem toNat_bufferSize {wb : EventBufferImpl} {buffer : wb.Buf} (h : wb.capacity buffer ≤ 2 ^ 30) :
    (bufferSize wb buffer).toNat = wb.capacity buffer := by
  simp only [bufferSize, Nat.toUInt32_eq, UInt32.toNat_ofNat', Nat.reducePow]
  omega

/-- The code's zone test is `InWraparoundZone` of the oldest id. -/
theorem inWraparoundZone_of_consecutive {wb : EventBufferImpl} {buffer : wb.Buf} {f : EventIndex}
    (hB' : wb.capacity buffer ≤ 2 ^ 30) (hn : 1 ≤ (wb.iter buffer).length)
    (hids : (wb.iter buffer).map (fun e => e.2.id) = (idsFrom f (wb.iter buffer).length).map some) :
    inWraparoundZone wb buffer = some (decide (InWraparoundZone f (wb.capacity buffer))) := by
  have hsize := toNat_bufferSize hB'
  have hfirst := id_getElem_of_consecutive hids 0 hn
  have hsub : (UInt32.ofNat 4294967295 - bufferSize wb buffer).toNat = 4294967295 - wb.capacity buffer := by
    rw [UInt32.toNat_sub_of_le]
    · simp only [UInt32.toNat_ofNat', hsize]
    · rw [UInt32.le_iff_toNat_le]
      simp only [UInt32.toNat_ofNat', hsize]
      omega
  cases hitems : wb.iter buffer with
  | nil => simp [hitems] at hn
  | cons e rest =>
      have hzero : (0 : Nat).toUInt32 = 0 := rfl
      simp only [hitems, List.getElem_cons_zero, hzero, UInt32.add_zero] at hfirst
      simp only [inWraparoundZone, hitems, List.head?_cons, hfirst, Option.map_some,
        Option.some.injEq, InWraparoundZone, UInt32.lt_iff_toNat_lt, hsub, hsize, gt_iff_lt]
      simp

/-- **The skip predicate on a consecutive buffer** accepts exactly the events whose
index is below `replayTarget - replayOrigin`: the ids, shifted or not, do not wrap
inside the buffer. -/
theorem skipBeforeStart_consecutive (B k : Nat) (f s : EventIndex) (hB : 1 ≤ B)
    (hB' : B ≤ 2 ^ 30) (hk : k < B) (tuple : ProtocolVersion × ServerSentEvent)
    (hid : tuple.2.id = some (f + k.toUInt32)) :
    skipBeforeStart (decide (InWraparoundZone f B)) B.toUInt32 s tuple =
      some (decide (k < replayTarget s f B - replayOrigin f B)) := by
  have hf := UInt32.toNat_lt f
  have hs := UInt32.toNat_lt s
  simp only [skipBeforeStart, hid, Option.map_some, Option.some.injEq, replayOrigin,
    replayTarget]
  -- in the zone the shifted ids `f + k + B` stay below `2^32` past the wrap
  by_cases hz : InWraparoundZone f B
  · simp only [hz, decide_true, if_true, decide_eq_decide, UInt32.lt_iff_toNat_lt,
      UInt32.toNat_add, Nat.toUInt32_eq, UInt32.toNat_ofNat', Nat.reducePow, Nat.add_mod_mod]
    simp only [InWraparoundZone] at hz
    constructor <;> intro h <;> omega
  · simp only [hz, decide_false, Bool.false_eq_true, if_false, decide_eq_decide, UInt32.lt_iff_toNat_lt,
      UInt32.toNat_add, Nat.toUInt32_eq, UInt32.toNat_ofNat', Nat.reducePow, Nat.add_mod_mod]
    simp only [InWraparoundZone] at hz
    constructor <;> intro h <;> omega

/-- The replay of a consecutive buffer is the suffix after the first
`replayTarget - replayOrigin` events. -/
theorem selectReplayed_consecutive (wb : EventBufferImpl) (buffer : wb.Buf) (f s : EventIndex)
    (hB : 1 ≤ wb.capacity buffer) (hB' : wb.capacity buffer ≤ 2 ^ 30)
    (hn : 1 ≤ (wb.iter buffer).length)
    (hids : (wb.iter buffer).map (fun e => e.2.id) = (idsFrom f (wb.iter buffer).length).map some) :
    selectReplayed wb s buffer = some ((wb.iter buffer).drop
      (replayTarget s f (wb.capacity buffer) - replayOrigin f (wb.capacity buffer))) := by
  rw [selectReplayed, inWraparoundZone_of_consecutive hB' hn hids]
  apply skipWhile_eq_drop
  intro k hk
  exact skipBeforeStart_consecutive (wb.capacity buffer) k f s hB hB'
    (Nat.lt_of_lt_of_le hk (wb.length_iter_le buffer)) _ (id_getElem_of_consecutive hids k hk)

/-- **The replay window.**  For a buffer of `n ≥ 1` events with consecutive ids
from `f` and `d = (s - f) mod 2^32`: the replay starts at the event with id `s`
when `d < n`; it is empty when `n ≤ d < 2^32 - replayOrigin f B`; and it is the
whole buffer when `d ≥ 2^32 - replayOrigin f B`. -/
theorem selectReplayed_window (wb : EventBufferImpl) (buffer : wb.Buf) (f s : EventIndex)
    (hB : 1 ≤ wb.capacity buffer) (hB' : wb.capacity buffer ≤ 2 ^ 30)
    (hn : 1 ≤ (wb.iter buffer).length)
    (hids : (wb.iter buffer).map (fun e => e.2.id) = (idsFrom f (wb.iter buffer).length).map some) :
    ((s - f).toNat < (wb.iter buffer).length →
        selectReplayed wb s buffer = some ((wb.iter buffer).drop (s - f).toNat) ∧
        ((wb.iter buffer).drop (s - f).toNat).head?.map (fun e => e.2.id) = some (some s)) ∧
    ((wb.iter buffer).length ≤ (s - f).toNat →
        (s - f).toNat < 2 ^ 32 - replayOrigin f (wb.capacity buffer) →
        selectReplayed wb s buffer = some []) ∧
    (2 ^ 32 - replayOrigin f (wb.capacity buffer) ≤ (s - f).toNat →
        selectReplayed wb s buffer = some (wb.iter buffer)) := by
  have hsel := selectReplayed_consecutive wb buffer f s hB hB' hn hids
  rw [replayTarget_sub_replayOrigin] at hsel
  have hfit := replayOrigin_add_lt f (wb.capacity buffer) hB'
  have hlen := wb.length_iter_le buffer
  refine ⟨fun hd => ⟨?_, ?_⟩, fun hd hd' => ?_, fun hd => ?_⟩
  · rw [hsel, if_pos (by omega)]
  · -- the event at index `d` carries id `f + d = s`
    have hid := id_getElem_of_consecutive hids _ hd
    simp [List.head?_drop, List.getElem?_eq_getElem hd, hid]
  · rw [hsel, if_pos hd', List.drop_eq_nil_of_le hd]
  · rw [hsel, if_neg (by omega), List.drop_zero]

/-- A buffer whose ids wrapped (`u32::MAX - 1, u32::MAX, 0`) replays from
`start_from = 0` its last event. -/
example :
    selectReplayed wheelBufModel 0
        ⟨4, [(.fromParts 1 0 0, ⟨some 4294967294, .shutdown, none, none⟩),
          (.fromParts 1 0 0, ⟨some 4294967295, .shutdown, none, none⟩),
          (.fromParts 1 0 0, ⟨some 0, .shutdown, none, none⟩)], by decide⟩ =
      some [(.fromParts 1 0 0, ⟨some 0, .shutdown, none, none⟩)] :=
  ((selectReplayed_window wheelBufModel ⟨4, _, by decide⟩ 4294967294 0 (by decide) (by decide) (by decide)
    (by decide)).1 (by decide)).1

end CasperSidecar
