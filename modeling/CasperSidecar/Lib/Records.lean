import Mathlib

/-!
# Lib.Records

The records of a sequence under a strict order `lt`: the elements greater than
every element before them, in order (`records`).  They are strictly increasing
(`records_pairwise`).

A running maximum finds them without keeping the sequence: when `newest` is the
greatest element seen so far (`IsNewest`), an element is greater than everything
seen exactly when it is greater than `newest` (`IsNewest.all_lt_iff`), and the
newest element after it is itself or the old one (`IsNewest.push`).  Both need
`lt` transitive; the second also needs it total.  The last record is the running
maximum (`IsNewest.getLast?_records`).
-/

namespace Records

variable {α : Type}

/-- The elements of `l` greater than every element of `seen` and every element before
them in `l`, in order. -/
def recordsAfter (lt : α → α → Bool) : List α → List α → List α
  | _, [] => []
  | seen, a :: l => (if seen.all (lt · a) then [a] else []) ++ recordsAfter lt (seen ++ [a]) l

/-- The records of `l`: its elements greater than every element before them. -/
def records (lt : α → α → Bool) (l : List α) : List α :=
  recordsAfter lt [] l

@[simp] theorem records_nil (lt : α → α → Bool) : records lt [] = [] := rfl

theorem recordsAfter_append_singleton (lt : α → α → Bool) (seen l : List α) (a : α) :
    recordsAfter lt seen (l ++ [a]) =
      recordsAfter lt seen l ++ if (seen ++ l).all (lt · a) then [a] else [] := by
  induction l generalizing seen with
  | nil => simp [recordsAfter]
  | cons b l ih =>
      rw [List.cons_append, recordsAfter, recordsAfter, ih, List.append_assoc,
        List.append_assoc, List.singleton_append]

/-- A record is added exactly when the new element is above every earlier one. -/
theorem records_append_singleton (lt : α → α → Bool) (l : List α) (a : α) :
    records lt (l ++ [a]) = records lt l ++ if l.all (lt · a) then [a] else [] := by
  rw [records, recordsAfter_append_singleton, List.nil_append]
  rfl

/-- Every record is above every element of `seen` and every element before it. -/
theorem lt_of_mem_recordsAfter {lt : α → α → Bool} {seen l : List α} {a : α}
    (ha : a ∈ recordsAfter lt seen l) : ∀ x ∈ seen, lt x a = true := by
  induction l generalizing seen with
  | nil => simp [recordsAfter] at ha
  | cons b l ih =>
      rw [recordsAfter, List.mem_append] at ha
      rcases ha with ha | ha
      · -- `a` is the head, kept because it is above everything seen
        split at ha
        · rename_i hall
          rw [List.mem_singleton] at ha
          subst ha
          simpa using hall
        · simp at ha
      · intro x hx
        exact ih ha x (List.mem_append_left _ hx)

/-- **The records increase.** -/
theorem recordsAfter_pairwise {lt : α → α → Bool} (seen l : List α) :
    (recordsAfter lt seen l).Pairwise (fun a b => lt a b = true) := by
  induction l generalizing seen with
  | nil => exact List.Pairwise.nil
  | cons b l ih =>
      rw [recordsAfter, List.pairwise_append]
      refine ⟨by split <;> simp, ih _, ?_⟩
      -- every later record is above the head, which was seen before it
      intro a ha c hc
      split at ha
      · rw [List.mem_singleton] at ha
        subst ha
        exact lt_of_mem_recordsAfter hc a (List.mem_append_right _ List.mem_cons_self)
      · simp at ha

theorem records_pairwise (lt : α → α → Bool) (l : List α) :
    (records lt l).Pairwise (fun a b => lt a b = true) :=
  recordsAfter_pairwise [] l

/-! ## The running maximum -/

/-- `newest` is the greatest element of `seen`, and `none` when nothing was seen. -/
def IsNewest (lt : α → α → Bool) (newest : Option α) (seen : List α) : Prop :=
  match newest with
  | none => seen = []
  | some m => m ∈ seen ∧ ∀ x ∈ seen, x = m ∨ lt x m = true

theorem isNewest_nil (lt : α → α → Bool) : IsNewest lt none [] := rfl

/-- Above the newest element is above everything seen. -/
theorem IsNewest.all_lt_iff {lt : α → α → Bool}
    (trans : ∀ a b c, lt a b = true → lt b c = true → lt a c = true)
    {newest : Option α} {seen : List α} (h : IsNewest lt newest seen) (a : α) :
    seen.all (lt · a) = newest.all (lt · a) := by
  cases newest with
  | none =>
      rw [show seen = [] from h]
      rfl
  | some m =>
      obtain ⟨hm, hmax⟩ := h
      rw [Option.all_some, Bool.eq_iff_iff, List.all_eq_true]
      constructor
      · intro hall
        simpa using hall m hm
      · intro hlt x hx
        rcases hmax x hx with rfl | hxm
        · simpa using hlt
        · simpa using trans x m a hxm hlt

/-- The running maximum after one more element. -/
theorem IsNewest.push {lt : α → α → Bool}
    (trans : ∀ a b c, lt a b = true → lt b c = true → lt a c = true)
    (total : ∀ a b, lt a b = false → a = b ∨ lt b a = true)
    {newest : Option α} {seen : List α} (h : IsNewest lt newest seen) (a : α) :
    IsNewest lt (if newest.all (lt · a) then some a else newest) (seen ++ [a]) := by
  split
  · -- `a` is the new maximum
    rename_i hnewer
    refine ⟨List.mem_append_right _ (List.mem_singleton_self a), fun x hx => ?_⟩
    rw [List.mem_append, List.mem_singleton] at hx
    rcases hx with hx | rfl
    · rw [← h.all_lt_iff trans a, List.all_eq_true] at hnewer
      exact .inr (by simpa using hnewer x hx)
    · exact .inl rfl
  · rename_i hnotNewer
    cases newest with
    | none => simp at hnotNewer
    | some m =>
        obtain ⟨hm, hmax⟩ := h
        refine ⟨List.mem_append_left _ hm, fun x hx => ?_⟩
        rw [List.mem_append, List.mem_singleton] at hx
        rcases hx with hx | rfl
        · exact hmax x hx
        · -- not above `m`: equal to it or below it
          rcases total m x (by simpa using hnotNewer) with rfl | hxm
          · exact .inl rfl
          · exact .inr hxm

/-- **The last record is the running maximum**: the newest element is the last one that
was above everything before it.  Needs `lt` irreflexive and transitive. -/
theorem IsNewest.getLast?_records {lt : α → α → Bool} (irrefl : ∀ a, lt a a = false)
    (trans : ∀ a b c, lt a b = true → lt b c = true → lt a c = true)
    {newest : Option α} {seen : List α} (h : IsNewest lt newest seen) :
    (records lt seen).getLast? = newest := by
  induction seen using List.reverseRecOn generalizing newest with
  | nil =>
      cases newest with
      | none => rfl
      | some m => exact absurd h.1 List.not_mem_nil
  | append_singleton seen a ih =>
      cases newest with
      | none => exact absurd (show seen ++ [a] = [] from h) (by simp)
      | some m =>
          obtain ⟨hm, hmax⟩ := h
          rw [records_append_singleton]
          by_cases hall : seen.all (lt · a) = true
          · -- `a` is a record; above everything before it, it is the maximum
            rw [if_pos hall, List.getLast?_append_of_ne_nil _ (List.cons_ne_nil _ _),
              List.getLast?_singleton]
            rcases hmax a (List.mem_append_right _ (List.mem_singleton_self a)) with rfl | ham
            · rfl
            · rw [List.mem_append, List.mem_singleton] at hm
              rcases hm with hm | rfl
              · have hma : lt m a = true := by simpa using List.all_eq_true.mp hall m hm
                simpa [irrefl] using trans a m a ham hma
              · simp [irrefl] at ham
          · -- no new record: the maximum was already seen before `a`
            rw [if_neg hall, List.append_nil]
            apply ih
            refine ⟨?_, fun x hx => hmax x (List.mem_append_left _ hx)⟩
            rw [List.mem_append, List.mem_singleton] at hm
            rcases hm with hm | rfl
            · exact hm
            · obtain ⟨x, hx, hxm⟩ : ∃ x ∈ seen, lt x m = false := by
                simpa [List.all_eq_true] using hall
              rcases hmax x (List.mem_append_left _ hx) with rfl | hlt
              · exact hx
              · simp [hlt] at hxm

end Records
