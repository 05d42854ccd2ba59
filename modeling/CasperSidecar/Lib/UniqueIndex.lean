import Mathlib

/-!
# Lib.UniqueIndex

Tables under unique indexes, as a relational database enforces them.  Every
row carries the values it takes in the unique indexes of its table (a primary
key, a `UNIQUE` column, a unique composite index), tagged so that values of
different indexes never coincide, and a store holds every such value at most
once (`Store.keys_nodup`).  An insert whose row would repeat a value fails and
names the value; a transaction inserts its rows in order and, when one of them
fails, leaves nothing behind.

Two rows of a store never share a value (`Store.pairwise_disjoint`), and
neither do the rows of any list that embeds into the store up to order
(`Store.pairwise_disjoint_of_subperm`): that is how a client that acts only
on committed inserts inherits the uniqueness the database guarantees.  A
transaction repeating a stored value therefore fails
(`Store.insertAll_ne_ok_of_clash`), and a lookup by a value finds the one row that
holds it (`filter_holding`).
-/

namespace UniqueIndex

variable {κ ρ : Type} {keys : ρ → List κ}

/-- Rows whose unique-index values are pairwise distinct. -/
structure Store (keys : ρ → List κ) where
  rows : List ρ
  keys_nodup : (rows.flatMap keys).Nodup

section Inserts

variable [DecidableEq κ]

/-! ## Clashes -/

/-- The first of `values` that is in `taken` or repeats an earlier one. -/
def firstClash (taken : List κ) : List κ → Option κ
  | [] => none
  | value :: rest => if value ∈ taken then some value else firstClash (value :: taken) rest

/-- No clash exactly when the values are distinct and none is taken. -/
theorem firstClash_eq_none_iff (taken values : List κ) :
    firstClash taken values = none ↔ values.Nodup ∧ ∀ v ∈ values, v ∉ taken := by
  induction values generalizing taken with
  | nil => simp [firstClash]
  | cons value rest ih =>
      by_cases htaken : value ∈ taken
      · simp [firstClash, htaken]
      · rw [firstClash, if_neg htaken, ih]
        simp only [List.nodup_cons, List.mem_cons, forall_eq_or_imp, not_or]
        constructor
        · rintro ⟨hnodup, hfresh⟩
          exact ⟨⟨fun hv => (hfresh value hv).1 rfl, hnodup⟩, htaken, fun v hv => (hfresh v hv).2⟩
        · rintro ⟨⟨hv, hnodup⟩, -, hfresh⟩
          exact ⟨hnodup, fun w hw => ⟨fun hwv => hv (hwv ▸ hw), hfresh w hw⟩⟩

/-- A clash is one of the values inserted. -/
theorem mem_of_firstClash_eq_some {taken values : List κ} {v : κ}
    (h : firstClash taken values = some v) : v ∈ values := by
  induction values generalizing taken with
  | nil => simp [firstClash] at h
  | cons value rest ih =>
      rw [firstClash] at h
      split at h
      · cases h
        exact List.mem_cons_self
      · exact List.mem_cons_of_mem _ (ih h)

/-! ## Inserts and transactions -/

/-- An `INSERT`: the first value of the row that is already taken, or the store with
the row added. -/
def Store.insert (s : Store keys) (row : ρ) : Except κ (Store keys) :=
  match h : firstClash (s.rows.flatMap keys) (keys row) with
  | some value => .error value
  | none => .ok ⟨s.rows ++ [row], by
      obtain ⟨hnodup, hfresh⟩ := (firstClash_eq_none_iff _ _).mp h
      rw [List.flatMap_append, List.flatMap_singleton, List.nodup_append]
      exact ⟨s.keys_nodup, hnodup, fun a ha b hb hab => hfresh b hb (hab ▸ ha)⟩⟩

/-- The inserts of one transaction, in order: the first clash aborts it. -/
def Store.insertAll (s : Store keys) : List ρ → Except κ (Store keys)
  | [] => .ok s
  | row :: rest =>
      match s.insert row with
      | .error value => .error value
      | .ok s' => s'.insertAll rest

theorem Store.rows_of_insert_eq_ok {s s' : Store keys} {row : ρ} (h : s.insert row = .ok s') :
    s'.rows = s.rows ++ [row] := by
  unfold Store.insert at h
  split at h
  · cases h
  · cases h
    rfl

theorem Store.mem_keys_of_insert_eq_error {s : Store keys} {row : ρ} {v : κ}
    (h : s.insert row = .error v) : v ∈ keys row := by
  unfold Store.insert at h
  split at h
  · rename_i hclash
    cases h
    exact mem_of_firstClash_eq_some hclash
  · cases h

/-- A committed transaction appends its rows. -/
theorem Store.rows_of_insertAll_eq_ok {s s' : Store keys} {rows : List ρ}
    (h : s.insertAll rows = .ok s') : s'.rows = s.rows ++ rows := by
  induction rows generalizing s with
  | nil =>
      cases h
      simp
  | cons row rest ih =>
      rw [Store.insertAll] at h
      split at h
      · cases h
      · rename_i s₁ hinsert
        rw [ih h, Store.rows_of_insert_eq_ok hinsert, List.append_assoc, List.singleton_append]

/-- A failed transaction names a value of one of its rows. -/
theorem Store.exists_mem_keys_of_insertAll_eq_error {s : Store keys} {rows : List ρ} {v : κ}
    (h : s.insertAll rows = .error v) : ∃ row ∈ rows, v ∈ keys row := by
  induction rows generalizing s with
  | nil => cases h
  | cons row rest ih =>
      rw [Store.insertAll] at h
      split at h
      · rename_i value hinsert
        cases h
        exact ⟨row, List.mem_cons_self, Store.mem_keys_of_insert_eq_error hinsert⟩
      · obtain ⟨row', hrow', hv⟩ := ih h
        exact ⟨row', List.mem_cons_of_mem _ hrow', hv⟩

end Inserts

/-! ## Uniqueness -/

/-- Two rows of a store share no value. -/
theorem Store.pairwise_disjoint (s : Store keys) :
    s.rows.Pairwise fun a b => (keys a).Disjoint (keys b) :=
  (List.nodup_flatMap.mp s.keys_nodup).2

/-- A transaction inserting a row that shares a value with a stored row fails. -/
theorem Store.insertAll_ne_ok_of_clash [DecidableEq κ] {s : Store keys} {rows : List ρ}
    {row stored : ρ} {v : κ} (hrow : row ∈ rows) (hstored : stored ∈ s.rows)
    (hv : v ∈ keys row) (hv' : v ∈ keys stored) (s' : Store keys) : s.insertAll rows ≠ .ok s' := by
  intro hinsert
  -- committed, the stored row and the new one would sit side by side in one store
  have hdisjoint := s'.pairwise_disjoint
  rw [Store.rows_of_insertAll_eq_ok hinsert, List.pairwise_append] at hdisjoint
  exact hdisjoint.2.2 stored hstored row hrow hv' hv

/-- Neither do the rows of a list that embeds into the store up to order. -/
theorem Store.pairwise_disjoint_of_subperm (s : Store keys) {l : List ρ} (h : l.Subperm s.rows) :
    l.Pairwise fun a b => (keys a).Disjoint (keys b) := by
  obtain ⟨l', hperm, hsub⟩ := h
  exact (s.pairwise_disjoint.sublist hsub).perm hperm fun hab => hab.symm

/-- Of rows whose values are pairwise disjoint, those for which `p` says they hold the
value `v` are the one row that holds it. -/
theorem filter_holding {l : List ρ} (hdisjoint : l.Pairwise fun a b => (keys a).Disjoint (keys b))
    {row : ρ} {v : κ} (hrow : row ∈ l) (hv : v ∈ keys row) (p : ρ → Bool)
    (hp : ∀ r ∈ l, p r = true ↔ v ∈ keys r) : l.filter p = [row] := by
  induction l with
  | nil => cases hrow
  | cons a l ih =>
      obtain ⟨ha, hl⟩ := List.pairwise_cons.mp hdisjoint
      have hp' : ∀ r ∈ l, p r = true ↔ v ∈ keys r := fun r hr => hp r (List.mem_cons_of_mem _ hr)
      rcases List.mem_cons.mp hrow with rfl | hmem
      · -- no later row holds the value the first one holds
        have hrest : l.filter p = [] := by
          rw [List.filter_eq_nil_iff]
          intro r hr hpr
          exact ha r hr hv ((hp' r hr).mp hpr)
        rw [List.filter_cons_of_pos ((hp row List.mem_cons_self).mpr hv), hrest]
      · -- the first row does not hold it, since a later one does
        have hfirst : p a = false := by
          rw [Bool.eq_false_iff]
          intro hpa
          exact ha row hmem ((hp a List.mem_cons_self).mp hpa) hv
        rw [List.filter_cons_of_neg (by simp [hfirst]), ih hl hmem hp']

end UniqueIndex
