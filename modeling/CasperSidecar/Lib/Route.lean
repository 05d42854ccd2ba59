import Mathlib

/-!
# Lib.Route

Requests answered by routes tried one after another, as `warp` composes its filters
(`Filter::or`, `Filter::recover`): a route answers a request or rejects it with the
reasons it found, none when it does not match at all.  `Route.or` tries the second
route when the first rejects and, when both reject, keeps the reasons of both, the
second's first (`Rejection::combine`); `Route.recover` answers from the reasons when
every route rejected.

* `Route.first` — the routes of a list tried in turn; `Route.or_assoc` and
  `Route.or_reject` make a chain of `or` one list however it is bracketed;
* `Route.first_cons_of_ok`, `Route.first_cons_of_error`, `Route.first_append_of_ok` — a
  request runs through a chain route by route;
* `Route.first_eq_error`, `Route.exists_of_mem_first_eq_error` — a chain rejects when
  every route does, with exactly the reasons of all of them.
-/

namespace Routing

/-- A route from requests `Q`: a reply `α`, or the reasons `ρ` it rejects the request
for, none when it does not match. -/
def Route (Q ρ α : Type) : Type := Q → Except (List ρ) α

namespace Route

variable {Q ρ α : Type}

/-- The route that matches nothing. -/
def reject : Route Q ρ α := fun _ => .error []

/-- `Filter::or`: the first route's reply, else the second's; when both reject, the
reasons of the second, then those of the first. -/
def or (f g : Route Q ρ α) : Route Q ρ α := fun q =>
  match f q with
  | .ok a => .ok a
  | .error r =>
      match g q with
      | .ok a => .ok a
      | .error r' => .error (r' ++ r)

/-- The routes of a list tried in turn. -/
def first (routes : List (Route Q ρ α)) : Route Q ρ α := routes.foldr or reject

/-- `Filter::recover`: the reply, or what `handle` answers for the reasons. -/
def recover {β : Type} (f : Route Q ρ α) (handle : List ρ → β) (q : Q) : Except β α :=
  (f q).mapError handle

/-! ## Alternatives -/

theorem or_of_ok {f g : Route Q ρ α} {q : Q} {a : α} (h : f q = .ok a) : f.or g q = .ok a := by
  simp only [or, h]

theorem or_of_error {f g : Route Q ρ α} {q : Q} {r : List ρ} (h : f q = .error r) :
    f.or g q = (g q).mapError (· ++ r) := by
  simp only [or, h]
  cases g q <;> rfl

/-- `or` rejects when both routes reject, with both their reasons. -/
theorem or_eq_error_iff {f g : Route Q ρ α} {q : Q} {r : List ρ} :
    f.or g q = .error r ↔ ∃ r₁ r₂, f q = .error r₁ ∧ g q = .error r₂ ∧ r = r₂ ++ r₁ := by
  cases hf : f q with
  | ok a => simp [or_of_ok hf]
  | error r₁ =>
      rw [or_of_error hf]
      cases g q <;> simp [Except.mapError, eq_comm]

theorem or_assoc (f g h : Route Q ρ α) : (f.or g).or h = f.or (g.or h) := by
  funext q
  cases hf : f q with
  | ok a => simp only [or, hf]
  | error r =>
      cases hg : g q with
      | ok a => simp only [or, hf, hg]
      | error r' =>
          cases hh : h q with
          | ok a => simp only [or, hf, hg, hh]
          | error r'' => simp only [or, hf, hg, hh, List.append_assoc]

theorem or_reject (f : Route Q ρ α) : f.or reject = f := by
  funext q
  cases hf : f q with
  | ok a => simp only [or, hf]
  | error r => simp only [or, hf, reject, List.nil_append]

@[simp] theorem first_nil : first ([] : List (Route Q ρ α)) = reject := rfl

@[simp] theorem first_cons (f : Route Q ρ α) (routes : List (Route Q ρ α)) :
    first (f :: routes) = f.or (first routes) := rfl

/-! ## A chain of routes -/

/-- A chain whose first route answers answers as it does. -/
theorem first_cons_of_ok {f : Route Q ρ α} {routes : List (Route Q ρ α)} {q : Q} {a : α}
    (h : f q = .ok a) : first (f :: routes) q = .ok a :=
  or_of_ok h

/-- A chain whose first route rejects goes on with the rest, keeping the reasons. -/
theorem first_cons_of_error {f : Route Q ρ α} {routes : List (Route Q ρ α)} {q : Q} {r : List ρ}
    (h : f q = .error r) : first (f :: routes) q = (first routes q).mapError (· ++ r) :=
  or_of_error h

/-- A chain whose first routes all reject answers as the rest does. -/
theorem first_append_of_ok {fs gs : List (Route Q ρ α)} {q : Q} {a : α}
    (hfs : ∀ f ∈ fs, ∃ r, f q = .error r) (h : first gs q = .ok a) : first (fs ++ gs) q = .ok a := by
  induction fs with
  | nil => exact h
  | cons f fs ih =>
      obtain ⟨r, hr⟩ := hfs f List.mem_cons_self
      rw [List.cons_append, first_cons_of_error hr, ih fun g hg => hfs g (List.mem_cons_of_mem _ hg)]
      rfl

/-- A chain rejects only when every route rejects, and keeps every route's reasons. -/
theorem first_eq_error {routes : List (Route Q ρ α)} {q : Q} {r : List ρ}
    (h : first routes q = .error r) : ∀ f ∈ routes, ∃ r', f q = .error r' ∧ r' ⊆ r := by
  induction routes generalizing r with
  | nil => simp
  | cons f routes ih =>
      obtain ⟨r₁, r₂, hf, hrest, rfl⟩ := or_eq_error_iff.mp h
      intro g hg
      rcases List.mem_cons.mp hg with rfl | hmem
      · exact ⟨r₁, hf, List.subset_append_right _ _⟩
      · obtain ⟨r', hr', hsub⟩ := ih hrest g hmem
        exact ⟨r', hr', List.Subset.trans hsub (List.subset_append_left _ _)⟩

/-- Every reason a chain rejects for is a reason of one of its routes. -/
theorem exists_of_mem_first_eq_error {routes : List (Route Q ρ α)} {q : Q} {r : List ρ}
    (h : first routes q = .error r) {x : ρ} (hx : x ∈ r) :
    ∃ f ∈ routes, ∃ r', f q = .error r' ∧ x ∈ r' := by
  induction routes generalizing r with
  | nil =>
      cases h
      cases hx
  | cons f routes ih =>
      obtain ⟨r₁, r₂, hf, hrest, rfl⟩ := or_eq_error_iff.mp h
      rcases List.mem_append.mp hx with hx₂ | hx₁
      · obtain ⟨g, hg, r', hr', hmem⟩ := ih hrest hx₂
        exact ⟨g, List.mem_cons_of_mem _ hg, r', hr', hmem⟩
      · exact ⟨f, List.mem_cons_self, r₁, hf, hx₁⟩

/-! ## Recovery -/

theorem recover_eq_ok_iff {β : Type} {f : Route Q ρ α} {handle : List ρ → β} {q : Q} {a : α} :
    f.recover handle q = .ok a ↔ f q = .ok a := by
  unfold recover
  cases f q <;> simp [Except.mapError]

theorem recover_eq_error_iff {β : Type} {f : Route Q ρ α} {handle : List ρ → β} {q : Q} {b : β} :
    f.recover handle q = .error b ↔ ∃ r, f q = .error r ∧ handle r = b := by
  unfold recover
  cases f q <;> simp [Except.mapError]

end Route

end Routing
