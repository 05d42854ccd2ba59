import Mathlib

/-!
# Lib.PullStream

Pull-based streams whose stages share a mutable environment, and the
combinators `map`, `filterMap`, `takeWhile` and `chain` over them, with the
semantics of the `futures` crate's `StreamExt`: a consumer polls the outer
stage, which polls the stage inside it, and so on down to a source.  A stage
closure may read or write the environment `E`, the state that several
stages of one pipeline hold through a shared reference.  Because each poll
happens only when the consumer asks for the next item, the order in which
the stages' effects on `E` interleave is the order of the items, and
`chain` polls its second stream only after the first one is exhausted.

A poll that consumes an item without producing one (a `filterMap` whose
closure returns `none`, `chain` switching to its second stream) is a `skip`
step, so that one poll is one step; the internal loop of the crate's
`FilterMap::poll_next` is a run of such steps.

`run` drains a stream from a state; it terminates because every step that
is not `done` lowers the stream's `size`.  The run equations
(`run_ofList`, `run_map_ofList`, `run_filterMap_ofList`, `run_takeWhile`,
`run_chain`, `run_filterMap_pure`) give the drained output of each
combinator in terms of plain list functions; every proof about a
pipeline goes through them and never unfolds a poll.
-/

namespace PullStream

/-- What one poll of a stream produces. -/
inductive Step (σ α : Type) where
  | yield (a : α) (next : σ)
  | skip (next : σ)
  | done

/-- The state one poll moves to, when it moves. -/
def Step.next? {σ α : Type} : Step σ α → Option σ
  | .yield _ s => some s
  | .skip s => some s
  | .done => none

/-- A stream over states `σ` whose polls read and write an environment `E`.
`size` bounds the steps left: every `yield` or `skip` lowers it. -/
structure Stream (σ E α : Type) where
  poll : σ → E → Step σ α × E
  size : σ → Nat
  size_lt : ∀ s e s', (poll s e).1.next? = some s' → size s' < size s

variable {σ σ₁ σ₂ E α β : Type}

namespace Stream

/-- Drain the stream from state `s`: every item it yields, and the final
environment. -/
def run (st : Stream σ E α) (s : σ) (e : E) : List α × E :=
  match _hp : (st.poll s e).1 with
  | .yield a s' => ((a :: (st.run s' (st.poll s e).2).1), (st.run s' (st.poll s e).2).2)
  | .skip s' => st.run s' (st.poll s e).2
  | .done => ([], (st.poll s e).2)
termination_by st.size s
decreasing_by
  · exact st.size_lt s e s' (by simp [_hp, Step.next?])
  · exact st.size_lt s e s' (by simp [_hp, Step.next?])

/-! ## The three run equations -/

theorem run_of_yield (st : Stream σ E α) {s s' : σ} {e e' : E} {a : α}
    (h : st.poll s e = (.yield a s', e')) :
    st.run s e = (a :: (st.run s' e').1, (st.run s' e').2) := by
  rw [run]
  split <;> simp_all

theorem run_of_skip (st : Stream σ E α) {s s' : σ} {e e' : E}
    (h : st.poll s e = (.skip s', e')) : st.run s e = st.run s' e' := by
  rw [run]
  split <;> simp_all

theorem run_of_done (st : Stream σ E α) {s : σ} {e e' : E}
    (h : st.poll s e = (.done, e')) : st.run s e = ([], e') := by
  rw [run]
  split <;> simp_all

/-- Induction along the polls of a stream: a property of every state follows from
its step case, which may assume the property for every state a poll moves to. -/
theorem poll_induction (st : Stream σ E α) {motive : σ → Prop}
    (step : ∀ s, (∀ e s', (st.poll s e).1.next? = some s' → motive s') → motive s) (s : σ) :
    motive s := by
  induction h : st.size s using Nat.strong_induction_on generalizing s with
  | _ n ih =>
      apply step
      intro e s' hs
      exact ih (st.size s') (h ▸ st.size_lt s e s' hs) s' rfl

/-- A stream that never changes the environment. -/
def Preserves (st : Stream σ E α) : Prop := ∀ s e, (st.poll s e).2 = e

end Stream

/-! ## Sources -/

/-- A channel whose sender has been dropped after sending `l`: the stream of
`l`'s items.  Its state is what is left to receive. -/
def ofList : Stream (List α) E α where
  poll
    | [], e => (.done, e)
    | a :: l, e => (.yield a l, e)
  size l := l.length
  size_lt := by
    intro s e s' h
    cases s with
    | nil => simp [Step.next?] at h
    | cons a l => simp only [Step.next?, Option.some.injEq] at h; subst h; simp

theorem ofList_preserves : (ofList : Stream (List α) E α).Preserves := by
  intro s e
  cases s <;> rfl

@[simp] theorem run_ofList (l : List α) (e : E) :
    (ofList : Stream (List α) E α).run l e = (l, e) := by
  induction l with
  | nil => exact Stream.run_of_done _ rfl
  | cons a l ih => rw [Stream.run_of_yield _ rfl, ih]

/-! ## Stages -/

/-- `StreamExt::map` with a closure that may update the environment. -/
def map (f : α → E → β × E) (st : Stream σ E α) : Stream σ E β where
  poll s e :=
    match st.poll s e with
    | (.yield a s', e') => ((.yield (f a e').1 s'), (f a e').2)
    | (.skip s', e') => (.skip s', e')
    | (.done, e') => (.done, e')
  size := st.size
  size_lt := by
    intro s e s' h
    apply st.size_lt s e s'
    rcases hp : st.poll s e with ⟨_ | _ | _, _⟩ <;> simp_all [Step.next?]

/-- `StreamExt::filter_map` with a closure that may read and update the environment;
an item mapped to `none` is a `skip`. -/
def filterMap (f : α → E → Option β × E) (st : Stream σ E α) : Stream σ E β where
  poll s e :=
    match st.poll s e with
    | (.yield a s', e') =>
        match f a e' with
        | (some b, e'') => (.yield b s', e'')
        | (none, e'') => (.skip s', e'')
    | (.skip s', e') => (.skip s', e')
    | (.done, e') => (.done, e')
  size := st.size
  size_lt := by
    intro s e s' h
    apply st.size_lt s e s'
    rcases hp : st.poll s e with ⟨_ | _ | _, e'⟩
    · rename_i a s₀
      rcases hf : f a e' with ⟨_ | _, _⟩ <;> simp_all [Step.next?]
    all_goals simp_all [Step.next?]

/-- `StreamExt::take_while`: the stream ends at the first item the predicate
rejects, and the inner stream is not polled again. -/
def takeWhile (p : α → Bool) (st : Stream σ E α) : Stream σ E α where
  poll s e :=
    match st.poll s e with
    | (.yield a s', e') => if p a then (.yield a s', e') else (.done, e')
    | (.skip s', e') => (.skip s', e')
    | (.done, e') => (.done, e')
  size := st.size
  size_lt := by
    intro s e s' h
    apply st.size_lt s e s'
    rcases hp : st.poll s e with ⟨_ | _ | _, e'⟩
    · rename_i a s₀
      by_cases hpa : p a <;> simp_all [Step.next?]
    all_goals simp_all [Step.next?]

/-- The size of a `chain` state: the first stream's, one for the switch, the second's. -/
def chainSize (st₁ : Stream σ₁ E α) (st₂ : Stream σ₂ E α) : Option σ₁ × σ₂ → Nat
  | (some s₁, s₂) => st₁.size s₁ + 1 + st₂.size s₂
  | (none, s₂) => st₂.size s₂

/-- `StreamExt::chain`: the items of the first stream, then those of the second.
The first component of the state is `none` once the first stream is exhausted,
after which it is never polled again. -/
def chain (st₁ : Stream σ₁ E α) (st₂ : Stream σ₂ E α) : Stream (Option σ₁ × σ₂) E α where
  poll
    | (some s₁, s₂), e =>
        match st₁.poll s₁ e with
        | (.yield a s₁', e') => (.yield a (some s₁', s₂), e')
        | (.skip s₁', e') => (.skip (some s₁', s₂), e')
        | (.done, e') => (.skip (none, s₂), e')
    | (none, s₂), e =>
        match st₂.poll s₂ e with
        | (.yield a s₂', e') => (.yield a (none, s₂'), e')
        | (.skip s₂', e') => (.skip (none, s₂'), e')
        | (.done, e') => (.done, e')
  size := chainSize st₁ st₂
  size_lt := by
    rintro ⟨_ | s₁, s₂⟩ e s' h
    · have hlt := st₂.size_lt s₂ e
      rcases hp : st₂.poll s₂ e with ⟨_ | _ | _, e'⟩ <;> simp_all [Step.next?] <;> subst h <;>
        simp_all [chainSize]
    · have hlt := st₁.size_lt s₁ e
      rcases hp : st₁.poll s₁ e with ⟨_ | _ | _, e'⟩ <;> simp_all [Step.next?] <;> subst h <;>
        simp [chainSize] <;> omega

/-! ## Run equations of the stages -/

/-- `List.map` with a closure that threads an environment through the items in order. -/
def mapEnv (f : α → E → β × E) : List α → E → List β × E
  | [], e => ([], e)
  | a :: l, e => ((f a e).1 :: (mapEnv f l (f a e).2).1, (mapEnv f l (f a e).2).2)

/-- Mapping a channel: the closure runs on the items in order, threading the
environment. -/
theorem run_map_ofList (f : α → E → β × E) (l : List α) (e : E) :
    (map f ofList).run l e = mapEnv f l e := by
  induction l generalizing e with
  | nil => exact Stream.run_of_done _ rfl
  | cons a l ih => rw [Stream.run_of_yield _ rfl, ih, mapEnv]

/-- A closure that reads the environment and leaves it unchanged. -/
def Reader (f : α → E → Option β × E) : Prop := ∀ a e, (f a e).2 = e

/-- Filtering a channel with a reader: every item sees the environment the
pipeline started with. -/
theorem run_filterMap_ofList {f : α → E → Option β × E} (hf : Reader f) (l : List α) (e : E) :
    (filterMap f ofList).run l e = (l.filterMap fun a => (f a e).1, e) := by
  induction l with
  | nil => exact Stream.run_of_done _ rfl
  | cons a l ih =>
      rcases hfa : f a e with ⟨_ | b, e'⟩
      all_goals
        have he : e' = e := by simpa [hfa] using hf a e
        subst he
      · have hq : (filterMap f ofList).poll (a :: l) e' = (.skip l, e') := by
          simp [filterMap, ofList, hfa]
        rw [Stream.run_of_skip _ hq, ih]
        simp [hfa]
      · have hq : (filterMap f ofList).poll (a :: l) e' = (.yield b l, e') := by
          simp [filterMap, ofList, hfa]
        rw [Stream.run_of_yield _ hq, ih]
        simp [hfa]

theorem filterMap_preserves {f : α → E → Option β × E} (hf : Reader f) {st : Stream σ E α}
    (hst : st.Preserves) : (filterMap f st).Preserves := by
  intro s e
  have hs := hst s e
  rcases hp : st.poll s e with ⟨_ | _ | _, e'⟩
  · rename_i a s'
    have he' : e' = e := by simpa [hp] using hs
    subst he'
    rcases hfa : f a e' with ⟨_ | _, e''⟩
    all_goals
      have he'' : e'' = e' := by simpa [hfa] using hf a e'
      simp [filterMap, hp, hfa, he'']
  all_goals simp_all [filterMap]

/-- A `take_while` over a stream that leaves the environment alone keeps the
longest prefix of its items that the predicate accepts. -/
theorem run_takeWhile (p : α → Bool) {st : Stream σ E α} (hst : st.Preserves) (s : σ) (e : E) :
    (takeWhile p st).run s e = ((st.run s e).1.takeWhile p, e) := by
  induction s using st.poll_induction with
  | step s ih =>
      rcases hpoll : st.poll s e with ⟨_ | _ | _, e'⟩
      all_goals
        have he : e' = e := by simpa [hpoll] using hst s e
        subst he
      · rename_i a s'
        have hnext : (st.poll s e').1.next? = some s' := by simp [hpoll, Step.next?]
        by_cases hpa : p a
        · have hq : (takeWhile p st).poll s e' = (.yield a s', e') := by
            simp [takeWhile, hpoll, hpa]
          rw [Stream.run_of_yield _ hq, ih e' s' hnext, st.run_of_yield hpoll]
          simp [hpa]
        · have hq : (takeWhile p st).poll s e' = (.done, e') := by
            simp [takeWhile, hpoll, hpa]
          rw [Stream.run_of_done _ hq, st.run_of_yield hpoll]
          simp [hpa]
      · rename_i s'
        have hq : (takeWhile p st).poll s e' = (.skip s', e') := by simp [takeWhile, hpoll]
        rw [Stream.run_of_skip _ hq, st.run_of_skip hpoll]
        exact ih e' s' (by simp [hpoll, Step.next?])
      · have hq : (takeWhile p st).poll s e' = (.done, e') := by simp [takeWhile, hpoll]
        rw [Stream.run_of_done _ hq, st.run_of_done hpoll]
        rfl

/-- A `filter_map` whose closure ignores the environment filters the drained items. -/
theorem run_filterMap_pure (g : α → Option β) (st : Stream σ E α) (s : σ) (e : E) :
    (filterMap (fun a e => (g a, e)) st).run s e = ((st.run s e).1.filterMap g, (st.run s e).2) := by
  induction s using st.poll_induction generalizing e with
  | step s ih =>
      rcases hpoll : st.poll s e with ⟨_ | _ | _, e'⟩
      · rename_i a s'
        have hnext : (st.poll s e).1.next? = some s' := by simp [hpoll, Step.next?]
        rw [st.run_of_yield hpoll]
        cases hga : g a with
        | none =>
            have hq : (filterMap (fun a e => (g a, e)) st).poll s e = (.skip s', e') := by
              simp [filterMap, hpoll, hga]
            rw [Stream.run_of_skip _ hq, ih e s' hnext]
            simp [hga]
        | some b =>
            have hq : (filterMap (fun a e => (g a, e)) st).poll s e = (.yield b s', e') := by
              simp [filterMap, hpoll, hga]
            rw [Stream.run_of_yield _ hq, ih e s' hnext]
            simp [hga]
      · rename_i s'
        have hq : (filterMap (fun a e => (g a, e)) st).poll s e = (.skip s', e') := by
          simp [filterMap, hpoll]
        rw [Stream.run_of_skip _ hq, st.run_of_skip hpoll]
        exact ih e s' (by simp [hpoll, Step.next?]) e'
      · have hq : (filterMap (fun a e => (g a, e)) st).poll s e = (.done, e') := by
          simp [filterMap, hpoll]
        rw [Stream.run_of_done _ hq, st.run_of_done hpoll]
        rfl

/-- Once its first stream is exhausted, a chain is its second stream. -/
theorem run_chain_none (st₁ : Stream σ₁ E α) (st₂ : Stream σ₂ E α) (s₂ : σ₂) (e : E) :
    (chain st₁ st₂).run (none, s₂) e = st₂.run s₂ e := by
  induction s₂ using st₂.poll_induction generalizing e with
  | step s₂ ih =>
      rcases hpoll : st₂.poll s₂ e with ⟨_ | _ | _, e'⟩
      · rename_i a s'
        have hq : (chain st₁ st₂).poll (none, s₂) e = (.yield a (none, s'), e') := by
          simp [chain, hpoll]
        rw [Stream.run_of_yield _ hq, st₂.run_of_yield hpoll, ih e s' (by simp [hpoll, Step.next?])]
      · rename_i s'
        have hq : (chain st₁ st₂).poll (none, s₂) e = (.skip (none, s'), e') := by
          simp [chain, hpoll]
        rw [Stream.run_of_skip _ hq, st₂.run_of_skip hpoll]
        exact ih e s' (by simp [hpoll, Step.next?]) e'
      · have hq : (chain st₁ st₂).poll (none, s₂) e = (.done, e') := by simp [chain, hpoll]
        rw [Stream.run_of_done _ hq, st₂.run_of_done hpoll]

/-- **A chain drains its first stream, then its second** from the environment the
first one left: the second stream's closures see every effect of the first's. -/
theorem run_chain (st₁ : Stream σ₁ E α) (st₂ : Stream σ₂ E α) (s₁ : σ₁) (s₂ : σ₂) (e : E) :
    (chain st₁ st₂).run (some s₁, s₂) e =
      ((st₁.run s₁ e).1 ++ (st₂.run s₂ (st₁.run s₁ e).2).1, (st₂.run s₂ (st₁.run s₁ e).2).2) := by
  induction s₁ using st₁.poll_induction generalizing e with
  | step s₁ ih =>
      rcases hpoll : st₁.poll s₁ e with ⟨_ | _ | _, e'⟩
      · rename_i a s'
        have hq : (chain st₁ st₂).poll (some s₁, s₂) e = (.yield a (some s', s₂), e') := by
          simp [chain, hpoll]
        rw [Stream.run_of_yield _ hq, st₁.run_of_yield hpoll, ih e s' (by simp [hpoll, Step.next?])]
        rfl
      · rename_i s'
        have hq : (chain st₁ st₂).poll (some s₁, s₂) e = (.skip (some s', s₂), e') := by
          simp [chain, hpoll]
        rw [Stream.run_of_skip _ hq, st₁.run_of_skip hpoll]
        exact ih e s' (by simp [hpoll, Step.next?]) e'
      · have hq : (chain st₁ st₂).poll (some s₁, s₂) e = (.skip (none, s₂), e') := by
          simp [chain, hpoll]
        rw [Stream.run_of_skip _ hq, st₁.run_of_done hpoll, run_chain_none]
        rfl

end PullStream
