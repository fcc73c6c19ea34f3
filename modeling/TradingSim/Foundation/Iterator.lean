import TradingSim.Foundation.Checked

/-!
# Pull iterators

An iterator has one method, which hands back an item or says that there is none,
and leaves the iterator in its next state.  A consumer sees the answers and what
it can read off each state.

An iterator refines a pure specification when every call from an invariant state
succeeds and answers as the specification does.  Refinement carries over to any
number of calls and to a complete drain, and two refinements of one
specification cannot be told apart.
-/

namespace Foundation

/-- The one method of an iterator. -/
abbrev Iterator (ε σ α : Type) := σ → Checked ε (Option α × σ)

namespace Iterator

variable {ε σ σ' τ α ω : Type}

/-- Call an iterator a number of times, observing every call. -/
def calls (next : Iterator ε σ α) (observe : Option α → σ → ω) :
    Nat → σ → Checked ε (List ω × σ)
  | 0, state => .ok ([], state)
  | count + 1, state => do
      let (item, middle) ← next state
      let (observations, last) ← calls next observe count middle
      .ok (observe item middle :: observations, last)

/-- The items an iterator hands back up to its first call without an item, and
its state after that call. -/
inductive Drains (next : Iterator ε σ α) : σ → List α → σ → Prop where
  | finished {state last : σ} (called : next state = .ok (none, last)) :
      Drains next state [] last
  | item {state middle last : σ} {item : α} {items : List α}
      (called : next state = .ok (some item, middle))
      (rest : Drains next middle items last) :
      Drains next state (item :: items) last

/-- An iterator whose calls cannot fail. -/
def total (spec : τ → Option α × τ) : Iterator ε τ α :=
  fun state => .ok (spec state)

variable {next : Iterator ε σ α} {observe : Option α → σ → ω}

theorem calls_cons {count : Nat} {state middle last : σ} {item : Option α}
    {observations : List ω} (first : next state = .ok (item, middle))
    (rest : calls next observe count middle = .ok (observations, last)) :
    calls next observe (count + 1) state =
      .ok (observe item middle :: observations, last) := by
  rw [calls, first, Checked.ok_bind]
  dsimp only
  rw [rest, Checked.ok_bind]

/-- Calls that succeed begin with a call that succeeds. -/
theorem calls_uncons {count : Nat} {state last : σ} {observations : List ω}
    (called : calls next observe (count + 1) state = .ok (observations, last)) :
    ∃ item middle rest, next state = .ok (item, middle) ∧
      calls next observe count middle = .ok (rest, last) ∧
      observations = observe item middle :: rest := by
  obtain ⟨⟨item, middle⟩, first, later⟩ := Checked.bind_eq_ok.mp called
  obtain ⟨⟨rest, stop⟩, others, result⟩ := Checked.bind_eq_ok.mp later
  cases result
  exact ⟨item, middle, rest, first, others, rfl⟩

/-- A drain is a number of calls that hand back its items, and one more. -/
theorem Drains.calls {state last : σ} {items : List α}
    (drained : Drains next state items last) (observe : Option α → σ → ω) :
    ∃ observations middle,
      calls next observe items.length state = .ok (observations, middle) ∧
      next middle = .ok (none, last) := by
  induction drained with
  | finished called => exact ⟨[], _, rfl, called⟩
  | item called _ ih =>
      obtain ⟨observations, middle, rest, stop⟩ := ih
      exact ⟨_, middle, calls_cons called rest, stop⟩

/-- A drain has one outcome. -/
theorem Drains.deterministic {state last last' : σ} {items items' : List α}
    (drained : Drains next state items last)
    (drained' : Drains next state items' last') :
    items = items' ∧ last = last' := by
  induction drained generalizing items' with
  | finished called =>
      cases drained' with
      | finished called' =>
          rw [called] at called'
          cases called'
          exact ⟨rfl, rfl⟩
      | item called' _ =>
          rw [called] at called'
          cases called'
  | item called _ ih =>
      cases drained' with
      | finished called' =>
          rw [called] at called'
          cases called'
      | item called' rest' =>
          rw [called] at called'
          cases called'
          obtain ⟨rfl, same⟩ := ih rest'
          exact ⟨rfl, same⟩

/-! ## Refinement -/

/-- Every call from a state that satisfies the invariant succeeds, keeps the
invariant, and answers as the specification does. -/
def Refines (next : Iterator ε σ α) (spec : τ → Option α × τ)
    (invariant : σ → Prop) (abstraction : σ → τ) : Prop :=
  ∀ state, invariant state → ∃ item after, next state = .ok (item, after) ∧
    invariant after ∧ spec (abstraction state) = (item, abstraction after)

variable {spec : τ → Option α × τ} {invariant : σ → Prop} {abstraction : σ → τ}
  {observeSpec : Option α → τ → ω}

/-- Any number of calls is observed as it is on the specification. -/
theorem Refines.calls (refines : Refines next spec invariant abstraction)
    (observes : ∀ item state,
      observe item state = observeSpec item (abstraction state))
    (count : Nat) {state : σ} (holds : invariant state) :
    ∃ observations last,
      calls next observe count state = .ok (observations, last) ∧
      invariant last ∧
      calls (total spec : Iterator ε τ α) observeSpec count (abstraction state) =
        .ok (observations, abstraction last) := by
  induction count generalizing state with
  | zero => exact ⟨[], state, rfl, holds, rfl⟩
  | succ count ih =>
      obtain ⟨item, middle, called, kept, answered⟩ := refines state holds
      obtain ⟨observations, last, rest, stays, restSpec⟩ := ih kept
      refine ⟨_, last, calls_cons called rest, stays, ?_⟩
      rw [observes]
      apply calls_cons _ restSpec
      rw [total, answered]

/-- A drain of the specification is a drain of the iterator. -/
theorem Refines.drains (refines : Refines next spec invariant abstraction)
    {state : σ} (holds : invariant state) {items : List α} {specLast : τ}
    (drained : Drains (total spec : Iterator ε τ α) (abstraction state) items
      specLast) :
    ∃ last, Drains next state items last ∧ invariant last ∧
      abstraction last = specLast := by
  induction items generalizing state with
  | nil =>
      cases drained with
      | finished called =>
          obtain ⟨item, last, answers, kept, answered⟩ := refines state holds
          simp only [total, answered, Except.ok.injEq, Prod.mk.injEq] at called
          obtain ⟨rfl, reached⟩ := called
          exact ⟨last, .finished answers, kept, reached⟩
  | cons head items ih =>
      cases drained with
      | item called rest =>
          obtain ⟨item, middle, answers, kept, answered⟩ := refines state holds
          simp only [total, answered, Except.ok.injEq, Prod.mk.injEq] at called
          obtain ⟨rfl, rfl⟩ := called
          obtain ⟨last, drains, stays, reached⟩ := ih kept rest
          exact ⟨last, .item answers drains, stays, reached⟩

/-- A specification that answers without moving answers every call alike. -/
theorem calls_of_fixed {state : τ} {item : Option α}
    (fixed : spec state = (item, state)) (count : Nat) :
    calls (total spec : Iterator ε τ α) observeSpec count state =
      .ok (List.replicate count (observeSpec item state), state) := by
  induction count with
  | zero => rfl
  | succ count ih =>
      rw [List.replicate_succ]
      apply calls_cons _ ih
      rw [total, fixed]

theorem Refines.calls_of_fixed
    (refines : Refines next spec invariant abstraction)
    (observes : ∀ item state,
      observe item state = observeSpec item (abstraction state))
    {state : σ} (holds : invariant state) {item : Option α}
    (fixed : spec (abstraction state) = (item, abstraction state))
    (count : Nat) :
    ∃ last,
      Iterator.calls next observe count state =
        .ok (List.replicate count (observe item state), last) ∧
      invariant last ∧ abstraction last = abstraction state := by
  obtain ⟨observations, last, called, kept, specified⟩ :=
    refines.calls observes count holds
  rw [Iterator.calls_of_fixed fixed] at specified
  obtain ⟨rfl, same⟩ := Prod.mk.inj (Except.ok.inj specified)
  exact ⟨last, by rw [called, observes], kept, same.symm⟩

theorem Refines.trans {υ : Type} {spec' : υ → Option α × υ}
    {abstraction' : τ → υ} (refines : Refines next spec invariant abstraction)
    (further : ∀ state,
      spec' (abstraction' state) =
        ((spec state).1, abstraction' (spec state).2)) :
    Refines next spec' invariant (fun state => abstraction' (abstraction state)) := by
  intro state holds
  obtain ⟨item, after, called, kept, answered⟩ := refines state holds
  refine ⟨item, after, called, kept, ?_⟩
  rw [further, answered]

/-- Two refinements of one specification are observed alike for ever. -/
theorem Refines.agree {next' : Iterator ε σ' α} {observe' : Option α → σ' → ω}
    {invariant' : σ' → Prop} {abstraction' : σ' → τ}
    (refines : Refines next spec invariant abstraction)
    (refines' : Refines next' spec invariant' abstraction')
    (observes : ∀ item state,
      observe item state = observeSpec item (abstraction state))
    (observes' : ∀ item state,
      observe' item state = observeSpec item (abstraction' state))
    {state : σ} {state' : σ'} (holds : invariant state)
    (holds' : invariant' state')
    (same : abstraction state = abstraction' state') (count : Nat) :
    ∃ observations last last',
      Iterator.calls next observe count state = .ok (observations, last) ∧
      Iterator.calls next' observe' count state' = .ok (observations, last') := by
  obtain ⟨observations, last, called, _, specified⟩ :=
    refines.calls observes count holds
  obtain ⟨observations', last', called', _, specified'⟩ :=
    refines'.calls observes' count holds'
  rw [same, specified'] at specified
  obtain ⟨rfl, _⟩ := Prod.mk.inj (Except.ok.inj specified)
  exact ⟨_, last, last', called, called'⟩

end Iterator

end Foundation
