import TradingSim.Foundation.Checked

/-!
# Loops that end by returning

A loop is given by its body: one pass over a state either asks for another pass
or returns.  Running a loop takes a budget of passes, so that a loop that may
never end is still a definition; a loop whose passes all lower a variant ends
within any budget above that variant, and its result then does not depend on
the budget.
-/

namespace Foundation

/-- What one pass over a loop body comes to. -/
inductive Pass (σ α : Type) where
  | again (state : σ)
  | done (result : α)
  deriving DecidableEq, Repr

namespace Loop

variable {ε σ α : Type}

/-- Run a loop for at most `fuel` passes. -/
def run (body : σ → Checked ε (Pass σ α)) : Nat → σ → Checked ε α
  | 0, _ => .error .outOfFuel
  | fuel + 1, state =>
      body state >>= fun
        | .again next => run body fuel next
        | .done result => .ok result

variable {body : σ → Checked ε (Pass σ α)}

theorem run_again {fuel : Nat} {state next : σ}
    (pass : body state = .ok (.again next)) :
    run body (fuel + 1) state = run body fuel next := by
  simp [run, pass]

theorem run_done {fuel : Nat} {state : σ} {result : α}
    (pass : body state = .ok (.done result)) :
    run body (fuel + 1) state = .ok result := by
  simp [run, pass]

theorem run_error {fuel : Nat} {state : σ} {failure : Failure ε}
    (pass : body state = .error failure) :
    run body (fuel + 1) state = .error failure := by
  simp [run, pass]

/-- Total correctness.  If every pass from an invariant state either ends with
an outcome the postcondition allows, or keeps the invariant, lowers the variant
and hands the postcondition on, then a budget above the variant reaches such an
outcome. -/
theorem run_total (invariant : σ → Prop) (variant : σ → Nat)
    (post : σ → Checked ε α → Prop)
    (failed : ∀ {state failure}, invariant state →
      body state = .error failure → post state (.error failure))
    (returned : ∀ {state result}, invariant state →
      body state = .ok (.done result) → post state (.ok result))
    (repeated : ∀ {state next}, invariant state →
      body state = .ok (.again next) →
        invariant next ∧ variant next < variant state ∧
          ∀ outcome, post next outcome → post state outcome)
    {fuel : Nat} {state : σ} (holds : invariant state)
    (enough : variant state < fuel) :
    post state (run body fuel state) := by
  induction fuel generalizing state with
  | zero => omega
  | succ fuel ih =>
      cases pass : body state with
      | error failure =>
          rw [run_error pass]
          exact failed holds pass
      | ok outcome =>
          cases outcome with
          | done result =>
              rw [run_done pass]
              exact returned holds pass
          | again next =>
              rw [run_again pass]
              obtain ⟨kept, lower, handOn⟩ := repeated holds pass
              exact handOn _ (ih kept (by omega))

theorem run_returns (invariant : σ → Prop) (variant : σ → Nat)
    (post : σ → α → Prop)
    (passes : ∀ {state}, invariant state → ∃ outcome, body state = .ok outcome)
    (returned : ∀ {state result}, invariant state →
      body state = .ok (.done result) → post state result)
    (repeated : ∀ {state next}, invariant state →
      body state = .ok (.again next) →
        invariant next ∧ variant next < variant state ∧
          ∀ result, post next result → post state result)
    {fuel : Nat} {state : σ} (holds : invariant state)
    (enough : variant state < fuel) :
    ∃ result, run body fuel state = .ok result ∧ post state result := by
  apply run_total invariant variant
    (fun state outcome => ∃ result, outcome = .ok result ∧ post state result)
    _ _ _ holds enough
  · intro state failure holds fails
    obtain ⟨outcome, passed⟩ := passes holds
    rw [passed] at fails
    cases fails
  · intro state result holds done
    exact ⟨result, rfl, returned holds done⟩
  · intro state next holds again
    obtain ⟨kept, lower, handOn⟩ := repeated holds again
    refine ⟨kept, lower, ?_⟩
    rintro outcome ⟨result, rfl, post⟩
    exact ⟨result, rfl, handOn result post⟩

/-- A loop each of whose passes either returns one and the same result, or keeps
the invariant and lowers the variant, returns that result. -/
theorem run_settles (invariant : σ → Prop) (variant : σ → Nat) {result : α}
    (passes : ∀ state, invariant state → body state = .ok (.done result) ∨
      ∃ next, body state = .ok (.again next) ∧ invariant next ∧
        variant next < variant state)
    {fuel : Nat} {state : σ} (holds : invariant state)
    (enough : variant state < fuel) : run body fuel state = .ok result := by
  induction fuel generalizing state with
  | zero => omega
  | succ fuel ih =>
      rcases passes state holds with done | ⟨next, again, kept, lower⟩
      · exact run_done done
      · rw [run_again again]
        exact ih kept (by omega)

/-- Partial correctness: what every returning run establishes, whatever the
budget. -/
theorem run_returned (invariant : σ → Prop) (post : σ → α → Prop)
    (returned : ∀ {state result}, invariant state →
      body state = .ok (.done result) → post state result)
    (repeated : ∀ {state next}, invariant state →
      body state = .ok (.again next) →
        invariant next ∧ ∀ result, post next result → post state result)
    {fuel : Nat} {state : σ} {result : α} (holds : invariant state)
    (run_eq : run body fuel state = .ok result) : post state result := by
  induction fuel generalizing state with
  | zero => simp [run] at run_eq
  | succ fuel ih =>
      cases pass : body state with
      | error failure => simp [run_error pass] at run_eq
      | ok outcome =>
          cases outcome with
          | done value =>
              rw [run_done pass] at run_eq
              cases run_eq
              exact returned holds pass
          | again next =>
              rw [run_again pass] at run_eq
              obtain ⟨kept, handOn⟩ := repeated holds pass
              exact handOn _ (ih kept run_eq)

/-- A failure of a loop is a failure of one of its passes, or the budget's end. -/
theorem run_failed (invariant : σ → Prop) (allowed : Failure ε → Prop)
    (fuelEnd : allowed .outOfFuel)
    (failed : ∀ {state failure}, invariant state →
      body state = .error failure → allowed failure)
    (repeated : ∀ {state next}, invariant state →
      body state = .ok (.again next) → invariant next)
    {fuel : Nat} {state : σ} {failure : Failure ε} (holds : invariant state)
    (run_eq : run body fuel state = .error failure) : allowed failure := by
  induction fuel generalizing state with
  | zero =>
      simp only [run, Except.error.injEq] at run_eq
      exact run_eq ▸ fuelEnd
  | succ fuel ih =>
      cases pass : body state with
      | error reason =>
          rw [run_error pass] at run_eq
          cases run_eq
          exact failed holds pass
      | ok outcome =>
          cases outcome with
          | done value => simp [run_done pass] at run_eq
          | again next =>
              rw [run_again pass] at run_eq
              exact ih (repeated holds pass) run_eq

/-- More budget never changes an outcome that did not come from its end. -/
theorem run_mono {fuel more : Nat} {state : σ} (le : fuel ≤ more)
    (ended : run body fuel state ≠ .error .outOfFuel) :
    run body more state = run body fuel state := by
  induction fuel generalizing more state with
  | zero => exact (ended rfl).elim
  | succ fuel ih =>
      obtain ⟨more, rfl⟩ : ∃ rest, more = rest + 1 := ⟨more - 1, by omega⟩
      cases pass : body state with
      | error failure => rw [run_error pass, run_error pass]
      | ok outcome =>
          cases outcome with
          | done result => rw [run_done pass, run_done pass]
          | again next =>
              rw [run_again pass] at ended ⊢
              rw [run_again pass]
              exact ih (by omega) ended

theorem run_ok_mono {fuel more : Nat} {state : σ} {result : α} (le : fuel ≤ more)
    (returned : run body fuel state = .ok result) :
    run body more state = .ok result := by
  rw [run_mono le (by simp [returned]), returned]

/-- A loop that can always go round again never ends. -/
theorem run_diverges (invariant : σ → Prop)
    (repeated : ∀ {state}, invariant state →
      ∃ next, body state = .ok (.again next) ∧ invariant next)
    {state : σ} (holds : invariant state) (fuel : Nat) :
    run body fuel state = .error .outOfFuel := by
  induction fuel generalizing state with
  | zero => rfl
  | succ fuel ih =>
      obtain ⟨next, pass, kept⟩ := repeated holds
      rw [run_again pass]
      exact ih kept

/-! ## Counted loops -/

/-- Run a body a number of times, telling it the number of the pass. -/
def times (body : Nat → σ → Checked ε σ) : Nat → σ → Checked ε σ
  | 0, state => .ok state
  | count + 1, state => times body count state >>= body count

theorem times_settled {pass : Nat → σ → Checked ε σ} {start settled : σ}
    (first : ∀ number, pass number start = .ok settled)
    (again : ∀ number, pass number settled = .ok settled) {count : Nat}
    (some : 0 < count) : times pass count start = .ok settled := by
  induction count with
  | zero => omega
  | succ count ih =>
      rw [times]
      cases count with
      | zero => exact first 0
      | succ count =>
          rw [ih (Nat.succ_pos count), Checked.ok_bind]
          exact again _

theorem times_failed {pass : Nat → σ → Checked ε σ} {start : σ}
    {failure : Failure ε} (first : pass 0 start = .error failure) {count : Nat}
    (some : 0 < count) : times pass count start = .error failure := by
  induction count with
  | zero => omega
  | succ count ih =>
      rw [times]
      cases count with
      | zero => exact first
      | succ count => rw [ih (Nat.succ_pos count), Checked.error_bind]

/-! ## A method that is a loop

An object whose method is a loop passes through the states between its passes,
within one call and from one call to the next. -/

/-- The states in which a pass begins, over any number of calls. -/
inductive Reached (body : σ → Checked ε (Pass σ (α × σ))) (start : σ → Prop) :
    σ → Prop where
  | start {state : σ} (holds : start state) : Reached body start state
  | again {state next : σ} (reached : Reached body start state)
      (pass : body state = .ok (.again next)) : Reached body start next
  | done {state next : σ} {result : α} (reached : Reached body start state)
      (pass : body state = .ok (.done (result, next))) :
      Reached body start next

/-- What holds at the start and is kept by every pass holds of every state
reached. -/
theorem Reached.invariant {method : σ → Checked ε (Pass σ (α × σ))}
    {start invariant : σ → Prop}
    (initially : ∀ state, start state → invariant state)
    (again : ∀ state next, invariant state →
      method state = .ok (.again next) → invariant next)
    (done : ∀ state next result, invariant state →
      method state = .ok (.done (result, next)) → invariant next)
    {state : σ} (reached : Reached method start state) : invariant state := by
  induction reached with
  | start holds => exact initially _ holds
  | again _ pass ih => exact again _ _ ih pass
  | done _ pass ih => exact done _ _ _ ih pass

end Loop

end Foundation
