import Mathlib.Data.List.Forall2
import TradingSim.Foundation.Checked

/-!
# Services

A service keeps a state and answers requests one after the other.  Some requests
are permitted in some states only, which is for the client to see to.  A service
simulates another when, from related states, every permitted request is answered
by both, alike, and leaves them in related states; every permitted run is then a
run of the other service with the same replies.
-/

namespace Foundation

/-- How a service answers a request: with a reply, in its next state. -/
abbrev Service (ε σ ω ρ : Type) := σ → ω → Checked ε (ρ × σ)

namespace Service

variable {ε ε' σ τ ω ρ : Type} {service : Service ε σ ω ρ}

/-- Answer requests one after the other. -/
def run (service : Service ε σ ω ρ) : List ω → σ → Checked ε (List ρ × σ)
  | [], state => .ok ([], state)
  | request :: rest, state => do
      let (reply, middle) ← service state request
      let (replies, last) ← run service rest middle
      .ok (reply :: replies, last)

theorem run_cons {request : ω} {rest : List ω} {state middle last : σ}
    {reply : ρ} {replies : List ρ}
    (answered : service state request = .ok (reply, middle))
    (later : run service rest middle = .ok (replies, last)) :
    run service (request :: rest) state = .ok (reply :: replies, last) := by
  rw [run, answered, Checked.ok_bind]
  dsimp only
  rw [later, Checked.ok_bind]

/-- A run that succeeds begins with a request that is answered. -/
theorem run_uncons {request : ω} {rest : List ω} {state last : σ}
    {replies : List ρ}
    (ran : run service (request :: rest) state = .ok (replies, last)) :
    ∃ reply middle others, service state request = .ok (reply, middle) ∧
      run service rest middle = .ok (others, last) ∧
      replies = reply :: others := by
  obtain ⟨⟨reply, middle⟩, answered, later⟩ := Checked.bind_eq_ok.mp ran
  obtain ⟨⟨others, stop⟩, ranLater, result⟩ := Checked.bind_eq_ok.mp later
  cases result
  exact ⟨reply, middle, others, answered, ranLater, rfl⟩

/-- The runs of a client that makes permitted requests only. -/
inductive Runs (service : Service ε σ ω ρ) (permits : σ → ω → Prop) :
    σ → List ω → List ρ → σ → Prop where
  | nil (state : σ) : Runs service permits state [] [] state
  | cons {state middle last : σ} {request : ω} {rest : List ω} {reply : ρ}
      {replies : List ρ} (permitted : permits state request)
      (answered : service state request = .ok (reply, middle))
      (later : Runs service permits middle rest replies last) :
      Runs service permits state (request :: rest) (reply :: replies) last

variable {permits : σ → ω → Prop} {state last : σ} {requests : List ω}
  {replies : List ρ}

/-! ## Simulation -/

/-- Related states answer every permitted request alike, and stay related. -/
def Simulates (service : Service ε σ ω ρ) (spec : Service ε' τ ω ρ)
    (permits : σ → ω → Prop) (related : σ → τ → Prop) : Prop :=
  ∀ state abstract request, related state abstract → permits state request →
    ∃ reply next abstractNext, service state request = .ok (reply, next) ∧
      spec abstract request = .ok (reply, abstractNext) ∧
      related next abstractNext

variable {spec : Service ε' τ ω ρ} {related : σ → τ → Prop}

/-- A request that is answered from related states is answered alike. -/
theorem Simulates.answered (simulates : Simulates service spec permits related)
    {abstract : τ} {request : ω} {reply : ρ} {next : σ}
    (relates : related state abstract) (permitted : permits state request)
    (answered : service state request = .ok (reply, next)) :
    ∃ abstractNext, spec abstract request = .ok (reply, abstractNext) ∧
      related next abstractNext := by
  obtain ⟨given, after, abstractNext, answers, specified, kept⟩ :=
    simulates state abstract request relates permitted
  rw [answers] at answered
  cases answered
  exact ⟨abstractNext, specified, kept⟩

/-- Permitted runs get the replies of the specification. -/
theorem Simulates.runs (simulates : Simulates service spec permits related)
    {abstract : τ} (relates : related state abstract)
    (ran : Runs service permits state requests replies last) :
    ∃ abstractLast, run spec requests abstract = .ok (replies, abstractLast) ∧
      related last abstractLast := by
  induction ran generalizing abstract with
  | nil state => exact ⟨abstract, rfl, relates⟩
  | cons permitted answered _ ih =>
      obtain ⟨middle, specified, kept⟩ :=
        simulates.answered relates permitted answered
      obtain ⟨abstractLast, later, stays⟩ := ih kept
      exact ⟨abstractLast, run_cons specified later, stays⟩

/-! ## Two services side by side -/

/-- From related states, matching requests get matching replies and leave related
states. -/
def Agrees {ω' ρ' : Type} (left : Service ε σ ω ρ) (right : Service ε' τ ω' ρ')
    (related : σ → τ → Prop) (requests : ω → ω' → Prop)
    (replies : ρ → ρ' → Prop) : Prop :=
  ∀ ⦃state state' request request' reply reply' next next'⦄,
    related state state' → requests request request' →
    left state request = .ok (reply, next) →
    right state' request' = .ok (reply', next') →
      replies reply reply' ∧ related next next'

theorem Agrees.run {ω' ρ' : Type} {left : Service ε σ ω ρ}
    {right : Service ε' τ ω' ρ'} {related : σ → τ → Prop}
    {matching : ω → ω' → Prop} {alike : ρ → ρ' → Prop}
    (agrees : Agrees left right related matching alike)
    {requests : List ω} {requests' : List ω'} {state last : σ}
    {state' last' : τ} {replies : List ρ} {replies' : List ρ'}
    (relates : related state state')
    (matched : List.Forall₂ matching requests requests')
    (ran : left.run requests state = .ok (replies, last))
    (ran' : right.run requests' state' = .ok (replies', last')) :
    List.Forall₂ alike replies replies' ∧ related last last' := by
  induction matched generalizing state state' replies replies' with
  | nil =>
      cases ran
      cases ran'
      exact ⟨.nil, relates⟩
  | cons first _ ih =>
      obtain ⟨reply, middle, others, answered, later, rfl⟩ := run_uncons ran
      obtain ⟨reply', middle', others', answered', later', rfl⟩ :=
        run_uncons ran'
      obtain ⟨same, kept⟩ := agrees relates first answered answered'
      obtain ⟨rest, stays⟩ := ih kept later later'
      exact ⟨.cons same rest, stays⟩

end Service

end Foundation
