import TradingSim.Foundation.Iterator
import TradingSim.Foundation.Loop

/-!
# Consuming an iterator in a loop

A program that pulls from an iterator until there is no item, and does something
with every item on the way, is a fold over the items of the drain.  It ends exactly
when the iterator can be drained, whatever it does with the items.
-/

namespace Foundation

namespace Iterator

variable {ε σ α β : Type}

/-- One pass of a loop that pulls an item and hands it to `body`. -/
def consumePass (next : Iterator ε σ α) (body : β → α → β) :
    β × σ → Checked ε (Pass (β × σ) (β × σ)) := fun (value, state) => do
  let (item, state) ← next state
  match item with
  | some item => .ok (.again (body value item, state))
  | none => .ok (.done (value, state))

/-- Pull until there is no item; what became of the value, and the iterator. -/
def consume (next : Iterator ε σ α) (body : β → α → β) (fuel : Nat)
    (value : β) (state : σ) : Checked ε (β × σ) :=
  Loop.run (consumePass next body) fuel (value, state)

variable {next : Iterator ε σ α} {body : β → α → β} {state last : σ}
  {items : List α}

theorem consumePass_some {value : β} {item : α} {after : σ}
    (called : next state = .ok (some item, after)) :
    consumePass next body (value, state) =
      .ok (.again (body value item, after)) := by
  simp only [consumePass, called, Checked.ok_bind]

theorem consumePass_none {value : β} {after : σ}
    (called : next state = .ok (none, after)) :
    consumePass next body (value, state) = .ok (.done (value, after)) := by
  simp only [consumePass, called, Checked.ok_bind]

/-- Consuming an iterator folds over the items of its drain. -/
theorem Drains.consume (drained : Drains next state items last) {fuel : Nat}
    (enough : items.length < fuel) (value : β) :
    Iterator.consume next body fuel value state =
      .ok (items.foldl body value, last) := by
  induction drained generalizing fuel value with
  | finished called =>
      obtain ⟨fuel, rfl⟩ := Nat.exists_eq_succ_of_ne_zero (Nat.ne_of_gt enough)
      exact Loop.run_done (consumePass_none called)
  | item called _ ih =>
      obtain ⟨fuel, rfl⟩ := Nat.exists_eq_succ_of_ne_zero
        (Nat.ne_of_gt (Nat.zero_lt_of_lt enough))
      rw [Iterator.consume, Loop.run_again (consumePass_some called)]
      exact ih (Nat.lt_of_succ_lt_succ enough) _

theorem Drains.count (drained : Drains next state items last) {fuel : Nat}
    (enough : items.length < fuel) :
    Iterator.consume next (fun count _ => count + 1) fuel 0 state =
      .ok (items.length, last) := by
  have counted : ∀ (items : List α) (count : Nat),
      items.foldl (fun count _ => count + 1) count = count + items.length := by
    intro items
    induction items with
    | nil => exact fun _ => rfl
    | cons item items ih =>
        intro count
        rw [List.foldl_cons, ih, List.length_cons, Nat.add_right_comm,
          Nat.add_assoc]
  rw [drained.consume enough, counted, Nat.zero_add]

end Iterator

end Foundation
