import Mathlib.Tactic.Common

/-!
# Computations whose accesses are checked

A program that indexes a buffer is embedded as a computation that may fail in
three ways: an access steps outside its view, the program throws, or a loop is
cut off before it ends.  The first is undefined behaviour of the original, so a
theorem that it never happens is a memory-safety theorem; the third is not a
behaviour of the original at all, and is only reported by loops that are run
with a budget (see `Foundation.Loop`).
-/

namespace Foundation

/-- The precondition of a view, container or system operation that was broken. -/
inductive Fault where
  | index
  | subspan
  | first
  | difference
  | erase
  | copy
  | handle
  | mapping
  deriving DecidableEq, Repr

/-- Why a computation has no result. -/
inductive Failure (ε : Type) where
  | fault (kind : Fault)
  | thrown (exception : ε)
  | outOfFuel
  deriving DecidableEq, Repr

/-- Computations that may fault, throw an `ε`, or run out of fuel. -/
abbrev Checked (ε : Type) : Type → Type := Except (Failure ε)

namespace Checked

variable {ε α β : Type}

@[simp] theorem ok_bind (value : α) (next : α → Checked ε β) :
    ((Except.ok value : Checked ε α) >>= next) = next value := rfl

@[simp] theorem error_bind (failure : Failure ε) (next : α → Checked ε β) :
    ((Except.error failure : Checked ε α) >>= next) = .error failure := rfl

theorem bind_eq_ok {first : Checked ε α} {next : α → Checked ε β} {result : β} :
    (first >>= next) = .ok result ↔
      ∃ value, first = .ok value ∧ next value = .ok result := by
  cases first with
  | error failure => simp
  | ok value => simp

theorem bind_eq_error {first : Checked ε α} {next : α → Checked ε β}
    {failure : Failure ε} :
    (first >>= next) = .error failure ↔
      first = .error failure ∨
        ∃ value, first = .ok value ∧ next value = .error failure := by
  cases first with
  | error failure => simp
  | ok value => simp

/-- A computation seen from one that may throw more. -/
def mapThrown {ε' : Type} (wrap : ε → ε') : Checked ε α → Checked ε' α
  | .ok value => .ok value
  | .error (.fault kind) => .error (.fault kind)
  | .error (.thrown exception) => .error (.thrown (wrap exception))
  | .error .outOfFuel => .error .outOfFuel

@[simp] theorem mapThrown_ok {ε' : Type} (wrap : ε → ε') (value : α) :
    mapThrown wrap (.ok value : Checked ε α) = .ok value := rfl

@[simp] theorem mapThrown_thrown {ε' : Type} (wrap : ε → ε') (exception : ε) :
    mapThrown wrap (.error (.thrown exception) : Checked ε α) =
      .error (.thrown (wrap exception)) := rfl

end Checked

/-! ## Views

A view is the list of the elements it covers.  Each operation checks what the
original takes for granted. -/

namespace Span

variable {ε α : Type}

/-- Element `index` of a view. -/
def get (view : List α) (index : Nat) : Checked ε α :=
  match view[index]? with
  | some value => .ok value
  | none => .error (.fault .index)

/-- The part of a view from `offset` on. -/
def subspan (view : List α) (offset : Nat) : Checked ε (List α) :=
  if offset ≤ view.length then .ok (view.drop offset)
  else .error (.fault .subspan)

/-- The first `count` elements of a view. -/
def first (view : List α) (count : Nat) : Checked ε (List α) :=
  if count ≤ view.length then .ok (view.take count)
  else .error (.fault .first)

/-- Difference of two unsigned sizes, which must not wrap below zero. -/
def difference (left right : Nat) : Checked ε Nat :=
  if right ≤ left then .ok (left - right)
  else .error (.fault .difference)

/-- A container without its first `count` elements. -/
def erasePrefix (buffer : List α) (count : Nat) : Checked ε (List α) :=
  if count ≤ buffer.length then .ok (buffer.drop count)
  else .error (.fault .erase)

/-- The `count` elements a copy takes from the front of its source. -/
def copy (source : List α) (count : Nat) : Checked ε (List α) :=
  if count ≤ source.length then .ok (source.take count)
  else .error (.fault .copy)

@[simp] theorem get_of_lt {view : List α} {index : Nat}
    (inBounds : index < view.length) :
    (get view index : Checked ε α) = .ok view[index] := by
  simp [get, inBounds]

@[simp] theorem subspan_of_le {view : List α} {offset : Nat}
    (inBounds : offset ≤ view.length) :
    (subspan view offset : Checked ε (List α)) = .ok (view.drop offset) := by
  simp [subspan, inBounds]

@[simp] theorem subspan_of_gt {view : List α} {offset : Nat}
    (outside : view.length < offset) :
    (subspan view offset : Checked ε (List α)) = .error (.fault .subspan) :=
  if_neg (Nat.not_le.mpr outside)

@[simp] theorem first_of_le {view : List α} {count : Nat}
    (inBounds : count ≤ view.length) :
    (first view count : Checked ε (List α)) = .ok (view.take count) := by
  simp [first, inBounds]

@[simp] theorem difference_of_le {left right : Nat} (le : right ≤ left) :
    (difference left right : Checked ε Nat) = .ok (left - right) := by
  simp [difference, le]

@[simp] theorem difference_of_lt {left right : Nat} (lt : left < right) :
    (difference left right : Checked ε Nat) = .error (.fault .difference) :=
  if_neg (Nat.not_le.mpr lt)

@[simp] theorem erasePrefix_of_le {buffer : List α} {count : Nat}
    (inBounds : count ≤ buffer.length) :
    (erasePrefix buffer count : Checked ε (List α)) =
      .ok (buffer.drop count) := by
  simp [erasePrefix, inBounds]

@[simp] theorem erasePrefix_of_gt {buffer : List α} {count : Nat}
    (outside : buffer.length < count) :
    (erasePrefix buffer count : Checked ε (List α)) = .error (.fault .erase) :=
  if_neg (Nat.not_le.mpr outside)

@[simp] theorem copy_of_le {source : List α} {count : Nat}
    (inBounds : count ≤ source.length) :
    (copy source count : Checked ε (List α)) = .ok (source.take count) := by
  simp [copy, inBounds]

end Span

end Foundation
