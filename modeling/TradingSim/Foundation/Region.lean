import Mathlib.Tactic.Common

/-!
# Regions of a memory

A memory holds a value at every address.  A region is read as the list of its
values; writing a list changes the region it covers and nothing apart from it.
-/

namespace Foundation

namespace Region

universe u

variable {β : Type u}

/-- The `size` values from an address on. -/
def read (memory : Nat → β) (start size : Nat) : List β :=
  (List.range size).map fun offset => memory (start + offset)

/-- Put a list of values at an address and behind it. -/
def write (memory : Nat → β) (start : Nat) (contents : List β) : Nat → β :=
  fun address =>
    if start ≤ address then
      (contents[address - start]?).getD (memory address)
    else memory address

/-- Two regions do not overlap. -/
def Apart (start size other length : Nat) : Prop :=
  start + size ≤ other ∨ other + length ≤ start

variable {memory : Nat → β} {start size other length : Nat}

@[simp] theorem length_read (memory : Nat → β) (start size : Nat) :
    (read memory start size).length = size := by
  simp [read]

theorem read_congr {memory' : Nat → β}
    (same : ∀ offset, offset < size →
      memory' (start + offset) = memory (start + offset)) :
    read memory' start size = read memory start size := by
  apply List.map_congr_left
  intro offset member
  exact same offset (List.mem_range.mp member)

theorem read_write (memory : Nat → β) (start : Nat) (contents : List β) :
    read (write memory start contents) start contents.length = contents := by
  apply List.ext_getElem (length_read _ _ _)
  intro index inRead inContents
  simp [read, write, inContents]

theorem read_write_apart {contents : List β}
    (apart : Apart start contents.length other length) :
    read (write memory start contents) other length =
      read memory other length := by
  apply read_congr
  intro offset inside
  unfold write
  split
  next behind =>
    have outside : contents.length ≤ other + offset - start := by
      rcases apart with before | after
      · omega
      · omega
    rw [List.getElem?_eq_none outside, Option.getD_none]
  next => rfl

theorem Apart.symm (apart : Apart start size other length) :
    Apart other length start size :=
  Or.symm apart

end Region

end Foundation
