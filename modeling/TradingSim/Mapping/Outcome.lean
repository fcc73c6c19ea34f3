import TradingSim.Mapping.MemoryMappedFile

/-!
# What a constructor comes to

The constructor of a mapped file asks the system a few questions and stops at the
first bad answer.  What it comes to is read off the answers alone, and the two
platforms differ only in the questions they ask.
-/

namespace TradingSim

open Foundation

/-- An exception, an empty file, or a mapping. -/
inductive Outcome where
  | refused (error : MapError)
  | empty
  | mapped (address : Address) (size : Nat)
  deriving DecidableEq, Repr

namespace Answers

/-- The answers in the order in which the POSIX constructor needs them. -/
def outcomePosix (answers : Answers) : Outcome :=
  match answers.file, answers.size, answers.view with
  | none, _, _ => .refused .cannotOpen
  | some _, none, _ => .refused .cannotStat
  | some _, some 0, _ => .empty
  | some _, some (_ + 1), none => .refused .cannotMmap
  | some _, some (size + 1), some address => .mapped address (size + 1)

/-- The answers in the order in which the Windows constructor needs them. -/
def outcomeWindows (answers : Answers) : Outcome :=
  match answers.file, answers.size, answers.mapping, answers.view with
  | none, _, _, _ => .refused .cannotOpen
  | some _, none, _, _ => .refused .cannotSize
  | some _, some 0, _, _ => .empty
  | some _, some (_ + 1), none, _ => .refused .cannotMap
  | some _, some (_ + 1), some _, none => .refused .cannotView
  | some _, some (size + 1), some _, some address => .mapped address (size + 1)

def outcome (answers : Answers) : Platform → Outcome
  | .posix => answers.outcomePosix
  | .windows => answers.outcomeWindows

variable {answers : Answers} {platform : Platform}

theorem size_of_empty (empty : answers.outcome platform = .empty) :
    answers.size = some 0 := by
  cases platform with
  | posix =>
      rw [outcome, outcomePosix] at empty
      split at empty
      next => cases empty
      next => cases empty
      next _ none => exact none
      next => cases empty
      next => cases empty
  | windows =>
      rw [outcome, outcomeWindows] at empty
      split at empty
      next => cases empty
      next => cases empty
      next _ none => exact none
      next => cases empty
      next => cases empty
      next => cases empty

theorem of_mapped {address : Address} {size : Nat}
    (mapped : answers.outcome platform = .mapped address size) :
    answers.size = some size ∧ answers.view = some address ∧ size ≠ 0 := by
  cases platform with
  | posix =>
      rw [outcome, outcomePosix] at mapped
      split at mapped
      next => cases mapped
      next => cases mapped
      next => cases mapped
      next => cases mapped
      next _ long view =>
        cases mapped
        exact ⟨long, view, Nat.succ_ne_zero _⟩
  | windows =>
      rw [outcome, outcomeWindows] at mapped
      split at mapped
      next => cases mapped
      next => cases mapped
      next => cases mapped
      next => cases mapped
      next => cases mapped
      next _ long _ view =>
        cases mapped
        exact ⟨long, view, Nat.succ_ne_zero _⟩

end Answers

/-- A constructor that came to an outcome. -/
def Outcome.arrive (os : Os) :
    Outcome → MemoryMappedFile.Mapped (MemoryMappedFile × Os)
  | .refused error => MemoryMappedFile.throw error os
  | .empty => .ok ({}, os)
  | .mapped address size =>
      .ok ({ data := some address, size }, os.mapped address size)

namespace MemoryMappedFile

theorem constructPosix_eq (answers : Answers) (os : Os) :
    constructPosix answers os = answers.outcomePosix.arrive os := by
  obtain ⟨file, size, mapping, view⟩ := answers
  cases file with
  | none => rfl
  | some fd =>
      simp only [constructPosix, Os.openFile, Os.acquire_some, Os.fileSize,
        Os.useHandle_cons, Checked.ok_bind]
      cases size with
      | none =>
          simp only [Os.close_cons, Checked.ok_bind]
          rfl
      | some size =>
          dsimp only
          cases size with
          | zero =>
              rw [if_pos rfl, Os.close_cons]
              rfl
          | succ size =>
              rw [if_neg (Nat.succ_ne_zero size)]
              cases view with
              | none =>
                  simp only [Os.map, Os.useHandle_cons, Os.close_cons,
                    Checked.ok_bind]
                  rfl
              | some address =>
                  simp only [Os.map, Os.useHandle_cons, Os.close_cons,
                    Checked.ok_bind]
                  rfl

theorem constructWindows_eq (answers : Answers) (os : Os) :
    constructWindows answers os = answers.outcomeWindows.arrive os := by
  obtain ⟨file, size, mapping, view⟩ := answers
  cases file with
  | none => rfl
  | some file =>
      simp only [constructWindows, Os.openFile, Os.acquire_some, Os.fileSize,
        Os.useHandle_cons, Checked.ok_bind]
      cases size with
      | none =>
          simp only [Os.close_cons, Checked.ok_bind]
          rfl
      | some size =>
          dsimp only
          cases size with
          | zero =>
              rw [if_pos rfl, Os.close_cons]
              rfl
          | succ size =>
              rw [if_neg (Nat.succ_ne_zero size)]
              cases mapping with
              | none =>
                  simp only [Os.createFileMapping, Os.useHandle_cons,
                    Os.acquire_none, Os.close_cons, Checked.ok_bind]
                  rfl
              | some mapping =>
                  simp only [Os.createFileMapping, Os.useHandle_cons,
                    Os.acquire_some, Checked.ok_bind]
                  cases view with
                  | none =>
                      simp only [Os.map, Os.useHandle_cons, Os.close_cons,
                        Checked.ok_bind]
                      rfl
                  | some address =>
                      simp only [Os.map, Os.useHandle_cons, Os.close_cons,
                        Checked.ok_bind]
                      rfl

/-- On either platform the constructor does what the answers come to, and whatever
handles it opened are closed again. -/
theorem construct_eq (platform : Platform) (answers : Answers) (os : Os) :
    construct platform answers os = (answers.outcome platform).arrive os := by
  cases platform with
  | posix => exact constructPosix_eq answers os
  | windows => exact constructWindows_eq answers os

end MemoryMappedFile

/-- Taking down the mapping that was made last leaves the system as it was. -/
theorem Os.unmapped_mapped {os : Os} {address : Address}
    (fresh : os.mappings address = none) (size : Nat) :
    (os.mapped address size).unmapped address = os := by
  rw [unmapped, mapped]
  congr 1
  funext other
  by_cases same : other = address
  · subst other
    simp [fresh]
  · simp [same]

end TradingSim
