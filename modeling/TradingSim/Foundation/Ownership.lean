import Mathlib.Data.Set.Insert
import Mathlib.Logic.Function.Basic
import Mathlib.Tactic.Common

/-!
# Exclusive ownership

A set of live resources is owned exclusively when each of them is held by exactly
one owner and no owner holds anything else.  Acquiring a fresh resource,
releasing a held one and handing one over to an idle owner keep it that way, and
when nobody holds anything, nothing is live.
-/

namespace Foundation

universe u v

variable {ι : Type u} {ρ : Type v}

/-- Every live resource has one owner, and only live resources are held. -/
structure Exclusive (live : Set ρ) (holds : ι → Option ρ) : Prop where
  held : ∀ {owner resource}, holds owner = some resource → resource ∈ live
  owned : ∀ {resource}, resource ∈ live → ∃ owner, holds owner = some resource
  sole : ∀ {left right resource}, holds left = some resource →
    holds right = some resource → left = right

namespace Exclusive

variable {live : Set ρ} {holds : ι → Option ρ}

theorem empty : Exclusive (∅ : Set ρ) (fun _ : ι => none) where
  held := by simp
  owned := by simp
  sole := by simp

/-- A live resource has exactly one owner. -/
theorem existsUnique (exclusive : Exclusive live holds) {resource : ρ}
    (member : resource ∈ live) : ∃! owner, holds owner = some resource := by
  obtain ⟨owner, holding⟩ := exclusive.owned member
  exact ⟨owner, holding, fun other also => exclusive.sole also holding⟩

theorem eq_empty (exclusive : Exclusive live holds)
    (idle : ∀ owner, holds owner = none) : live = ∅ := by
  apply Set.eq_empty_of_forall_notMem
  intro resource member
  obtain ⟨owner, holding⟩ := exclusive.owned member
  rw [idle owner] at holding
  cases holding

variable [DecidableEq ι]

/-- An idle owner acquires a fresh resource. -/
theorem acquire (exclusive : Exclusive live holds) {owner : ι} {resource : ρ}
    (idle : holds owner = none) (fresh : resource ∉ live) :
    Exclusive (insert resource live)
      (Function.update holds owner (some resource)) where
  held {other held} holding := by
    rw [Function.update_apply] at holding
    split at holding
    next =>
      cases holding
      exact Set.mem_insert _ _
    next => exact Set.mem_insert_of_mem _ (exclusive.held holding)
  owned {owned} member := by
    rcases member with rfl | old
    · exact ⟨owner, Function.update_self ..⟩
    · obtain ⟨other, holding⟩ := exclusive.owned old
      refine ⟨other, ?_⟩
      have differ : other ≠ owner := by
        rintro rfl
        rw [idle] at holding
        cases holding
      rw [Function.update_of_ne differ, holding]
  sole {left right held} leftHolds rightHolds := by
    rw [Function.update_apply] at leftHolds rightHolds
    split at leftHolds
    next leftOwner =>
      cases leftHolds
      split at rightHolds
      next rightOwner => rw [leftOwner, rightOwner]
      next => exact (fresh (exclusive.held rightHolds)).elim
    next =>
      split at rightHolds
      next =>
        cases rightHolds
        exact (fresh (exclusive.held leftHolds)).elim
      next => exact exclusive.sole leftHolds rightHolds

/-- An owner releases what it holds. -/
theorem release (exclusive : Exclusive live holds) {owner : ι} {resource : ρ}
    (holding : holds owner = some resource) :
    Exclusive (live \ {resource}) (Function.update holds owner none) where
  held {other held} still := by
    rw [Function.update_apply] at still
    split at still
    next => cases still
    next differ =>
      refine ⟨exclusive.held still, ?_⟩
      rintro rfl
      exact differ (exclusive.sole still holding)
  owned {owned} member := by
    obtain ⟨other, still⟩ := exclusive.owned member.1
    refine ⟨other, ?_⟩
    have differ : other ≠ owner := by
      rintro rfl
      rw [holding] at still
      cases still
      exact member.2 rfl
    rw [Function.update_of_ne differ, still]
  sole {left right held} leftHolds rightHolds := by
    rw [Function.update_apply] at leftHolds rightHolds
    split at leftHolds
    next => cases leftHolds
    next =>
      split at rightHolds
      next => cases rightHolds
      next => exact exclusive.sole leftHolds rightHolds

/-- An owner hands what it holds, if anything, over to an idle one. -/
theorem transfer (exclusive : Exclusive live holds) {source target : ι}
    (idle : holds target = none) (differ : source ≠ target) :
    Exclusive live (Function.update (Function.update holds target (holds source))
      source none) where
  held {other held} holding := by
    rw [Function.update_apply] at holding
    split at holding
    next => cases holding
    next =>
      rw [Function.update_apply] at holding
      split at holding
      next => exact exclusive.held holding
      next => exact exclusive.held holding
  owned {owned} member := by
    obtain ⟨owner, holding⟩ := exclusive.owned member
    by_cases moved : owner = source
    · subst owner
      refine ⟨target, ?_⟩
      rw [Function.update_of_ne differ.symm, Function.update_self, holding]
    · refine ⟨owner, ?_⟩
      have other : owner ≠ target := by
        rintro rfl
        rw [idle] at holding
        cases holding
      rw [Function.update_of_ne moved, Function.update_of_ne other, holding]
  sole {left right held} leftHolds rightHolds := by
    rw [Function.update_apply] at leftHolds rightHolds
    split at leftHolds
    next => cases leftHolds
    next leftStays =>
      split at rightHolds
      next => cases rightHolds
      next rightStays =>
        rw [Function.update_apply] at leftHolds rightHolds
        split at leftHolds
        next leftTarget =>
          split at rightHolds
          next rightTarget => rw [leftTarget, rightTarget]
          next =>
            exact (rightStays (exclusive.sole rightHolds leftHolds)).elim
        next =>
          split at rightHolds
          next => exact (leftStays (exclusive.sole leftHolds rightHolds)).elim
          next => exact exclusive.sole leftHolds rightHolds

end Exclusive

end Foundation
