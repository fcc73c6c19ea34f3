import Mathlib.Data.List.Forall2
import TradingSim.Foundation.Framing

/-!
# Damaged streams

Where a frame announces its size in its first element, a stream whose contents
are damaged is still framed as before, as long as those elements are spared.  A
damaged stretch then reaches the frames it meets, and the frames in front of it
and behind it are the ones that stood there.
-/

namespace Foundation

namespace Framer

universe u

variable {α : Type u}

/-! ## Frames and a stretch -/

section Stretch

/-- The frames, from `start` on, that end in front of a position. -/
def before (position start : Nat) (records : List (List α)) : List (List α) :=
  ((frameEnds start records).filter fun placed => placed.1 ≤ position).map
    Prod.snd

/-- Those that begin at or behind a position. -/
def behind (position start : Nat) (records : List (List α)) : List (List α) :=
  ((frameEnds start records).filter fun placed =>
    position + placed.2.length ≤ placed.1).map Prod.snd

/-- Those that a stretch reaches into. -/
def meeting (lower upper start : Nat) (records : List (List α)) :
    List (List α) :=
  ((frameEnds start records).filter fun placed =>
    lower < placed.1 ∧ placed.1 < upper + placed.2.length).map Prod.snd

variable {lower upper start : Nat} {records : List (List α)}

theorem before_cons (position start : Nat) (record : List α)
    (rest : List (List α)) :
    before position start (record :: rest) =
      if start + record.length ≤ position then
        record :: before position (start + record.length) rest
      else before position (start + record.length) rest := by
  simp only [before, frameEnds, List.filter_cons, decide_eq_true_eq]
  split <;> rfl

theorem behind_cons (position start : Nat) (record : List α)
    (rest : List (List α)) :
    behind position start (record :: rest) =
      if position ≤ start then
        record :: behind position (start + record.length) rest
      else behind position (start + record.length) rest := by
  simp only [behind, frameEnds, List.filter_cons, decide_eq_true_eq,
    Nat.add_le_add_iff_right]
  split <;> rfl

theorem meeting_cons (lower upper start : Nat) (record : List α)
    (rest : List (List α)) :
    meeting lower upper start (record :: rest) =
      if lower < start + record.length ∧ start < upper then
        record :: meeting lower upper (start + record.length) rest
      else meeting lower upper (start + record.length) rest := by
  simp only [meeting, frameEnds, List.filter_cons, decide_eq_true_eq,
    Nat.add_lt_add_iff_right]
  split <;> rfl

theorem before_of_le (nonempty : ∀ record ∈ records, 0 < record.length)
    {position : Nat} (le : position ≤ start) :
    before position start records = [] := by
  induction records generalizing start with
  | nil => rfl
  | cons record rest ih =>
      have long := nonempty record List.mem_cons_self
      rw [before_cons, if_neg (by omega)]
      apply ih _ (by omega)
      exact fun other member => nonempty other (List.mem_cons_of_mem _ member)

theorem meeting_of_le (le : upper ≤ start) :
    meeting lower upper start records = [] := by
  induction records generalizing start with
  | nil => rfl
  | cons record rest ih =>
      rw [meeting_cons, if_neg (by omega)]
      exact ih (by omega)

/-- A stretch splits the frames into those in front of it, those it meets and
those behind it. -/
theorem before_meeting_behind
    (nonempty : ∀ record ∈ records, 0 < record.length) (le : lower ≤ upper) :
    before lower start records ++ meeting lower upper start records ++
      behind upper start records = records := by
  induction records generalizing start with
  | nil => rfl
  | cons record rest ih =>
      have long := nonempty record List.mem_cons_self
      have others : ∀ other ∈ rest, 0 < other.length :=
        fun other member => nonempty other (List.mem_cons_of_mem _ member)
      have split : before lower (start + record.length) rest ++
          meeting lower upper (start + record.length) rest ++
            behind upper (start + record.length) rest = rest := ih others
      rw [before_cons, meeting_cons, behind_cons]
      by_cases front : start + record.length ≤ lower
      · rw [if_pos front, if_neg (by omega), if_neg (by omega),
          List.cons_append, List.cons_append, split]
      · have none : before lower (start + record.length) rest = [] :=
          before_of_le others (by omega)
        rw [none, List.nil_append] at split
        rw [if_neg front, none, List.nil_append]
        by_cases reached : start < upper
        · rw [if_pos ⟨by omega, reached⟩, if_neg (by omega),
            List.cons_append, split]
        · rw [meeting_of_le (by omega), List.nil_append] at split
          rw [if_neg (by omega), meeting_of_le (by omega), if_pos (by omega),
            List.nil_append, split]

/-- Where every frame has a least size, a stretch that begins where a frame does
meets few. -/
theorem mul_meeting_le_of_le {least : Nat}
    (sized : ∀ record ∈ records, least ≤ record.length) (le : lower ≤ start) :
    least * (meeting lower upper start records).length ≤
      upper - start + (least - 1) := by
  induction records generalizing start with
  | nil => simp [meeting, frameEnds]
  | cons record rest ih =>
      have long := sized record List.mem_cons_self
      have others : ∀ other ∈ rest, least ≤ other.length :=
        fun other member => sized other (List.mem_cons_of_mem _ member)
      have few : least *
          (meeting lower upper (start + record.length) rest).length ≤
            upper - (start + record.length) + (least - 1) :=
        ih others (by omega)
      rw [meeting_cons]
      split
      next reached =>
        rw [List.length_cons, Nat.mul_add_one]
        by_cases last : upper ≤ start + record.length
        · rw [meeting_of_le last]
          simp only [List.length_nil, Nat.mul_zero]
          omega
        · omega
      next => omega

/-- A stretch meets few frames: those it covers and at most one at either end. -/
theorem mul_meeting_le {least : Nat} (two : 2 ≤ least)
    (sized : ∀ record ∈ records, least ≤ record.length) :
    least * (meeting lower upper start records).length ≤
      upper - lower + 2 * (least - 1) := by
  induction records generalizing start with
  | nil => simp [meeting, frameEnds]
  | cons record rest ih =>
      have long := sized record List.mem_cons_self
      have others : ∀ other ∈ rest, least ≤ other.length :=
        fun other member => sized other (List.mem_cons_of_mem _ member)
      rw [meeting_cons]
      split
      next reached =>
        have few : least *
            (meeting lower upper (start + record.length) rest).length ≤
              upper - (start + record.length) + (least - 1) :=
          mul_meeting_le_of_le others (Nat.le_of_lt reached.1)
        rw [List.length_cons, Nat.mul_add_one]
        by_cases last : upper ≤ start + record.length
        · rw [meeting_of_le last]
          simp only [List.length_nil, Nat.mul_zero]
          omega
        · omega
      next => exact ih others

end Stretch

/-! ## Streams that differ in a stretch -/

/-- Frames at the same place and of the same size, and the same frame unless the
stretch meets it. -/
structure Alike (lower upper : Nat) (left right : Nat × List α) : Prop where
  stop : left.1 = right.1
  length : left.2.length = right.2.length
  spared : left.1 ≤ lower ∨ upper + left.2.length ≤ left.1 → left.2 = right.2

variable {lower upper : Nat}

/-- A choice of frames that goes by their places finds the same frames, if it
finds spared ones only. -/
theorem filter_eq_of_alike {chosen : Nat × List α → Prop}
    [DecidablePred chosen] {left right : List (Nat × List α)}
    (alike : List.Forall₂ (Alike lower upper) left right)
    (same : ∀ first second, Alike lower upper first second →
      (chosen first ↔ chosen second))
    (spared : ∀ placed, chosen placed →
      placed.1 ≤ lower ∨ upper + placed.2.length ≤ placed.1) :
    (left.filter chosen).map Prod.snd = (right.filter chosen).map Prod.snd := by
  induction alike with
  | nil => rfl
  | @cons first second _ _ pair _ ih =>
      simp only [List.filter_cons, decide_eq_true_eq, ← same first second pair]
      split
      next picked =>
        rw [List.map_cons, List.map_cons, ih, pair.spared (spared first picked)]
      next => exact ih

/-- Streams whose frames are pairwise alike differ only in the frames that the
stretch meets, and in as many of them. -/
theorem parts_of_alike {start : Nat} {left right : List (List α)}
    (alike : List.Forall₂ (Alike lower upper) (frameEnds start left)
      (frameEnds start right)) :
    before lower start left = before lower start right ∧
      behind upper start left = behind upper start right ∧
      (meeting lower upper start left).length =
        (meeting lower upper start right).length := by
  refine ⟨?_, ?_, ?_⟩
  · apply filter_eq_of_alike alike
    · intro first second pair
      rw [pair.stop]
    · intro placed front
      exact .inl front
  · apply filter_eq_of_alike alike
    · intro first second pair
      rw [pair.stop, pair.length]
    · intro placed back
      exact .inr back
  · rw [meeting, meeting, List.length_map, List.length_map]
    refine List.Forall₂.length_eq (List.rel_filter ?_ alike)
    intro first second pair
    simp only [pair.stop, pair.length]

/-- Where the frames of a stream begin, and where its tail does. -/
def boundaries (start : Nat) : List (List α) → List Nat
  | [] => [start]
  | record :: rest => start :: boundaries (start + record.length) rest

/-- A format whose verdict goes by the first element and by how much there is. -/
def Headed (framer : Framer α) : Prop :=
  ∀ {left right : List α}, left.length = right.length → left[0]? = right[0]? →
    framer.verdict left = framer.verdict right

variable {framer : Framer α}

theorem frames_of_verdict {input : List α} {size : Nat}
    (verdict : framer.verdict input = .frame size) :
    framer.frames input = input.take size :: framer.frames (input.drop size) ∧
      framer.tail input = framer.tail (input.drop size) := by
  have frame := isFrame_take verdict
  constructor
  · conv_lhs => rw [← List.take_append_drop size input]
    exact frames_append frame _
  · conv_lhs => rw [← List.take_append_drop size input]
    exact tail_append frame _

/-- A stream begins with a record as soon as it agrees with one that does. -/
theorem take_of_agree {record rest right : List α}
    (agree : ∀ index, index < record.length →
      (record ++ rest)[index]? = right[index]?) :
    right.take record.length = record := by
  apply List.ext_getElem?
  intro index
  by_cases inside : index < record.length
  · rw [List.getElem?_take_of_lt inside, ← agree index inside,
      List.getElem?_append_left inside]
  · rw [List.getElem?_eq_none (by rw [List.length_take]; omega),
      List.getElem?_eq_none (by omega)]

theorem start_mem_boundaries (start : Nat) (records : List (List α)) :
    start ∈ boundaries start records := by
  cases records with
  | nil => exact List.mem_singleton_self start
  | cons record rest => exact List.mem_cons_self

/-- A stream is spared where its frames and its tail begin, and outside the
stretch. -/
structure Spared (framer : Framer α) (lower upper start : Nat)
    (left right : List α) : Prop where
  length : left.length = right.length
  heads : ∀ index, start + index ∈ boundaries start (framer.frames left) →
    left[index]? = right[index]?
  elsewhere : ∀ index, start + index < lower ∨ upper ≤ start + index →
    left[index]? = right[index]?

variable {start : Nat} {record rest left right : List α}

/-- Heads that are spared get the same verdict. -/
theorem Spared.verdict (spared : Spared framer lower upper start left right)
    (headed : framer.Headed) : framer.verdict left = framer.verdict right :=
  headed spared.length (spared.heads 0 (start_mem_boundaries start _))

theorem Spared.behind_frame (frame : framer.IsFrame record)
    (spared : Spared framer lower upper start (record ++ rest) right) :
    Spared framer lower upper (start + record.length) rest
      (right.drop record.length) := by
  have later : ∀ index, rest[index]? =
      (record ++ rest)[record.length + index]? := by
    intro index
    rw [List.getElem?_append_right (Nat.le_add_right _ _),
      Nat.add_sub_cancel_left]
  constructor
  · rw [List.length_drop, ← spared.length, List.length_append,
      Nat.add_sub_cancel_left]
  · intro index member
    rw [later, List.getElem?_drop]
    apply spared.heads
    rw [frames_append frame, ← Nat.add_assoc]
    exact List.mem_cons_of_mem _ member
  · intro index outside
    rw [later, List.getElem?_drop]
    apply spared.elsewhere
    rwa [← Nat.add_assoc]

/-- A stream whose heads are spared is framed as before. -/
theorem Spared.frames_alike (headed : framer.Headed)
    (spared : Spared framer lower upper start left right) :
    List.Forall₂ (Alike lower upper) (frameEnds start (framer.frames left))
        (frameEnds start (framer.frames right)) ∧
      framer.verdict (framer.tail left) = framer.verdict (framer.tail right) := by
  have same := spared.verdict headed
  induction left using stream_induction framer generalizing right start with
  | tail input isTail =>
      have other : framer.IsTail right := fun size verdict =>
        isTail size (same.trans verdict)
      rw [frames_of_isTail isTail, frames_of_isTail other,
        tail_of_isTail isTail, tail_of_isTail other]
      exact ⟨.nil, same⟩
  | frame record rest frame ih =>
      have later := spared.behind_frame frame
      obtain ⟨rests, tails⟩ := ih later (later.verdict headed)
      rw [frame.verdict_append] at same
      obtain ⟨frames, tail⟩ := frames_of_verdict same.symm
      have size : (right.take record.length).length = record.length :=
        List.length_take_of_le (framer.size_le same.symm)
      rw [frames, tail, frames_append frame, tail_append frame]
      refine ⟨.cons ⟨?_, size.symm, ?_⟩ ?_, tails⟩
      · rw [size]
      · intro outside
        have agree : ∀ index, index < record.length →
            (record ++ rest)[index]? = right[index]? := by
          intro index inside
          apply spared.elsewhere
          simp only at outside
          omega
        exact (take_of_agree agree).symm
      · rw [size]
        exact rests

end Framer

end Foundation
