import Mathlib.Data.List.Infix
import Mathlib.Tactic.Common

/-!
# Self-delimiting streams

A framer looks at the front of a stream and says that a frame of a known size
is there, that too little of the stream is present to tell, or that no frame
can begin there.  Three stability laws make it a format: the verdict on a frame
depends on that frame alone, and neither a frame nor a corruption is taken back
when more of the stream arrives.

Every stream then has exactly one decomposition into frames and a tail, and
extending or cutting the stream changes that decomposition only behind the
last complete frame.
-/

namespace Foundation

universe u

/-- What a framer says about the front of a stream. -/
inductive Verdict where
  | frame (size : Nat)
  | short
  | corrupt
  deriving DecidableEq, Repr

/-- A self-delimiting format over an arbitrary alphabet. -/
structure Framer (α : Type u) where
  verdict : List α → Verdict
  size_pos : ∀ {input size}, verdict input = .frame size → 0 < size
  size_le : ∀ {input size}, verdict input = .frame size → size ≤ input.length
  frame_take : ∀ {input size}, verdict input = .frame size →
    verdict (input.take size) = .frame size
  frame_append : ∀ {input size}, verdict input = .frame size →
    ∀ more, verdict (input ++ more) = .frame size
  corrupt_append : ∀ {input}, verdict input = .corrupt →
    ∀ more, verdict (input ++ more) = .corrupt

namespace Framer

variable {α : Type u} (framer : Framer α)

/-- A complete frame and nothing else. -/
def IsFrame (record : List α) : Prop :=
  framer.verdict record = .frame record.length

/-- What can stand behind the last frame of a stream. -/
def IsTail (tail : List α) : Prop :=
  ∀ size, framer.verdict tail ≠ .frame size

variable {framer}

/-- The verdict on a frame does not change with what follows it. -/
theorem IsFrame.verdict_append {record : List α} (frame : framer.IsFrame record)
    (rest : List α) :
    framer.verdict (record ++ rest) = .frame record.length :=
  framer.frame_append frame rest

theorem isFrame_take {input : List α} {size : Nat}
    (verdict : framer.verdict input = .frame size) :
    framer.IsFrame (input.take size) := by
  have le := framer.size_le verdict
  simpa [IsFrame, le] using framer.frame_take verdict

theorem isTail_of_short {input : List α} (verdict : framer.verdict input = .short) :
    framer.IsTail input := by
  simp [IsTail, verdict]

theorem isTail_of_corrupt {input : List α}
    (verdict : framer.verdict input = .corrupt) : framer.IsTail input := by
  simp [IsTail, verdict]

/-- A stream is a tail, or a frame followed by a stream. -/
@[elab_as_elim]
theorem stream_induction (framer : Framer α) {motive : List α → Prop}
    (tail : ∀ input, framer.IsTail input → motive input)
    (frame : ∀ record rest, framer.IsFrame record → motive rest →
      motive (record ++ rest))
    (input : List α) : motive input := by
  induction size : input.length using Nat.strongRecOn generalizing input with
  | _ total ih =>
      cases verdict : framer.verdict input with
      | frame size =>
          have pos := framer.size_pos verdict
          have le := framer.size_le verdict
          have shorter : (input.drop size).length < total := by
            rw [List.length_drop]
            omega
          rw [← List.take_append_drop size input]
          exact frame _ _ (isFrame_take verdict) (ih _ shorter _ rfl)
      | short => exact tail _ (isTail_of_short verdict)
      | corrupt => exact tail _ (isTail_of_corrupt verdict)

/-! ## The decomposition of a stream -/

variable (framer)

/-- The frames of a stream, in order. -/
def frames (input : List α) : List (List α) :=
  match _verdict : framer.verdict input with
  | .frame size => input.take size :: frames (input.drop size)
  | .short | .corrupt => []
termination_by input.length
decreasing_by
  have pos := framer.size_pos _verdict
  have le := framer.size_le _verdict
  rw [List.length_drop]
  omega

/-- What is left behind the last frame of a stream. -/
def tail (input : List α) : List α :=
  input.drop (framer.frames input).flatten.length

variable {framer}

theorem frames_of_isTail {input : List α} (isTail : framer.IsTail input) :
    framer.frames input = [] := by
  rw [frames]
  split
  next size verdict => exact (isTail size verdict).elim
  next => rfl
  next => rfl

theorem frames_append {record : List α} (frame : framer.IsFrame record)
    (rest : List α) :
    framer.frames (record ++ rest) = record :: framer.frames rest := by
  rw [frames]
  split
  next size verdict =>
    rw [frame.verdict_append] at verdict
    cases verdict
    simp
  next verdict => simp [frame.verdict_append] at verdict
  next verdict => simp [frame.verdict_append] at verdict

theorem tail_of_isTail {input : List α} (isTail : framer.IsTail input) :
    framer.tail input = input := by
  simp [tail, frames_of_isTail isTail]

theorem tail_append {record : List α} (frame : framer.IsFrame record)
    (rest : List α) :
    framer.tail (record ++ rest) = framer.tail rest := by
  simp [tail, frames_append frame, List.drop_append]

/-- The frames and the tail are the whole stream. -/
theorem flatten_frames_append_tail (framer : Framer α) (input : List α) :
    (framer.frames input).flatten ++ framer.tail input = input := by
  induction input using stream_induction framer with
  | tail input isTail => simp [frames_of_isTail isTail, tail_of_isTail isTail]
  | frame record rest frame ih =>
      rw [frames_append frame, tail_append frame, List.flatten_cons,
        List.append_assoc, ih]

theorem length_flatten_frames_le (framer : Framer α) (input : List α) :
    (framer.frames input).flatten.length ≤ input.length := by
  have whole := congrArg List.length (flatten_frames_append_tail framer input)
  rw [List.length_append] at whole
  exact Nat.le_of_add_right_le (Nat.le_of_eq whole)

theorem isFrame_of_mem_frames {input record : List α}
    (member : record ∈ framer.frames input) : framer.IsFrame record := by
  induction input using stream_induction framer with
  | tail input isTail => simp [frames_of_isTail isTail] at member
  | frame first rest frame ih =>
      rw [frames_append frame, List.mem_cons] at member
      rcases member with rfl | member
      · exact frame
      · exact ih member

theorem isTail_tail (framer : Framer α) (input : List α) :
    framer.IsTail (framer.tail input) := by
  induction input using stream_induction framer with
  | tail input isTail => rwa [tail_of_isTail isTail]
  | frame record rest frame ih => rwa [tail_append frame]

/-- Frames already known stand in front of those of the rest. -/
theorem frames_flatten_append {records : List (List α)}
    (all : ∀ record ∈ records, framer.IsFrame record) (rest : List α) :
    framer.frames (records.flatten ++ rest) = records ++ framer.frames rest := by
  induction records with
  | nil => rfl
  | cons record records ih =>
      rw [List.flatten_cons, List.append_assoc,
        frames_append (all record (by simp)),
        ih (fun other member => all other (by simp [member])), List.cons_append]

theorem tail_flatten_append {records : List (List α)}
    (all : ∀ record ∈ records, framer.IsFrame record) (rest : List α) :
    framer.tail (records.flatten ++ rest) = framer.tail rest := by
  induction records with
  | nil => rfl
  | cons record records ih =>
      rw [List.flatten_cons, List.append_assoc,
        tail_append (all record (by simp)),
        ih (fun other member => all other (by simp [member]))]

theorem decomposition_unique {input last : List α} {records : List (List α)}
    (all : ∀ record ∈ records, framer.IsFrame record)
    (isTail : framer.IsTail last) (whole : input = records.flatten ++ last) :
    framer.frames input = records ∧ framer.tail input = last := by
  subst whole
  rw [frames_flatten_append all, tail_flatten_append all,
    frames_of_isTail isTail, tail_of_isTail isTail, List.append_nil]
  exact ⟨rfl, rfl⟩

/-! ## Extending and cutting a stream -/

/-- Extending a stream re-reads only its tail. -/
theorem frames_extend (input more : List α) :
    framer.frames (input ++ more) =
      framer.frames input ++ framer.frames (framer.tail input ++ more) := by
  conv_lhs => rw [← flatten_frames_append_tail framer input]
  rw [List.append_assoc,
    frames_flatten_append fun _ member => isFrame_of_mem_frames member]

theorem tail_extend (input more : List α) :
    framer.tail (input ++ more) = framer.tail (framer.tail input ++ more) := by
  conv_lhs => rw [← flatten_frames_append_tail framer input]
  rw [List.append_assoc,
    tail_flatten_append fun _ member => isFrame_of_mem_frames member]

theorem frames_extend_of_corrupt {input : List α}
    (corrupt : framer.verdict (framer.tail input) = .corrupt) (more : List α) :
    framer.frames (input ++ more) = framer.frames input := by
  rw [frames_extend,
    frames_of_isTail (isTail_of_corrupt (framer.corrupt_append corrupt more)),
    List.append_nil]

theorem verdict_tail_extend_of_corrupt {input : List α}
    (corrupt : framer.verdict (framer.tail input) = .corrupt) (more : List α) :
    framer.verdict (framer.tail (input ++ more)) = .corrupt := by
  have stays := framer.corrupt_append corrupt more
  rw [tail_extend, tail_of_isTail (isTail_of_corrupt stays)]
  exact stays

/-- Frames paired with the positions where they end, the first of them starting
at `start`. -/
def frameEnds (start : Nat) : List (List α) → List (Nat × List α)
  | [] => []
  | record :: rest =>
      (start + record.length, record) :: frameEnds (start + record.length) rest

theorem lt_of_mem_frameEnds {start stop : Nat} {records : List (List α)}
    {record : List α} (member : (stop, record) ∈ frameEnds start records) :
    start + record.length ≤ stop := by
  induction records generalizing start with
  | nil => simp [frameEnds] at member
  | cons first rest ih =>
      simp only [frameEnds, List.mem_cons, Prod.mk.injEq] at member
      rcases member with ⟨rfl, rfl⟩ | member
      · exact le_rfl
      · have later := ih member
        omega

/-- A cut stream keeps exactly the frames that end in front of the cut. -/
theorem frames_take (input : List α) (start count : Nat) :
    framer.frames (input.take count) =
      ((frameEnds start (framer.frames input)).filter fun placed =>
        placed.1 ≤ start + count).map Prod.snd := by
  induction input using stream_induction framer
    generalizing start count with
  | tail input isTail =>
      have cutTail : framer.IsTail (input.take count) := by
        intro size verdict
        have extended := framer.frame_append verdict (input.drop count)
        rw [List.take_append_drop] at extended
        exact isTail size extended
      simp [frames_of_isTail isTail, frames_of_isTail cutTail, frameEnds]
  | frame record rest frame ih =>
      rw [frames_append frame, frameEnds]
      by_cases fits : record.length ≤ count
      · have split : (record ++ rest).take count =
            record ++ rest.take (count - record.length) := by
          rw [List.take_append, List.take_of_length_le fits]
        have shifted : start + record.length + (count - record.length) =
            start + count := by omega
        have kept : start + record.length ≤ start + count := by omega
        rw [split, frames_append frame,
          ih (start + record.length) (count - record.length), shifted]
        simp [kept]
      · -- The cut falls inside this frame, so every later frame ends behind it.
        have cut : (record ++ rest).take count = record.take count :=
          List.take_append_of_le_length (by omega)
        have cutTail : framer.IsTail (record.take count) := by
          intro size verdict
          have within := framer.size_le verdict
          have extended := framer.frame_append verdict (record.drop count)
          rw [List.take_append_drop, frame] at extended
          cases extended
          rw [List.length_take] at within
          omega
        have behind : ∀ placed ∈
            frameEnds (start + record.length) (framer.frames rest),
            ¬ placed.1 ≤ start + count := by
          intro placed member
          have later := lt_of_mem_frameEnds member
          omega
        rw [cut, frames_of_isTail cutTail]
        have empty : (frameEnds (start + record.length)
            (framer.frames rest)).filter
              (fun placed => decide (placed.1 ≤ start + count)) = [] := by
          rw [List.filter_eq_nil_iff]
          intro placed member
          simpa using behind placed member
        simp [empty, fits]

end Framer

end Foundation
