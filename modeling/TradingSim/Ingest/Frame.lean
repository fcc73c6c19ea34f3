import TradingSim.Foundation.Framing
import TradingSim.Ingest.Prologue

/-!
# Framing one record

`frameOne` looks at the front of a buffer and decides whether a complete record
sits there.  It reads the two-byte framing prefix only: the record length in
4-byte words, and the record type.
-/

namespace TradingSim

open Foundation

inductive FrameStatus where
  | ok
  | needMore
  | corrupt
  deriving DecidableEq, Repr

/-- `rtype` and `recordSize` mean something only when the status is `ok`. -/
structure FrameResult where
  status : FrameStatus
  rtype : UInt8
  recordSize : Nat
  deriving DecidableEq, Repr

def frameOne (buf : Bytes) : Ingest FrameResult :=
  if buf.length < 2 then .ok ⟨.needMore, 0, 0⟩
  else do
    let length ← Span.get buf 0
    let recordSize := length.toNat * 4
    if recordSize = 0 then .ok ⟨.corrupt, 0, 0⟩
    else if buf.length < recordSize then .ok ⟨.needMore, 0, 0⟩
    else
      let rtype ← Span.get buf 1
      .ok ⟨.ok, rtype, recordSize⟩

/-! ## The format

The verdict says what the framing prefix means; `frameOne` computes it. -/

/-- What the front of a record stream holds. -/
def frameVerdict : Bytes → Verdict
  | [] | [_] => .short
  | length :: _ :: rest =>
      if length.toNat = 0 then .corrupt
      else if rest.length + 2 < 4 * length.toNat then .short
      else .frame (4 * length.toNat)

@[simp] theorem frameVerdict_nil : frameVerdict [] = .short := rfl

@[simp] theorem frameVerdict_singleton (byte : UInt8) :
    frameVerdict [byte] = .short := rfl

theorem frameVerdict_cons (length rtype : UInt8) (rest : Bytes) :
    frameVerdict (length :: rtype :: rest) =
      if length.toNat = 0 then .corrupt
      else if rest.length + 2 < 4 * length.toNat then .short
      else .frame (4 * length.toNat) := rfl

theorem frameVerdict_eq_frame {input : Bytes} {size : Nat} :
    frameVerdict input = .frame size ↔
      ∃ length rtype rest, input = length :: rtype :: rest ∧
        length.toNat ≠ 0 ∧ size = 4 * length.toNat ∧ size ≤ input.length := by
  match input with
  | [] => simp
  | [byte] => simp
  | length :: rtype :: rest =>
      rw [frameVerdict_cons]
      constructor
      · intro verdict
        split at verdict
        · cases verdict
        · split at verdict
          · cases verdict
          · cases verdict
            refine ⟨length, rtype, rest, rfl, by assumption, rfl, ?_⟩
            simp only [List.length_cons]
            omega
      · rintro ⟨_, _, _, equal, nonzero, rfl, le⟩
        cases equal
        simp only [List.length_cons] at le
        rw [if_neg nonzero, if_neg (by omega)]

/-- Framing fails for good exactly on a zero length byte with a byte behind it. -/
theorem frameVerdict_eq_corrupt {input : Bytes} :
    frameVerdict input = .corrupt ↔
      2 ≤ input.length ∧ input[0]? = some 0 := by
  match input with
  | [] => simp
  | [byte] => simp
  | length :: rtype :: rest =>
      rw [frameVerdict_cons]
      by_cases zero : length.toNat = 0
      · have equal : length = 0 := UInt8.toNat_inj.mp zero
        simp [equal]
      · have differ : length ≠ 0 := fun equal => zero (by simp [equal])
        rw [if_neg zero]
        split <;> simp [differ]

/-- The record format as a self-delimiting stream. -/
def dbnFramer : Framer UInt8 where
  verdict := frameVerdict
  size_pos := by
    intro input size verdict
    obtain ⟨_, _, _, _, nonzero, rfl, _⟩ := frameVerdict_eq_frame.mp verdict
    omega
  size_le := by
    intro input size verdict
    obtain ⟨_, _, _, _, _, _, le⟩ := frameVerdict_eq_frame.mp verdict
    exact le
  frame_take := by
    intro input size verdict
    obtain ⟨length, rtype, rest, rfl, nonzero, rfl, le⟩ :=
      frameVerdict_eq_frame.mp verdict
    apply frameVerdict_eq_frame.mpr
    refine ⟨length, rtype, rest.take (4 * length.toNat - 2), ?_, nonzero, rfl, ?_⟩
    · obtain ⟨size, sizeEq⟩ : ∃ size, 4 * length.toNat = size + 2 :=
        ⟨4 * length.toNat - 2, by omega⟩
      simp [sizeEq]
    · rw [List.length_take]
      omega
  frame_append := by
    intro input size verdict more
    obtain ⟨length, rtype, rest, rfl, nonzero, rfl, le⟩ :=
      frameVerdict_eq_frame.mp verdict
    apply frameVerdict_eq_frame.mpr
    refine ⟨length, rtype, rest ++ more, rfl, nonzero, rfl, ?_⟩
    rw [List.length_append]
    omega
  corrupt_append := by
    intro input verdict more
    obtain ⟨long, zero⟩ := frameVerdict_eq_corrupt.mp verdict
    apply frameVerdict_eq_corrupt.mpr
    refine ⟨?_, ?_⟩
    · rw [List.length_append]
      omega
    · rw [List.getElem?_append_left (by omega), zero]

@[simp] theorem dbnFramer_verdict : dbnFramer.verdict = frameVerdict := rfl

/-- A frame is 4 to 1020 bytes long, in whole words. -/
theorem frame_size_bounds {input : Bytes} {size : Nat}
    (verdict : frameVerdict input = .frame size) :
    4 ≤ size ∧ size ≤ 1020 ∧ size ≤ input.length := by
  obtain ⟨length, _, _, _, nonzero, rfl, le⟩ := frameVerdict_eq_frame.mp verdict
  have bound : length.toNat < 256 := length.toNat_lt
  omega

theorem frame_length_ge {record : Bytes} (frame : dbnFramer.IsFrame record) :
    4 ≤ record.length :=
  (frame_size_bounds frame).1

theorem frame_length_ge_two {record : Bytes} (frame : dbnFramer.IsFrame record) :
    2 ≤ record.length :=
  Nat.le_trans (by decide) (frame_length_ge frame)

/-- `frameOne` never indexes a missing byte, and computes the verdict. -/
theorem frameOne_eq (buf : Bytes) :
    frameOne buf = .ok (match frameVerdict buf with
      | .frame size => ⟨.ok, buf[1]?.getD 0, size⟩
      | .short => ⟨.needMore, 0, 0⟩
      | .corrupt => ⟨.corrupt, 0, 0⟩) := by
  match buf with
  | [] => rfl
  | [byte] => rfl
  | length :: rtype :: rest =>
      have long : ¬ (length :: rtype :: rest).length < 2 := by
        simp only [List.length_cons]
        omega
      rw [frameOne, if_neg long, frameVerdict_cons]
      simp only [Span.get, List.getElem?_cons_zero, List.getElem?_cons_succ,
        Checked.ok_bind, List.length_cons, Option.getD_some]
      by_cases zero : length.toNat = 0
      · simp [zero]
      · have product : length.toNat * 4 ≠ 0 := by omega
        rw [if_neg product, if_neg zero]
        by_cases partialRecord : rest.length + 2 < 4 * length.toNat
        · rw [if_pos (by omega), if_pos partialRecord]
        · rw [if_neg (by omega), if_neg partialRecord, Nat.mul_comm]

theorem frameOne_of_frame {buf : Bytes} {size : Nat}
    (verdict : frameVerdict buf = .frame size) :
    frameOne buf = .ok ⟨.ok, buf[1]?.getD 0, size⟩ := by
  rw [frameOne_eq, verdict]

theorem frameOne_of_short {buf : Bytes} (verdict : frameVerdict buf = .short) :
    frameOne buf = .ok ⟨.needMore, 0, 0⟩ := by
  rw [frameOne_eq, verdict]

theorem frameOne_of_corrupt {buf : Bytes}
    (verdict : frameVerdict buf = .corrupt) :
    frameOne buf = .ok ⟨.corrupt, 0, 0⟩ := by
  rw [frameOne_eq, verdict]

end TradingSim
