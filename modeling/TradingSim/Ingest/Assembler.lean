import TradingSim.Ingest.Frame

/-!
# The record assembler

`RecordAssembler` holds bytes across chunk boundaries, so that a record split by
a read is stitched together before it is handed out.  Consumed bytes stay in
front of the read position until the next append reclaims them.
-/

namespace TradingSim

open Foundation

inductive PullStatus where
  | record
  | needMore
  | corrupt
  deriving DecidableEq, Repr

/-- `record` means something only when the status is `record`. -/
structure Pull where
  status : PullStatus
  record : Bytes
  deriving DecidableEq, Repr

structure RecordAssembler where
  buf : Bytes := []
  readPos : Nat := 0
  deriving DecidableEq, Repr

namespace RecordAssembler

/-- Add a chunk, reclaiming the consumed bytes first. -/
def append (assembler : RecordAssembler) (chunk : Bytes) :
    Ingest RecordAssembler :=
  if assembler.readPos ≠ 0 then do
    let buf ← Span.erasePrefix assembler.buf assembler.readPos
    .ok { buf := buf ++ chunk, readPos := 0 }
  else .ok { assembler with buf := assembler.buf ++ chunk }

/-- Pull the next complete record from the front. -/
def next (assembler : RecordAssembler) : Ingest (Pull × RecordAssembler) := do
  let front ← Span.subspan assembler.buf assembler.readPos
  let size ← Span.difference assembler.buf.length assembler.readPos
  let view ← Span.first front size
  let r ← frameOne view
  match r.status with
  | .ok => do
      let record ← Span.first view r.recordSize
      .ok (⟨.record, record⟩,
        { assembler with readPos := assembler.readPos + r.recordSize })
  | .needMore => .ok (⟨.needMore, []⟩, assembler)
  | .corrupt => .ok (⟨.corrupt, []⟩, assembler)

/-- Unconsumed bytes currently held. -/
def buffered (assembler : RecordAssembler) : Ingest Nat :=
  Span.difference assembler.buf.length assembler.readPos

/-- The class invariant every access relies on. -/
def Valid (assembler : RecordAssembler) : Prop :=
  assembler.readPos ≤ assembler.buf.length

/-- The carry tail. -/
def unconsumed (assembler : RecordAssembler) : Bytes :=
  assembler.buf.drop assembler.readPos

variable {assembler : RecordAssembler}

theorem valid_empty : ({} : RecordAssembler).Valid := Nat.le_refl 0

@[simp] theorem unconsumed_empty : ({} : RecordAssembler).unconsumed = [] := rfl

theorem buffered_eq (valid : assembler.Valid) :
    assembler.buffered = .ok assembler.unconsumed.length := by
  rw [buffered, Span.difference_of_le valid, unconsumed, List.length_drop]

/-- Appending keeps exactly the unconsumed bytes and puts the chunk behind them. -/
theorem append_eq (valid : assembler.Valid) (chunk : Bytes) :
    assembler.append chunk =
      .ok { buf := assembler.unconsumed ++ chunk, readPos := 0 } := by
  by_cases start : assembler.readPos = 0
  · simp [append, unconsumed, start]
  · rw [append, if_pos start, Span.erasePrefix_of_le valid]
    rfl

theorem next_eq_frameOne (valid : assembler.Valid) :
    assembler.next = frameOne assembler.unconsumed >>= fun r =>
      match r.status with
      | .ok => do
          let record ← Span.first assembler.unconsumed r.recordSize
          .ok (⟨.record, record⟩,
            { assembler with readPos := assembler.readPos + r.recordSize })
      | .needMore => .ok (⟨.needMore, []⟩, assembler)
      | .corrupt => .ok (⟨.corrupt, []⟩, assembler) := by
  have whole : (assembler.buf.drop assembler.readPos).take
      (assembler.buf.length - assembler.readPos) = assembler.unconsumed := by
    rw [← List.length_drop, List.take_length, unconsumed]
  rw [next, Span.subspan_of_le valid, Checked.ok_bind,
    Span.difference_of_le valid, Checked.ok_bind,
    Span.first_of_le (by rw [List.length_drop]), Checked.ok_bind, whole]

theorem next_of_frame (valid : assembler.Valid) {size : Nat}
    (verdict : frameVerdict assembler.unconsumed = .frame size) :
    assembler.next = .ok (⟨.record, assembler.unconsumed.take size⟩,
      { assembler with readPos := assembler.readPos + size }) := by
  have le := (frame_size_bounds verdict).2.2
  rw [next_eq_frameOne valid, frameOne_of_frame verdict, Checked.ok_bind]
  simp [Span.first_of_le le]

theorem next_of_short (valid : assembler.Valid)
    (verdict : frameVerdict assembler.unconsumed = .short) :
    assembler.next = .ok (⟨.needMore, []⟩, assembler) := by
  rw [next_eq_frameOne valid, frameOne_of_short verdict, Checked.ok_bind]

theorem next_of_corrupt (valid : assembler.Valid)
    (verdict : frameVerdict assembler.unconsumed = .corrupt) :
    assembler.next = .ok (⟨.corrupt, []⟩, assembler) := by
  rw [next_eq_frameOne valid, frameOne_of_corrupt verdict, Checked.ok_bind]

/-- Consuming a frame moves the read position over it and stays in the buffer. -/
theorem consume_frame (valid : assembler.Valid) {size : Nat}
    (verdict : frameVerdict assembler.unconsumed = .frame size) :
    let rest : RecordAssembler :=
      { assembler with readPos := assembler.readPos + size }
    rest.Valid ∧ rest.unconsumed = assembler.unconsumed.drop size := by
  have le := (frame_size_bounds verdict).2.2
  rw [unconsumed, List.length_drop] at le
  constructor
  · simp only [Valid] at valid ⊢
    omega
  · simp [unconsumed, List.drop_drop]

end RecordAssembler

end TradingSim
