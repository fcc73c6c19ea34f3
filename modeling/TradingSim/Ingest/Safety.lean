import TradingSim.Ingest.Chunking
import TradingSim.Ingest.Reader

/-!
# No access leaves its buffer

Every index, view and copy of the ingest stack is checked in this model, and an
access out of range is a fault.  The class invariants keep every pass of every
loop in range: the read position stays inside the assembler's buffer and the
cursor inside the mapped view, in every state in which a pass begins.
-/

namespace TradingSim

open Foundation

namespace DbnReader

/-- The states in which a pass of `next` begins, over a file read through some
scratch buffer by some reads. -/
def Reached (file : Bytes) (chunkSize : Nat) (script : Nat → ReadOutcome) :
    DbnReader → Prop :=
  Loop.Reached pass fun reader =>
    ∃ fuel, construct fuel (.onFile file script) chunkSize = .ok reader

theorem Reached.valid {file : Bytes} {chunkSize : Nat}
    {script : Nat → ReadOutcome} {reader : DbnReader}
    (reached : Reached file chunkSize script reader) : reader.Valid := by
  apply Loop.Reached.invariant _ _ _ reached
  · rintro reader ⟨fuel, built⟩
    have fresh := (construct_returned built).2.1
    rw [Valid, fresh.assembler]
    exact RecordAssembler.valid_empty
  · intro reader middle valid again
    exact (replays_of_again valid again).1
  · intro reader after event valid done
    exact (replays_of_done valid done).valid

theorem construct_ne_fault (fuel : Nat) (source : FileByteSource)
    (chunkSize : Nat) (kind : Fault) :
    construct fuel source chunkSize ≠ .error (.fault kind) := by
  intro faults
  rcases construct_failed faults with ⟨error, thrown⟩ | outOfFuel
  · cases thrown
  · cases outOfFuel

end DbnReader

/-- Every call on an assembler that keeps its invariant stays in range. -/
theorem RecordAssembler.calls_ok {assembler : RecordAssembler}
    (valid : assembler.Valid) :
    (∃ size, assembler.buffered = .ok size) ∧
      (∃ answer, assembler.next = .ok answer) ∧
      ∀ chunk, ∃ after, assembler.append chunk = .ok after := by
  refine ⟨⟨_, buffered_eq valid⟩, ?_, ?_⟩
  · obtain ⟨pull, after, answered, _⟩ := stretch_next valid
    obtain ⟨answer, next, _⟩ := Checked.bind_eq_ok.mp answered
    exact ⟨answer, next⟩
  · intro chunk
    exact ⟨_, append_eq valid chunk⟩

/-- Without the invariant every one of them goes out of range. -/
theorem RecordAssembler.calls_fault {assembler : RecordAssembler}
    (outside : assembler.buf.length < assembler.readPos) :
    assembler.buffered = .error (.fault .difference) ∧
      assembler.next = .error (.fault .subspan) ∧
      ∀ chunk, assembler.append chunk = .error (.fault .erase) := by
  refine ⟨Span.difference_of_lt outside, ?_, ?_⟩
  · rw [next, Span.subspan_of_gt outside, Checked.error_bind]
  · intro chunk
    have consumed : assembler.readPos ≠ 0 := by omega
    rw [append, if_pos consumed, Span.erasePrefix_of_gt outside,
      Checked.error_bind]

namespace MmapDbnReader

/-- The states in which a pass of `next` begins, over a mapped file. -/
def Reached (width : Nat) (file : Bytes) : MmapDbnReader → Prop :=
  Loop.Reached pass fun reader => construct width file = .ok reader

theorem Reached.valid {width : Nat} {file : Bytes} {reader : MmapDbnReader}
    (reached : Reached width file reader) : reader.Valid := by
  apply Loop.Reached.invariant _ _ _ reached
  · intro reader built
    rcases construct_safe width file with ⟨error, threw⟩ | ⟨other, same, valid⟩
    · rw [threw] at built
      cases built
    · rw [same] at built
      cases built
      exact valid
  · intro reader middle valid again
    exact (replays_of_again valid again).1
  · intro reader after event valid done
    exact (replays_of_done valid done).valid

theorem construct_ne_fault (width : Nat) (file : Bytes) (kind : Fault) :
    construct width file ≠ .error (.fault kind) := by
  intro faults
  rcases construct_safe width file with ⟨error, threw⟩ | ⟨reader, built, _⟩
  · rw [threw] at faults
    cases faults
  · rw [built] at faults
    cases faults

/-- Without the invariant `next` goes out of range. -/
theorem next_fault {reader : MmapDbnReader}
    (outside : reader.map.length < reader.cursor) :
    reader.next = .error (.fault .subspan) := by
  apply Loop.run_error
  rw [pass, Span.subspan_of_gt outside, Checked.error_bind]

end MmapDbnReader

/-- Framing, a bare assembler under any calls, and both readers in every state
they reach keep every access in range; the read position and the cursor are
inside their buffers before every pass. -/
theorem ingest_in_bounds :
    (∀ buf, ∃ result, frameOne buf = .ok result) ∧
    (∀ calls, ∃ pulls assembler,
      RecordAssembler.callAll calls {} = .ok (pulls, assembler) ∧
      assembler.readPos ≤ assembler.buf.length ∧
      (∃ size, assembler.buffered = .ok size) ∧
      (∃ answer, assembler.next = .ok answer) ∧
      ∀ chunk, ∃ after, assembler.append chunk = .ok after) ∧
    (∀ file chunkSize script,
      (∀ fuel kind, DbnReader.construct fuel (.onFile file script) chunkSize ≠
        .error (.fault kind)) ∧
      ∀ reader, DbnReader.Reached file chunkSize script reader →
        reader.assembler.readPos ≤ reader.assembler.buf.length ∧
        (∃ outcome, reader.pass = .ok outcome) ∧
        ∃ answer, reader.next = .ok answer) ∧
    ∀ width file,
      (∀ kind, MmapDbnReader.construct width file ≠ .error (.fault kind)) ∧
      ∀ reader, MmapDbnReader.Reached width file reader →
        reader.cursor ≤ reader.map.length ∧
        (∃ outcome, reader.pass = .ok outcome) ∧
        ∃ answer, reader.next = .ok answer := by
  refine ⟨?_, ?_, ?_, ?_⟩
  · intro buf
    exact ⟨_, frameOne_eq buf⟩
  · intro calls
    obtain ⟨pulls, assembler, called, stretch⟩ :=
      RecordAssembler.stretch_callAll RecordAssembler.valid_empty calls
    have valid := stretch.valid
    exact ⟨pulls, assembler, called, valid, RecordAssembler.calls_ok valid⟩
  · intro file chunkSize script
    constructor
    · intro fuel
      exact DbnReader.construct_ne_fault fuel _ chunkSize
    · intro reader reached
      have valid := reached.valid
      obtain ⟨answer, called, _⟩ := DbnReader.next_replays valid
      exact ⟨valid, DbnReader.pass_ok valid, answer, called⟩
  · intro width file
    constructor
    · exact MmapDbnReader.construct_ne_fault width file
    · intro reader reached
      have valid := reached.valid
      obtain ⟨answer, called, _⟩ := MmapDbnReader.next_replays valid
      exact ⟨valid, MmapDbnReader.pass_ok valid, answer, called⟩

/-- Behind a record that is skipped, with the cursor at the end of the mapping. -/
theorem ingest_in_bounds_sample :
    ∃ reader, MmapDbnReader.Reached 64 Setup.oneFrameFile reader ∧
      reader.cursor = 12 ∧ reader.cursor ≤ reader.map.length ∧
      (∃ outcome, reader.pass = .ok outcome) ∧
      ∃ answer, reader.next = .ok answer := by
  have built : MmapDbnReader.construct 64 Setup.oneFrameFile = .ok _ := rfl
  have opened : MmapDbnReader.Reached 64 Setup.oneFrameFile _ := .start built
  have skipped := opened.again rfl
  exact ⟨_, skipped, rfl,
    (ingest_in_bounds.2.2.2 64 Setup.oneFrameFile).2 _ skipped⟩

end TradingSim
