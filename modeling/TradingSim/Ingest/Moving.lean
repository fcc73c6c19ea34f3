import TradingSim.Ingest.Accounting
import TradingSim.Ingest.CleanStop
import TradingSim.Ingest.SizeType
import TradingSim.Mapping.MemoryMappedFile

/-!
# Moving in mid-stream

Neither `RecordAssembler` nor `MmapDbnReader` says how it is moved, so both are
moved member by member.  A vector that was moved from is empty, and so is a mapped
file, whose move is written by hand; an index is an integer, and a move leaves it
as it was.  What arrives is therefore the whole of the object, and what stays behind
is an empty container and an index into the one that left.
-/

namespace TradingSim

open Foundation

namespace RecordAssembler

variable {assembler : RecordAssembler}

/-- The implicit move constructor: the new object, and what becomes of the other. -/
def moveConstruct (other : RecordAssembler) :
    RecordAssembler × RecordAssembler :=
  ({ buf := other.buf, readPos := other.readPos },
    { buf := [], readPos := other.readPos })

/-- A move that is safe on both sides: what arrives answers every call as the
source would have, and what stays behind keeps the invariant and can still be
called. -/
structure MovesSafely (assembler : RecordAssembler) : Prop where
  arrives : ∀ calls,
    callAll calls assembler.moveConstruct.1 = callAll calls assembler
  invariant : assembler.moveConstruct.2.Valid
  buffered : ∃ size, assembler.moveConstruct.2.buffered = .ok size
  next : ∃ answer, assembler.moveConstruct.2.next = .ok answer
  append : ∀ chunk, ∃ after, assembler.moveConstruct.2.append chunk = .ok after

theorem moved_valid_iff :
    assembler.moveConstruct.2.Valid ↔ assembler.readPos = 0 :=
  Nat.le_zero

/-- Only a read position at the beginning fits an empty vector. -/
theorem movesSafely_iff : assembler.MovesSafely ↔ assembler.readPos = 0 := by
  constructor
  · intro safe
    exact moved_valid_iff.mp safe.invariant
  · intro beginning
    have valid := moved_valid_iff.mpr beginning
    obtain ⟨buffered, next, append⟩ := calls_ok valid
    exact {
      arrives := fun _ => rfl
      invariant := valid
      buffered := buffered
      next := next
      append := append }

theorem moved_faults (consumed : assembler.readPos ≠ 0) :
    assembler.moveConstruct.2.buffered = .error (.fault .difference) ∧
      assembler.moveConstruct.2.next = .error (.fault .subspan) ∧
      ∀ chunk,
        assembler.moveConstruct.2.append chunk = .error (.fault .erase) :=
  calls_fault (Nat.pos_of_ne_zero consumed)

/-! ### Where the read position is -/

/-- The records handed out since the last append, read off the calls and what
`next` returned, on top of those handed out before. -/
def sinceAppend : List Bytes → List AssemblerCall → List Pull → List Bytes
  | handedOut, [], _ => handedOut
  | _, .append _ :: calls, pulls => sinceAppend [] calls pulls
  | handedOut, .next :: calls, pulls =>
      sinceAppend (handedOut ++ records (pulls.take 1)) calls (pulls.drop 1)

/-- What is in front of the read position is the records handed out since the last
append. -/
structure HandedOut (assembler : RecordAssembler) (handedOut : List Bytes) :
    Prop where
  valid : assembler.Valid
  framed : ∀ record ∈ handedOut, dbnFramer.IsFrame record
  consumed : assembler.buf.take assembler.readPos = handedOut.flatten

variable {handedOut : List Bytes}

theorem HandedOut.append (holds : HandedOut assembler handedOut)
    {chunk : Bytes} {after : RecordAssembler}
    (called : assembler.append chunk = .ok after) : HandedOut after [] := by
  rw [append_eq holds.valid] at called
  cases called
  exact {
    valid := Nat.zero_le _
    framed := by simp
    consumed := rfl }

theorem HandedOut.next (holds : HandedOut assembler handedOut)
    {pull : Pull} {after : RecordAssembler}
    (called : assembler.next = .ok (pull, after)) :
    HandedOut after (handedOut ++ records [pull]) := by
  have valid := holds.valid
  cases verdict : frameVerdict assembler.unconsumed with
  | frame size =>
      rw [next_of_frame valid verdict] at called
      cases called
      have framed : dbnFramer.IsFrame (assembler.unconsumed.take size) :=
        Framer.isFrame_take verdict
      exact {
        valid := (consume_frame valid verdict).1
        framed := by
          intro record member
          rcases List.mem_append.mp member with old | new
          · exact holds.framed record old
          · rw [List.mem_singleton.mp new]
            exact framed
        consumed := by
          rw [List.take_add, holds.consumed]
          simp [records, unconsumed] }
  | short =>
      rw [next_of_short valid verdict] at called
      cases called
      simpa [records] using holds
  | corrupt =>
      rw [next_of_corrupt valid verdict] at called
      cases called
      simpa [records] using holds

theorem HandedOut.callAll (holds : HandedOut assembler handedOut)
    {calls : List AssemblerCall} {pulls : List Pull} {last : RecordAssembler}
    (called : callAll calls assembler = .ok (pulls, last)) :
    HandedOut last (sinceAppend handedOut calls pulls) := by
  induction calls generalizing assembler handedOut pulls with
  | nil =>
      cases called
      exact holds
  | cons first rest ih =>
      obtain ⟨⟨some, middle⟩, once, later⟩ := Checked.bind_eq_ok.mp called
      obtain ⟨⟨more, stop⟩, others, result⟩ := Checked.bind_eq_ok.mp later
      cases result
      cases first with
      | append chunk =>
          obtain ⟨after, appended, result⟩ := Checked.bind_eq_ok.mp once
          cases result
          exact ih (holds.append appended) others
      | next =>
          obtain ⟨⟨pull, after⟩, pulled, result⟩ := Checked.bind_eq_ok.mp once
          cases result
          exact ih (holds.next pulled) others

/-- Records are not empty, so the read position is at the beginning exactly when
none was handed out. -/
theorem HandedOut.readPos_eq_zero_iff (holds : HandedOut assembler handedOut) :
    assembler.readPos = 0 ↔ handedOut = [] := by
  have long := four_mul_length_le holds.framed
  rw [← holds.consumed, List.length_take_of_le holds.valid] at long
  constructor
  · intro beginning
    apply List.length_eq_zero_iff.mp
    omega
  · intro none
    have length := congrArg List.length holds.consumed
    rw [none, List.length_take_of_le holds.valid] at length
    exact length

end RecordAssembler

/-- What memory holds at each address. -/
abbrev Memory := Address → UInt8

/-- `bytes()`: the whole file as a view. -/
def MemoryMappedFile.bytes (memory : Memory) (file : MemoryMappedFile) : Bytes :=
  match file.data with
  | some data => (List.range file.size).map fun offset => memory (data + offset)
  | none => []

namespace MmapDbnReader

/-- A mapped reader by its members. -/
structure Object where
  map : MemoryMappedFile
  cursor : Nat := 0
  version : UInt8 := 0
  failed : Bool := false
  stats : IngestStats := {}
  deriving DecidableEq, Repr

namespace Object

variable {memory : Memory} {object : Object}

/-- The reader an object is while its mapping is live. -/
def view (memory : Memory) (object : Object) : MmapDbnReader where
  map := object.map.bytes memory
  cursor := object.cursor
  version := object.version
  failed := object.failed
  stats := object.stats

/-- The implicit move constructor: the new object, and what becomes of the other. -/
def moveConstruct (other : Object) : Object × Object :=
  let (map, emptied) := other.map.moveConstruct
  ({ map, cursor := other.cursor, version := other.version,
     failed := other.failed, stats := other.stats },
    { map := emptied, cursor := other.cursor, version := other.version,
      failed := other.failed, stats := other.stats })

/-- A move that is safe on both sides: what arrives is observed as the source would
have been, and what stays behind keeps the invariant and can still be called. -/
structure MovesSafely (memory : Memory) (object : Object) : Prop where
  arrives : ∀ count,
    (Reader.mapped (object.moveConstruct.1.view memory)).calls count =
      (Reader.mapped (object.view memory)).calls count
  invariant : (object.moveConstruct.2.view memory).Valid
  next : ∃ answer, (object.moveConstruct.2.view memory).next = .ok answer

theorem moved_valid_iff :
    (object.moveConstruct.2.view memory).Valid ↔ object.cursor = 0 :=
  Nat.le_zero

theorem movesSafely_iff : object.MovesSafely memory ↔ object.cursor = 0 := by
  constructor
  · intro safe
    exact moved_valid_iff.mp safe.invariant
  · intro beginning
    have valid : (object.moveConstruct.2.view memory).Valid :=
      moved_valid_iff.mpr beginning
    obtain ⟨answer, called, _⟩ := next_replays valid
    exact {
      arrives := fun _ => rfl
      invariant := valid
      next := ⟨answer, called⟩ }

theorem moved_faults (consumed : object.cursor ≠ 0) :
    (object.moveConstruct.2.view memory).next = .error (.fault .subspan) :=
  next_fault (Nat.pos_of_ne_zero consumed)

end Object

/-- With a `size_t` of more than 32 bits the cursor is behind the header at all
times. -/
theorem Reached.cursor_ge_eight {width : Nat} (wider : 32 < width)
    {file : Bytes} {reader : MmapDbnReader}
    (reached : Reached width file reader) : 8 ≤ reader.cursor := by
  apply reached.cursor_ge
  intro reader built
  rw [(cursor_of_construct (prologue_lt_of_wider wider file) built).2]
  exact Nat.le_add_right 8 _

end MmapDbnReader

/-- The file with one frame, mapped at some address. -/
def oneFrameMemory : Memory :=
  fun address => Setup.oneFrameFile.getD (address - 16) 0

/-- A reader of that file as its constructor leaves it. -/
def oneFrameObject : MmapDbnReader.Object where
  map := { data := some 16, size := 12 }
  cursor := 8
  version := 1

/-- In every state reached by construction and calls, an assembler moves safely
exactly when it has handed out no record since the last append, and a mapped reader
exactly when its cursor is at the beginning of its file, which with a `size_t` of
more than 32 bits it never is. -/
theorem moves_safely_iff (width : Nat) :
    (∀ calls pulls assembler,
      RecordAssembler.callAll calls {} = .ok (pulls, assembler) →
        (assembler.MovesSafely ↔
          RecordAssembler.sinceAppend [] calls pulls = [])) ∧
    ∀ file memory (object : MmapDbnReader.Object),
      MmapDbnReader.Reached width file (object.view memory) →
        (object.MovesSafely memory ↔ object.cursor = 0) ∧
        (32 < width → ¬ object.MovesSafely memory) := by
  constructor
  · intro calls pulls assembler called
    have fresh : RecordAssembler.HandedOut {} [] := {
      valid := RecordAssembler.valid_empty
      framed := by simp
      consumed := rfl }
    rw [RecordAssembler.movesSafely_iff]
    exact (fresh.callAll called).readPos_eq_zero_iff
  · intro file memory object reached
    refine ⟨MmapDbnReader.Object.movesSafely_iff, ?_⟩
    intro wider safe
    have behind : 8 ≤ object.cursor := reached.cursor_ge_eight wider
    have beginning := MmapDbnReader.Object.movesSafely_iff.mp safe
    omega

/-- An assembler that holds a record it has not handed out yet, and a mapped reader
that has framed nothing yet. -/
theorem moves_safely_iff_sample :
    (∃ pulls assembler,
      RecordAssembler.callAll [.append [1, 0x20, 0, 0]] {} =
        .ok (pulls, assembler) ∧
      (assembler.MovesSafely ↔
        RecordAssembler.sinceAppend [] [.append [1, 0x20, 0, 0]] pulls = [])) ∧
    ¬ oneFrameObject.MovesSafely oneFrameMemory := by
  have called : RecordAssembler.callAll [.append [1, 0x20, 0, 0]] {} =
      .ok ([], { buf := [1, 0x20, 0, 0], readPos := 0 }) := rfl
  have reached : MmapDbnReader.Reached 64 Setup.oneFrameFile
      (oneFrameObject.view oneFrameMemory) := .start rfl
  have both := moves_safely_iff 64
  exact ⟨⟨_, _, called, both.1 _ _ _ called⟩,
    (both.2 _ _ _ reached).2 (by decide)⟩

/-- Once the record is handed out the assembler does not move safely, and a mapped
reader does not from its construction on. -/
theorem not_moves_safely_consumed :
    (∃ pulls assembler,
      RecordAssembler.callAll [.append [1, 0x20, 0, 0], .next] {} =
        .ok (pulls, assembler) ∧
      ¬ assembler.MovesSafely ∧
      assembler.moveConstruct.2.next = .error (.fault .subspan)) ∧
    MmapDbnReader.construct 64 Setup.oneFrameFile =
      .ok (oneFrameObject.view oneFrameMemory) ∧
    ¬ oneFrameObject.MovesSafely oneFrameMemory ∧
    (oneFrameObject.moveConstruct.2.view oneFrameMemory).next =
      .error (.fault .subspan) := by
  refine ⟨⟨_, _, rfl, ?_, ?_⟩, rfl, ?_, ?_⟩
  · intro safe
    exact absurd (RecordAssembler.movesSafely_iff.mp safe) (by decide)
  · exact (RecordAssembler.moved_faults (by decide)).2.1
  · intro safe
    exact absurd (MmapDbnReader.Object.movesSafely_iff.mp safe) (by decide)
  · exact MmapDbnReader.Object.moved_faults (by decide)

end TradingSim
