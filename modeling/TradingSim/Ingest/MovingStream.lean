import TradingSim.Ingest.EndOfStream
import TradingSim.Ingest.Moving

/-!
# Moving the streaming reader

`DbnReader` is moved member by member like its assembler: its file stream, its
buffer and its scratch buffer leave, and its read position, flag and counters stay.
Without a scratch buffer nothing is read any more, so what stays behind has either
come to a quiet end or steps outside its buffer at once.
-/

namespace TradingSim

open Foundation

/-- The implicit move constructor: the stream goes along, and what is left behind
is closed, in whatever state the library leaves it. -/
def FileByteSource.moveConstruct (other : FileByteSource) (left : IfStream) :
    FileByteSource × FileByteSource :=
  (other, ⟨{ left with rest := [] }⟩)

namespace DbnReader

variable {reader : DbnReader} {left : IfStream}

/-- The implicit move constructor: the new object, and what becomes of the other. -/
def moveConstruct (other : DbnReader) (left : IfStream) : DbnReader × DbnReader :=
  let (source, closed) := other.source.moveConstruct left
  let (assembler, emptied) := other.assembler.moveConstruct
  ({ source, assembler, scratch := other.scratch, version := other.version,
     failed := other.failed, stats := other.stats },
    { source := closed, assembler := emptied, scratch := [],
      version := other.version, failed := other.failed, stats := other.stats })

/-- A move that is safe on both sides: what arrives answers every call as the
source would have, and what stays behind can be called any number of times and has
nothing to hand back. -/
structure MovesSafely (reader : DbnReader) (left : IfStream) : Prop where
  arrives : ∀ count,
    (Reader.streaming (reader.moveConstruct left).1).calls count =
      (Reader.streaming reader).calls count
  invariant : (reader.moveConstruct left).2.Valid
  quiet : ∀ count, ∃ last,
    (Reader.streaming (reader.moveConstruct left).2).calls count =
      .ok (List.replicate count ⟨none, reader.failed, reader.stats⟩, last)

theorem moved_valid_iff :
    (reader.moveConstruct left).2.Valid ↔ reader.assembler.readPos = 0 :=
  Nat.le_zero

theorem moved_faults (consumed : reader.assembler.readPos ≠ 0) :
    (reader.moveConstruct left).2.next = .error (.fault .subspan) := by
  have faults := (RecordAssembler.moved_faults consumed).2.1
  have stuck : (reader.moveConstruct left).2.pass = .error (.fault .subspan) := by
    rw [pass, moveConstruct, faults]
    rfl
  exact Loop.run_error stuck

theorem moved_unread (reader : DbnReader) (left : IfStream) :
    (Reader.streaming (reader.moveConstruct left).2).unread = [] := by
  simp [Reader.unread, unread, moveConstruct, RecordAssembler.moveConstruct,
    RecordAssembler.unconsumed]

theorem moved_quiet (valid : (reader.moveConstruct left).2.Valid)
    (count : Nat) : ∃ last,
      (Reader.streaming (reader.moveConstruct left).2).calls count =
        .ok (List.replicate count ⟨none, reader.failed, reader.stats⟩, last) := by
  have running := Reader.Valid.running
    (show (Reader.streaming (reader.moveConstruct left).2).Valid from valid)
  have ended : (Reader.streaming (reader.moveConstruct left).2).replay.next =
      (none, (Reader.streaming (reader.moveConstruct left).2).replay) := by
    have nothing : dbnFramer.IsTail [] := Framer.isTail_of_short rfl
    rw [Reader.replay, moved_unread, Replay.next_of_isTail nothing,
      Replay.failedAt, frameVerdict_nil, decide_eq_false (by simp),
      Bool.or_false]
  obtain ⟨last, called, _⟩ := (Reader.refines _ _).calls_of_fixed
    Reader.observe_replay running ended count
  exact ⟨last, called⟩

theorem movesSafely_iff :
    reader.MovesSafely left ↔ reader.assembler.readPos = 0 := by
  constructor
  · intro safe
    exact moved_valid_iff.mp safe.invariant
  · intro beginning
    have valid : (reader.moveConstruct left).2.Valid :=
      moved_valid_iff.mpr beginning
    exact {
      arrives := fun _ => rfl
      invariant := valid
      quiet := moved_quiet valid }

/-- A call that hands back an event has just consumed its record. -/
theorem readPos_of_event (valid : reader.Valid) {event : Event}
    {after : DbnReader} (called : reader.next = .ok (some event, after)) :
    4 ≤ after.assembler.readPos := by
  apply Loop.run_returned Valid
    (fun _ result => result.1.isSome → 4 ≤ result.2.assembler.readPos)
    _ _ valid called rfl
  · intro reader result valid done
    cases PassStep.of_pass valid done with
    | emitted verdict counted =>
        intro _
        have bounds := (frame_size_bounds verdict).1
        simp only [consumed]
        omega
    | exhausted verdict spent => simp
    | stopped verdict => simp
  · intro reader next valid again
    exact ⟨(replays_of_again valid again).1, fun _ => id⟩

/-- A constructed reader has consumed nothing yet. -/
theorem readPos_of_opened {file : Bytes} {chunkSize : Nat}
    {script : Nat → ReadOutcome}
    (opens : (Setup.streaming chunkSize script).Opens file (.streaming reader)) :
    reader.assembler.readPos = 0 := by
  obtain ⟨fuel, built⟩ := opens
  obtain ⟨inner, returned, wrapped⟩ := Checked.bind_eq_ok.mp built
  cases wrapped
  rw [(construct_returned returned).2.1.assembler]

/-- A streaming reader can be moved at any time for the sake of what arrives.  What
stays behind can be touched again exactly when no record is in front of the read
position: it then has nothing to hand back, however often it is asked, and steps
outside its buffer otherwise.  That is so before the first call, and never right
after an event. -/
theorem stream_moves_safely {file : Bytes} {chunkSize : Nat}
    {script : Nat → ReadOutcome}
    (opens : (Setup.streaming chunkSize script).Opens file (.streaming reader))
    (count : Nat) :
    ∃ observations last,
      (Reader.streaming reader).calls count =
        .ok (observations, .streaming last) ∧
      (∀ left, last.MovesSafely left ↔ last.assembler.readPos = 0) ∧
      (∀ left, ¬ last.MovesSafely left →
        (last.moveConstruct left).2.next = .error (.fault .subspan) ∧
        ∀ later, (Reader.streaming (last.moveConstruct left).1).calls later =
          (Reader.streaming last).calls later) ∧
      (count = 0 → ∀ left, last.MovesSafely left) ∧
      ∀ event after, last.next = .ok (some event, after) →
        ∀ left, ¬ after.MovesSafely left := by
  have running := opens.opened.valid.running
  obtain ⟨observations, stop, called, kept, _⟩ :=
    (Reader.refines _ _).calls Reader.observe_replay count running
  obtain ⟨last, rfl⟩ := Reader.calls_streaming called
  refine ⟨observations, last, called, fun _ => movesSafely_iff, ?_, ?_, ?_⟩
  · intro left strands
    rw [movesSafely_iff] at strands
    exact ⟨moved_faults strands, fun _ => rfl⟩
  · rintro rfl left
    cases called
    exact movesSafely_iff.mpr (readPos_of_opened opens)
  · intro event after handedBack left safe
    have consumed := readPos_of_event kept.valid handedBack
    have beginning := movesSafely_iff.mp safe
    omega

/-- A reader of the file with one frame, moved behind that frame. -/
theorem stream_moves_safely_sample : ∃ reader last : DbnReader,
    (Setup.streaming 4 (shortReads fun _ => 12)).Opens Setup.oneFrameFile
      (.streaming reader) ∧
    (∃ observations, (Reader.streaming reader).calls 1 =
      .ok (observations, .streaming last)) ∧
    ∀ left, ¬ last.MovesSafely left ∧
      (last.moveConstruct left).2.next = .error (.fault .subspan) := by
  have opens : (Setup.streaming 4 (shortReads fun _ => 12)).Opens
      Setup.oneFrameFile (.streaming _) := ⟨1, rfl⟩
  obtain ⟨observations, last, called, exactly, strands, _⟩ :=
    stream_moves_safely opens 1
  cases called
  refine ⟨_, _, opens, ⟨_, rfl⟩, ?_⟩
  intro left
  have stranded := mt (exactly left).mp (by decide)
  exact ⟨stranded, (strands left stranded).1⟩

end DbnReader

end TradingSim
