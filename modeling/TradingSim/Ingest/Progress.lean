import TradingSim.Ingest.Accounting
import TradingSim.Ingest.CleanStop
import TradingSim.Ingest.Safety

/-!
# Every call returns

A pass of `next` that asks for another one takes a whole frame out of what is
buffered or mapped, or moves bytes from the source into the buffer.  Neither can
go on for ever, whatever the bytes, the chunk size and the reads, and since a
frame is at least four bytes long, a drain is at most a quarter as long as the
bytes it drains.
-/

namespace TradingSim

open Foundation

namespace DbnReader

variable {reader middle : DbnReader}

/-- A pass took a frame out of the buffer and left the source alone. -/
def TakesFrame (reader middle : DbnReader) : Prop :=
  ∃ record, dbnFramer.IsFrame record ∧ 4 ≤ record.length ∧
    reader.assembler.unconsumed = record ++ middle.assembler.unconsumed ∧
    middle.source = reader.source

/-- A pass moved bytes from the front of the source behind those buffered. -/
def Refills (reader middle : DbnReader) : Prop :=
  ∃ chunk, 1 ≤ chunk.length ∧
    reader.source.rest = chunk ++ middle.source.rest ∧
    middle.assembler.unconsumed = reader.assembler.unconsumed ++ chunk

theorem takesFrame_consumed (valid : reader.Valid) {size : Nat}
    (verdict : frameVerdict reader.assembler.unconsumed = .frame size)
    (stats : IngestStats) : TakesFrame reader (reader.consumed size stats) := by
  have framed : dbnFramer.IsFrame (reader.assembler.unconsumed.take size) :=
    Framer.isFrame_take verdict
  have view := (RecordAssembler.consume_frame valid verdict).2
  refine ⟨_, framed, frame_length_ge framed, ?_, rfl⟩
  rw [consumed, view, List.take_append_drop]

theorem refills_refilled
    (delivers : reader.source.count reader.scratch.length ≠ 0) :
    Refills reader reader.refilled := by
  have le := reader.source.count_le_rest reader.scratch.length
  refine ⟨reader.source.rest.take
    (reader.source.count reader.scratch.length), ?_, ?_, rfl⟩
  · rw [List.length_take_of_le le]
    exact Nat.pos_of_ne_zero delivers
  · have rest : reader.refilled.source.rest =
        reader.source.rest.drop (reader.source.count reader.scratch.length) :=
      FileByteSource.rest_after _ _
    rw [rest, List.take_append_drop]

/-- A pass that asks for another one made progress. -/
theorem progress (valid : reader.Valid)
    (again : reader.pass = .ok (.again middle)) :
    TakesFrame reader middle ∨ Refills reader middle := by
  cases PassStep.of_pass valid again with
  | skipped verdict _ => exact .inl (takesFrame_consumed valid verdict _)
  | refilled _ delivers => exact .inr (refills_refilled delivers)

/-- Every budget above the variant lets `next` return, and return the same. -/
theorem run_pass (valid : reader.Valid) :
    ∃ answer, ∀ fuel, reader.variant < fuel →
      Loop.run pass fuel reader = .ok answer := by
  obtain ⟨answer, called, _⟩ := next_replays valid
  refine ⟨answer, ?_⟩
  intro fuel enough
  exact Loop.run_ok_mono enough called

end DbnReader

namespace MmapDbnReader

variable {reader middle : MmapDbnReader}

/-- A pass took a frame off the front of the bytes behind the cursor. -/
def TakesFrame (reader middle : MmapDbnReader) : Prop :=
  ∃ record, dbnFramer.IsFrame record ∧ 4 ≤ record.length ∧
    reader.unread = record ++ middle.unread

theorem progress (valid : reader.Valid)
    (again : reader.pass = .ok (.again middle)) : TakesFrame reader middle := by
  cases PassStep.of_pass valid again with
  | @skipped size _ verdict _ =>
      have framed : dbnFramer.IsFrame (reader.unread.take size) :=
        Framer.isFrame_take verdict
      refine ⟨_, framed, frame_length_ge framed, ?_⟩
      rw [unread_consumed, List.take_append_drop]

theorem run_pass (valid : reader.Valid) :
    ∃ answer, ∀ fuel, reader.variant < fuel →
      Loop.run pass fuel reader = .ok answer := by
  obtain ⟨answer, called, _⟩ := next_replays valid
  refine ⟨answer, ?_⟩
  intro fuel enough
  exact Loop.run_ok_mono enough called

end MmapDbnReader

/-- A drain of an opened reader hands back at most one event for every four bytes
of the record region. -/
theorem Setup.Opens.drain_bounded {setup : Setup} {file : Bytes}
    {reader : Reader} (opens : setup.Opens file reader) :
    (∃ events last, reader.Drains events last) ∧
      ∀ events last, reader.Drains events last →
        4 * events.length ≤ (recordRegion file).length := by
  obtain ⟨last, drains, _⟩ :=
    Reader.drains_frames opens.opened.valid.running
  refine ⟨⟨_, last, drains⟩, ?_⟩
  intro events last' drains'
  obtain ⟨rfl, _⟩ := Iterator.Drains.deterministic drains' drains
  have some := List.length_filterMap_le emitted (dbnFramer.frames reader.unread)
  have few := four_mul_frames_le reader.unread
  have region := congrArg List.length opens.opened.region
  rw [List.length_append] at region
  omega

/-- A drain of an assembler hands out at most one record for every four bytes it
holds. -/
theorem RecordAssembler.drain_bounded {assembler : RecordAssembler}
    (valid : assembler.Valid) :
    (∃ records status last, Drains assembler records status last) ∧
      ∀ records status last, Drains assembler records status last →
        4 * records.length ≤ assembler.unconsumed.length := by
  obtain ⟨last, drains, _⟩ := drains_frames valid
  refine ⟨⟨_, _, last, drains⟩, ?_⟩
  intro records status last' drains'
  obtain ⟨rfl, _, _⟩ := drains'.deterministic drains
  exact four_mul_frames_le assembler.unconsumed

/-- In every state a reader reaches, `next` returns, and every pass that does not
return takes a whole frame or moves bytes into the buffer; a complete drain hands
back at most a quarter as many events as the record region has bytes, and a drain
of an assembler at most a quarter as many records as it holds bytes. -/
theorem next_returns :
    (∀ file chunkSize script reader,
      DbnReader.Reached file chunkSize script reader →
        (∃ answer, ∀ fuel, reader.variant < fuel →
          Loop.run DbnReader.pass fuel reader = .ok answer) ∧
        ∀ middle, reader.pass = .ok (.again middle) →
          DbnReader.TakesFrame reader middle ∨
            DbnReader.Refills reader middle) ∧
    (∀ width file reader, MmapDbnReader.Reached width file reader →
      (∃ answer, ∀ fuel, reader.variant < fuel →
        Loop.run MmapDbnReader.pass fuel reader = .ok answer) ∧
      ∀ middle, reader.pass = .ok (.again middle) →
        MmapDbnReader.TakesFrame reader middle) ∧
    (∀ (setup : Setup) file reader, setup.Opens file reader →
      (∃ events last, reader.Drains events last) ∧
      ∀ events last, reader.Drains events last →
        4 * events.length ≤ (recordRegion file).length) ∧
    ∀ calls pulls assembler,
      RecordAssembler.callAll calls {} = .ok (pulls, assembler) →
      (∃ records status last,
        RecordAssembler.Drains assembler records status last) ∧
      ∀ records status last,
        RecordAssembler.Drains assembler records status last →
        ∃ held, assembler.buffered = .ok held ∧ 4 * records.length ≤ held := by
  refine ⟨?_, ?_, ?_, ?_⟩
  · intro file chunkSize script reader reached
    refine ⟨DbnReader.run_pass reached.valid, ?_⟩
    intro middle again
    exact DbnReader.progress reached.valid again
  · intro width file reader reached
    refine ⟨MmapDbnReader.run_pass reached.valid, ?_⟩
    intro middle again
    exact MmapDbnReader.progress reached.valid again
  · intro setup file reader opens
    exact opens.drain_bounded
  · intro calls pulls assembler called
    obtain ⟨_, _, same, stretch⟩ :=
      RecordAssembler.stretch_callAll RecordAssembler.valid_empty calls
    rw [called] at same
    cases same
    obtain ⟨drains, bounded⟩ := RecordAssembler.drain_bounded stretch.valid
    refine ⟨drains, ?_⟩
    intro records status last drained
    exact ⟨_, RecordAssembler.buffered_eq stretch.valid,
      bounded records status last drained⟩

/-- Behind a refill and a record that is skipped, where the file ends. -/
theorem next_returns_sample :
    ∃ reader, DbnReader.Reached Setup.oneFrameFile 4 (shortReads fun _ => 4)
        reader ∧
      reader.stats.records = 1 ∧
      (∃ answer, ∀ fuel, reader.variant < fuel →
        Loop.run DbnReader.pass fuel reader = .ok answer) ∧
      ∀ middle, reader.pass = .ok (.again middle) →
        DbnReader.TakesFrame reader middle ∨ DbnReader.Refills reader middle := by
  have opened : DbnReader.Reached Setup.oneFrameFile 4 (shortReads fun _ => 4) _ :=
    .start ⟨1, rfl⟩
  have refilled := opened.again rfl
  have skipped := refilled.again rfl
  exact ⟨_, skipped, rfl, next_returns.1 _ _ _ _ skipped⟩

end TradingSim
