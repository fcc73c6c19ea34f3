import TradingSim.Ingest.Accounting
import TradingSim.Ingest.CleanStop
import TradingSim.Ingest.Safety

/-!
# Bounded memory

An assembler used alone grows with whatever is appended to it.  The streaming
reader appends only when what is left in the buffer is less than a record, and
each append reclaims everything in front of that, so its buffer never holds more
than a chunk and an incomplete record.
-/

namespace TradingSim

open Foundation

/-- Too little of a record to frame it: fewer than two bytes, or fewer than the
first of them announces. -/
def NeedsMore (held : Bytes) : Prop :=
  held.length < 2 ∨
    ∃ length rest, held = length :: rest ∧ held.length < 4 * length.toNat

theorem needsMore_of_short {held : Bytes} (short : frameVerdict held = .short) :
    NeedsMore held := by
  match held with
  | [] => exact .inl (by simp)
  | [byte] => exact .inl (by simp)
  | length :: rtype :: rest =>
      right
      refine ⟨length, rtype :: rest, rfl, ?_⟩
      rw [frameVerdict_cons] at short
      split at short
      next => cases short
      next =>
        split at short
        next few => exact few
        next => cases short

/-- No record is announced to be longer than 1020 bytes. -/
theorem NeedsMore.length_le {held : Bytes} (needs : NeedsMore held) :
    held.length ≤ 1019 := by
  rcases needs with few | ⟨length, rest, _, few⟩
  · omega
  · have bound : length.toNat < 256 := length.toNat_lt
    omega

/-- An assembler asks for more only while it holds too little of a record, and is
left as it was. -/
theorem RecordAssembler.short_of_needMore {assembler after : RecordAssembler}
    {pull : Pull} (valid : assembler.Valid)
    (called : assembler.next = .ok (pull, after))
    (dry : pull.status = .needMore) :
    frameVerdict assembler.unconsumed = .short ∧ after = assembler := by
  cases verdict : frameVerdict assembler.unconsumed with
  | frame size =>
      rw [next_of_frame valid verdict] at called
      cases called
      cases dry
  | short =>
      rw [next_of_short valid verdict] at called
      cases called
      exact ⟨rfl, rfl⟩
  | corrupt =>
      rw [next_of_corrupt valid verdict] at called
      cases called
      cases dry

namespace DbnReader

variable {reader : DbnReader}

/-! ## How much is held -/

/-- The buffer holds at most a chunk behind an incomplete record. -/
structure Bounded (chunkSize : Nat) (reader : DbnReader) : Prop where
  valid : reader.Valid
  chunk : reader.scratch.length = chunkSize
  bound : reader.assembler.buf.length ≤ chunkSize + 1019

variable {chunkSize : Nat}

theorem Bounded.consumed (bounded : Bounded chunkSize reader) {size : Nat}
    (verdict : frameVerdict reader.assembler.unconsumed = .frame size)
    (stats : IngestStats) : Bounded chunkSize (reader.consumed size stats) where
  valid := valid_consumed bounded.valid verdict stats
  chunk := bounded.chunk
  bound := bounded.bound

/-- A refill reclaims everything but the incomplete record in front of the new
chunk. -/
theorem Bounded.refilled (bounded : Bounded chunkSize reader)
    (verdict : frameVerdict reader.assembler.unconsumed = .short) :
    Bounded chunkSize reader.refilled where
  valid := valid_refilled reader
  chunk := (scratch_length_refilled reader).trans bounded.chunk
  bound := by
    have left := (needsMore_of_short verdict).length_le
    have delivered := reader.source.count_le_size reader.scratch.length
    have room := bounded.chunk
    simp only [DbnReader.refilled, List.length_append, List.length_take]
    omega

/-! ## What is held -/

variable {file : Bytes} {used : List Bytes}

/-- Consuming a frame moves it from what is held to what is used up. -/
theorem accounts_consumed
    (accounts : Reader.Accounts file (.streaming reader) used)
    (valid : reader.Valid) {size : Nat}
    (verdict : frameVerdict reader.assembler.unconsumed = .frame size)
    {event : Option Event} {stats : IngestStats}
    (counted : tally reader.stats
      (route (reader.assembler.unconsumed.take size)) = (event, stats)) :
    Reader.Accounts file (.streaming (reader.consumed size stats))
      (used ++ [reader.assembler.unconsumed.take size]) where
  framed := by
    intro record member
    rcases List.mem_append.mp member with old | new
    · exact accounts.framed record old
    · rw [List.mem_singleton.mp new]
      exact Framer.isFrame_take verdict
  region := by
    have view := (RecordAssembler.consume_frame valid verdict).2
    rw [accounts.region]
    simp only [Reader.held, Reader.pending, DbnReader.consumed, view,
      List.flatten_append, List.flatten_singleton, List.append_assoc]
    rw [← List.append_assoc (List.take size _), List.take_append_drop]
  stats := by
    have before : reader.stats = Replay.count {} used := accounts.stats
    rw [Replay.count_append, ← before, Replay.count_cons, counted]
    rfl

/-- A read moves bytes from what is pending to what is held. -/
theorem accounts_refilled
    (accounts : Reader.Accounts file (.streaming reader) used) :
    Reader.Accounts file (.streaming reader.refilled) used where
  framed := accounts.framed
  region := by
    have rest : reader.refilled.source.rest =
        reader.source.rest.drop (reader.source.count reader.scratch.length) :=
      FileByteSource.rest_after _ _
    have held : reader.refilled.assembler.unconsumed =
        reader.assembler.unconsumed ++
          reader.source.rest.take
            (reader.source.count reader.scratch.length) := rfl
    rw [accounts.region]
    simp only [Reader.held, Reader.pending, rest, held, List.append_assoc,
      List.take_append_drop]
  stats := accounts.stats

theorem accounts_exhausted
    (accounts : Reader.Accounts file (.streaming reader) used)
    (spent : reader.source.count reader.scratch.length = 0) :
    Reader.Accounts file (.streaming reader.exhausted) used where
  framed := accounts.framed
  region := by
    have rest : reader.exhausted.source.rest = reader.source.rest := by
      rw [exhausted, FileByteSource.rest_after, spent, List.drop_zero]
    rw [accounts.region]
    simp only [Reader.held, Reader.pending, rest]
    rfl
  stats := accounts.stats

/-! ## Every state -/

/-- What holds whenever a pass begins. -/
structure Settled (file : Bytes) (chunkSize : Nat) (reader : DbnReader) :
    Prop where
  bounded : Bounded chunkSize reader
  accounts : ∃ used, Reader.Accounts file (.streaming reader) used

theorem settled_opened {script : Nat → ReadOutcome} {fuel : Nat}
    (built : construct fuel (.onFile file script) chunkSize = .ok reader) :
    Settled file chunkSize reader := by
  have opens : (Setup.streaming chunkSize script).Opens file
      (.streaming reader) := ⟨fuel, by rw [Setup.construct, built]; rfl⟩
  have fresh := (construct_returned built).2.1
  have valid : reader.Valid := opens.opened.valid
  exact {
    bounded := {
      valid := valid
      chunk := fresh.chunk
      bound := by simp [fresh.assembler] }
    accounts := ⟨[], Reader.accounts_opened opens⟩ }

theorem Settled.pass (settled : Settled file chunkSize reader)
    {outcome : Pass DbnReader (Option Event × DbnReader)}
    (passed : reader.pass = .ok outcome) :
    match outcome with
    | .again next => Settled file chunkSize next
    | .done (_, next) => Settled file chunkSize next := by
  have bounded := settled.bounded
  obtain ⟨used, accounts⟩ := settled.accounts
  cases PassStep.of_pass bounded.valid passed with
  | emitted verdict counted =>
      exact {
        bounded := bounded.consumed verdict _
        accounts := ⟨_, accounts_consumed accounts bounded.valid verdict counted⟩ }
  | skipped verdict counted =>
      exact {
        bounded := bounded.consumed verdict _
        accounts := ⟨_, accounts_consumed accounts bounded.valid verdict counted⟩ }
  | refilled verdict delivers =>
      exact {
        bounded := bounded.refilled verdict
        accounts := ⟨used, accounts_refilled accounts⟩ }
  | exhausted verdict spent =>
      exact {
        bounded := { bounded with
          chunk := (scratch_length_exhausted reader).trans bounded.chunk }
        accounts := ⟨used, accounts_exhausted accounts spent⟩ }
  | stopped verdict =>
      exact {
        bounded := { bounded with }
        accounts := ⟨used, { accounts with }⟩ }

theorem Reached.settled {script : Nat → ReadOutcome}
    (reached : Reached file chunkSize script reader) :
    Settled file chunkSize reader := by
  apply Loop.Reached.invariant _ _ _ reached
  · intro reader opened
    obtain ⟨fuel, built⟩ := opened
    exact settled_opened built
  · intro reader next settled again
    exact settled.pass again
  · intro reader next event settled done
    exact settled.pass done

/-- In every state in which a pass of `next` begins, the buffer holds at most a
chunk and 1019 bytes, and the record region is the records taken so far, the
bytes held and the bytes to come.  Whenever the pass then asks the source for
more, less than a record is held, and the append keeps exactly that. -/
theorem memory_bounded {script : Nat → ReadOutcome}
    (reached : Reached file chunkSize script reader) :
    reader.assembler.buf.length ≤ chunkSize + 1019 ∧
    (∃ used, (∀ record ∈ used, dbnFramer.IsFrame record) ∧
      recordRegion file = used.flatten ++ reader.assembler.unconsumed ++
        reader.source.rest ∧
      reader.stats = Replay.count {} used) ∧
    ∀ pull assembler, reader.assembler.next = .ok (pull, assembler) →
      pull.status = .needMore →
      assembler = reader.assembler ∧ NeedsMore assembler.unconsumed ∧
        assembler.unconsumed.length ≤ 1019 ∧
        ∀ chunk, assembler.append chunk =
          .ok { buf := assembler.unconsumed ++ chunk, readPos := 0 } := by
  have settled := reached.settled
  have valid := settled.bounded.valid
  refine ⟨settled.bounded.bound, ?_, ?_⟩
  · obtain ⟨used, accounts⟩ := settled.accounts
    exact ⟨used, accounts.framed, accounts.region, accounts.stats⟩
  · intro pull assembler called dry
    obtain ⟨short, rfl⟩ := RecordAssembler.short_of_needMore valid called dry
    have needs := needsMore_of_short short
    exact ⟨rfl, needs, needs.length_le, RecordAssembler.append_eq valid⟩

/-- A scratch buffer of one byte holds the whole of a record all the same. -/
theorem memory_bounded_sample :
    ∃ reader, Reached Setup.oneFrameFile 1 (shortReads fun _ => 1) reader ∧
      reader.assembler.buf = recordRegion Setup.oneFrameFile ∧
      reader.stats.records = 1 ∧
      reader.assembler.buf.length ≤ 1020 := by
  have opened : Reached Setup.oneFrameFile 1 (shortReads fun _ => 1) _ :=
    .start ⟨20, rfl⟩
  have one := opened.again rfl
  have two := one.again rfl
  have three := two.again rfl
  have four := three.again rfl
  have skipped := four.again rfl
  exact ⟨_, skipped, rfl, rfl, (memory_bounded skipped).1⟩

end DbnReader

end TradingSim
