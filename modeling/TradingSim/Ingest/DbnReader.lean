import TradingSim.Foundation.Loop
import TradingSim.Ingest.Assembler
import TradingSim.Ingest.Replay
import TradingSim.Ingest.Source

/-!
# The streaming reader

`DbnReader` drives a byte source and a record assembler until it can hand back
one event.  Its two loops and the loop of its constructor are given by their
bodies; `variant` bounds the passes of `next`, and the constructor takes the
number of passes its metadata loop may use, since nothing else bounds them.
-/

namespace TradingSim

open Foundation

structure DbnReader where
  source : FileByteSource
  assembler : RecordAssembler := {}
  scratch : Bytes
  version : UInt8 := 0
  failed : Bool := false
  stats : IngestStats := {}

namespace DbnReader

/-- The default read chunk, 64 KiB. -/
def defaultChunkSize : Nat := 64 * 1024

/-- A buffer being filled from a source. -/
structure Filling where
  total : Nat
  dst : Bytes
  source : FileByteSource

def readFullyPass (filling : Filling) : Ingest (Pass Filling Filling) :=
  if filling.total < filling.dst.length then do
    let room ← Span.subspan filling.dst filling.total
    let (n, room, source) := filling.source.read room
    let dst := filling.dst.take filling.total ++ room
    if n = 0 then .ok (.done { filling with dst, source })
    else .ok (.again { total := filling.total + n, dst, source })
  else .ok (.done filling)

/-- Read until `dst` is full or the source delivers nothing. -/
def readFully (source : FileByteSource) (dst : Bytes) : Ingest Filling :=
  Loop.run readFullyPass (source.rest.length + 1) ⟨0, dst, source⟩

/-- The metadata being discarded through the scratch buffer. -/
structure Skipping where
  remaining : Nat
  scratch : Bytes
  source : FileByteSource

def skipMetadataPass (skipping : Skipping) : Ingest (Pass Skipping Skipping) :=
  if skipping.remaining > 0 then do
    let want := min skipping.remaining skipping.scratch.length
    let room ← Span.first skipping.scratch want
    let filling ← readFully skipping.source room
    let got := filling.total
    let scratch := filling.dst ++ skipping.scratch.drop want
    if got ≠ want then Ingest.throw .truncatedMetadata
    else
      let remaining ← Span.difference skipping.remaining got
      .ok (.again { remaining, scratch, source := filling.source })
  else .ok (.done skipping)

def skipPrologue (fuel : Nat) (reader : DbnReader) : Ingest DbnReader := do
  let header ← readFully reader.source (List.replicate 8 0)
  if header.total ≠ header.dst.length then Ingest.throw .truncatedHeader
  else
    let (version, metadataLen) ← checkHeader header.dst
    let skipped ← Loop.run skipMetadataPass fuel
      ⟨metadataLen.toNat, reader.scratch, header.source⟩
    .ok { reader with
      source := skipped.source, scratch := skipped.scratch, version }

/-- The constructor, over an open source. -/
def construct (fuel : Nat) (source : FileByteSource)
    (chunkSize : Nat := defaultChunkSize) : Ingest DbnReader :=
  skipPrologue fuel { source, scratch := List.replicate chunkSize 0 }

/-- One pass of the loop in `next`. -/
def pass (reader : DbnReader) :
    Ingest (Pass DbnReader (Option Event × DbnReader)) := do
  let (p, assembler) ← reader.assembler.next
  let reader := { reader with assembler }
  match p.status with
  | .record => do
      let routed ← routeRecord p.record
      let (event, stats) := tally reader.stats routed
      .ok (deliver event { reader with stats })
  | .needMore => do
      let (n, scratch, source) := reader.source.read reader.scratch
      let reader := { reader with scratch, source }
      if n = 0 then .ok (.done (none, reader))
      else do
        let chunk ← Span.first scratch n
        let assembler ← reader.assembler.append chunk
        .ok (.again { reader with assembler })
  | .corrupt => .ok (.done (none, { reader with failed := true }))

/-- What every further pass uses up: a refill moves bytes out of the source,
which weigh two, into the buffer, where they weigh one. -/
def variant (reader : DbnReader) : Nat :=
  2 * reader.source.rest.length +
    (reader.assembler.buf.length - reader.assembler.readPos)

def next (reader : DbnReader) : Ingest (Option Event × DbnReader) :=
  Loop.run pass (reader.variant + 1) reader

/-! ## The passes of `next` -/

/-- The class invariant. -/
def Valid (reader : DbnReader) : Prop := reader.assembler.Valid

/-- The record bytes the reader will still see. -/
def unread (reader : DbnReader) : Bytes :=
  reader.assembler.unconsumed ++ reader.source.supply reader.scratch.length

/-- The bytes of the file the reader will never be given. -/
def lost (reader : DbnReader) : Bytes :=
  reader.source.lost reader.scratch.length

/-- The replay a reader is in the middle of. -/
def replay (reader : DbnReader) : Replay :=
  .ofStream reader.unread reader.failed reader.stats

variable {reader : DbnReader}

/-- The reader after consuming a frame and counting it. -/
def consumed (reader : DbnReader) (size : Nat) (stats : IngestStats) :
    DbnReader :=
  { reader with
    assembler :=
      { reader.assembler with readPos := reader.assembler.readPos + size }
    stats }

theorem pass_of_frame (valid : reader.Valid) {size : Nat}
    (verdict : frameVerdict reader.assembler.unconsumed = .frame size)
    {event : Option Event} {stats : IngestStats}
    (counted : tally reader.stats
      (route (reader.assembler.unconsumed.take size)) = (event, stats)) :
    reader.pass = .ok (deliver event (reader.consumed size stats)) := by
  have bounds := frame_size_bounds verdict
  have framed : 2 ≤ (reader.assembler.unconsumed.take size).length := by
    rw [List.length_take_of_le bounds.2.2]
    omega
  simp only [pass, RecordAssembler.next_of_frame valid verdict,
    Checked.ok_bind, routeRecord_eq framed, counted, consumed]

/-- The reader after a refill. -/
def refilled (reader : DbnReader) : DbnReader :=
  let n := reader.source.count reader.scratch.length
  { reader with
    source := reader.source.after reader.scratch.length
    scratch := reader.source.filled reader.scratch
    assembler := {
      buf := reader.assembler.unconsumed ++ reader.source.rest.take n
      readPos := 0 } }

/-- The reader after a read that delivered nothing. -/
def exhausted (reader : DbnReader) : DbnReader :=
  { reader with
    source := reader.source.after reader.scratch.length
    scratch := reader.source.filled reader.scratch }

theorem pass_of_short (valid : reader.Valid)
    (verdict : frameVerdict reader.assembler.unconsumed = .short) :
    reader.pass = .ok
      (if reader.source.count reader.scratch.length = 0 then
        .done (none, reader.exhausted)
      else .again reader.refilled) := by
  simp only [pass, RecordAssembler.next_of_short valid verdict,
    Checked.ok_bind, FileByteSource.read_eq]
  by_cases spent : reader.source.count reader.scratch.length = 0
  · simp [spent, exhausted]
  · have chunk := reader.source.take_filled reader.scratch
    rw [if_neg spent, if_neg spent, Span.first_of_le, chunk]
    · simp [RecordAssembler.append_eq valid, refilled]
    · rw [FileByteSource.length_filled]
      exact reader.source.count_le_size reader.scratch.length

theorem pass_of_corrupt (valid : reader.Valid)
    (verdict : frameVerdict reader.assembler.unconsumed = .corrupt) :
    reader.pass = .ok (.done (none, { reader with failed := true })) := by
  simp only [pass, RecordAssembler.next_of_corrupt valid verdict,
    Checked.ok_bind]

/-- What a pass of `next` comes to. -/
inductive PassStep (reader : DbnReader) :
    Pass DbnReader (Option Event × DbnReader) → Prop where
  | emitted {size : Nat} {event : Event} {stats : IngestStats}
      (verdict : frameVerdict reader.assembler.unconsumed = .frame size)
      (counted : tally reader.stats
        (route (reader.assembler.unconsumed.take size)) = (some event, stats)) :
      PassStep reader (.done (some event, reader.consumed size stats))
  | skipped {size : Nat} {stats : IngestStats}
      (verdict : frameVerdict reader.assembler.unconsumed = .frame size)
      (counted : tally reader.stats
        (route (reader.assembler.unconsumed.take size)) = (none, stats)) :
      PassStep reader (.again (reader.consumed size stats))
  | refilled (verdict : frameVerdict reader.assembler.unconsumed = .short)
      (delivers : reader.source.count reader.scratch.length ≠ 0) :
      PassStep reader (.again reader.refilled)
  | exhausted (verdict : frameVerdict reader.assembler.unconsumed = .short)
      (spent : reader.source.count reader.scratch.length = 0) :
      PassStep reader (.done (none, reader.exhausted))
  | stopped (verdict : frameVerdict reader.assembler.unconsumed = .corrupt) :
      PassStep reader (.done (none, { reader with failed := true }))

theorem pass_step (valid : reader.Valid) :
    ∃ outcome, reader.pass = .ok outcome ∧ PassStep reader outcome := by
  cases verdict : frameVerdict reader.assembler.unconsumed with
  | frame size =>
      cases counted : tally reader.stats
          (route (reader.assembler.unconsumed.take size)) with
      | mk event stats =>
          refine ⟨_, pass_of_frame valid verdict counted, ?_⟩
          cases event with
          | some event => exact .emitted verdict counted
          | none => exact .skipped verdict counted
  | short =>
      refine ⟨_, pass_of_short valid verdict, ?_⟩
      split
      next spent => exact .exhausted verdict spent
      next delivers => exact .refilled verdict delivers
  | corrupt => exact ⟨_, pass_of_corrupt valid verdict, .stopped verdict⟩

theorem PassStep.of_pass (valid : reader.Valid)
    {outcome : Pass DbnReader (Option Event × DbnReader)}
    (passed : reader.pass = .ok outcome) : PassStep reader outcome := by
  obtain ⟨other, same, step⟩ := pass_step valid
  rw [passed] at same
  cases same
  exact step

@[simp] theorem scratch_length_refilled (reader : DbnReader) :
    reader.refilled.scratch.length = reader.scratch.length :=
  reader.source.length_filled reader.scratch

@[simp] theorem scratch_length_exhausted (reader : DbnReader) :
    reader.exhausted.scratch.length = reader.scratch.length :=
  reader.source.length_filled reader.scratch

theorem valid_refilled (reader : DbnReader) : reader.refilled.Valid :=
  Nat.zero_le _

/-- A refill changes where the unread bytes are, not which they are. -/
theorem unread_refilled
    (delivers : reader.source.count reader.scratch.length ≠ 0) :
    reader.refilled.unread = reader.unread := by
  rw [unread, scratch_length_refilled, unread,
    FileByteSource.supply_of_pos delivers, ← List.append_assoc]
  rfl

theorem lost_refilled (reader : DbnReader) :
    reader.refilled.lost = reader.lost := by
  rw [lost, scratch_length_refilled, lost,
    ← FileByteSource.lost_after reader.source]
  rfl

theorem lost_exhausted (reader : DbnReader) :
    reader.exhausted.lost = reader.lost := by
  rw [lost, scratch_length_exhausted, lost,
    ← FileByteSource.lost_after reader.source]
  rfl

theorem variant_refilled
    (delivers : reader.source.count reader.scratch.length ≠ 0) :
    reader.refilled.variant < reader.variant := by
  have le := reader.source.count_le_rest reader.scratch.length
  have rest : reader.refilled.source.rest.length =
      reader.source.rest.length -
        reader.source.count reader.scratch.length := by
    rw [← List.length_drop, ← FileByteSource.rest_after]
    rfl
  have held : reader.refilled.assembler.buf.length -
      reader.refilled.assembler.readPos =
        (reader.assembler.buf.length - reader.assembler.readPos) +
          reader.source.count reader.scratch.length := by
    simp only [refilled, RecordAssembler.unconsumed, List.length_append,
      List.length_drop, List.length_take_of_le le, Nat.sub_zero]
  rw [variant, variant, rest, held]
  omega

theorem valid_consumed (valid : reader.Valid) {size : Nat}
    (verdict : frameVerdict reader.assembler.unconsumed = .frame size)
    (stats : IngestStats) : (reader.consumed size stats).Valid :=
  (RecordAssembler.consume_frame valid verdict).1

theorem unread_consumed (valid : reader.Valid) {size : Nat}
    (verdict : frameVerdict reader.assembler.unconsumed = .frame size)
    (stats : IngestStats) :
    (reader.consumed size stats).unread = reader.unread.drop size := by
  have le := (frame_size_bounds verdict).2.2
  have view := (RecordAssembler.consume_frame valid verdict).2
  simp only [unread, consumed, view]
  rw [List.drop_append_of_le_length le]

theorem variant_consumed {size : Nat}
    (verdict : frameVerdict reader.assembler.unconsumed = .frame size)
    (stats : IngestStats) :
    (reader.consumed size stats).variant + 4 ≤ reader.variant := by
  have bounds := frame_size_bounds verdict
  rw [RecordAssembler.unconsumed, List.length_drop] at bounds
  simp only [variant, consumed]
  omega

/-! ## `next` is the replay -/

theorem replay_of_frame (valid : reader.Valid) {size : Nat}
    (verdict : frameVerdict reader.assembler.unconsumed = .frame size)
    {event : Option Event} {stats : IngestStats}
    (counted : tally reader.stats
      (route (reader.assembler.unconsumed.take size)) = (event, stats)) :
    reader.replay.next =
      Replay.resume event (reader.consumed size stats).replay := by
  have le := (frame_size_bounds verdict).2.2
  have view : frameVerdict reader.unread = .frame size :=
    dbnFramer.frame_append verdict _
  have first : reader.unread.take size =
      reader.assembler.unconsumed.take size :=
    List.take_append_of_le_length le
  rw [replay, Replay.next_of_frame view, first, counted, replay,
    unread_consumed valid verdict stats]
  rfl

/-- A read that delivers nothing leaves the replay at its tail. -/
theorem replay_exhausted
    (verdict : frameVerdict reader.assembler.unconsumed = .short)
    (spent : reader.source.count reader.scratch.length = 0) :
    reader.replay.next = (none, reader.exhausted.replay) := by
  have dry : reader.unread = reader.assembler.unconsumed := by
    rw [unread, FileByteSource.supply_of_zero spent, List.append_nil]
  have later : reader.exhausted.source.supply reader.scratch.length = [] :=
    FileByteSource.supply_after_of_zero spent
  have stillDry : reader.exhausted.unread = reader.unread := by
    rw [dry, unread, scratch_length_exhausted, later, List.append_nil]
    rfl
  have isTail : dbnFramer.IsTail reader.unread := by
    rw [dry]
    exact Framer.isTail_of_short verdict
  rw [replay, Replay.next_of_isTail isTail, replay, stillDry, Replay.failedAt,
    dry, verdict]
  simp [exhausted]

/-- A corruption in the view is the replay's tail, whatever is still to come. -/
theorem replay_corrupt
    (verdict : frameVerdict reader.assembler.unconsumed = .corrupt) :
    reader.replay.next =
      (none, ({ reader with failed := true } : DbnReader).replay) := by
  have view : frameVerdict reader.unread = .corrupt :=
    dbnFramer.corrupt_append verdict _
  rw [replay, Replay.next_of_isTail (Framer.isTail_of_corrupt view),
    Replay.failedAt, view]
  simp [replay, unread]

/-- What a call of `next` promises, from the reader before it to its outcome. -/
structure Replays (before : DbnReader) (event : Option Event)
    (after : DbnReader) : Prop where
  valid : after.Valid
  replay : before.replay.next = (event, after.replay)
  lost : after.lost = before.lost
  version : after.version = before.version
  chunk : after.scratch.length = before.scratch.length
  /-- A stop that is not a corruption is a read that delivered nothing. -/
  spent : event = none → after.failed = false →
    after.source.count after.scratch.length = 0

theorem replays_of_done {result : Option Event × DbnReader}
    (valid : reader.Valid) (done : reader.pass = .ok (.done result)) :
    Replays reader result.1 result.2 := by
  cases PassStep.of_pass valid done with
  | emitted verdict counted =>
      exact {
        valid := valid_consumed valid verdict _
        replay := replay_of_frame valid verdict counted
        lost := rfl
        version := rfl
        chunk := rfl
        spent := by simp }
  | exhausted verdict spent =>
      exact {
        valid := valid
        replay := replay_exhausted verdict spent
        lost := lost_exhausted reader
        version := rfl
        chunk := scratch_length_exhausted reader
        spent := by
          intro _ _
          rw [scratch_length_exhausted]
          exact FileByteSource.count_after_of_zero spent }
  | stopped verdict =>
      exact {
        valid := valid
        replay := replay_corrupt verdict
        lost := rfl
        version := rfl
        chunk := rfl
        spent := by simp }

/-- A pass that asks for another one keeps the invariant, makes progress, and
leaves to that other pass exactly what the call promises. -/
theorem replays_of_again {middle : DbnReader} (valid : reader.Valid)
    (again : reader.pass = .ok (.again middle)) :
    middle.Valid ∧ middle.variant < reader.variant ∧
      ∀ event after, Replays middle event after →
        Replays reader event after := by
  cases PassStep.of_pass valid again with
  | @skipped size stats verdict counted =>
      have stepped := replay_of_frame valid verdict counted
      have progress := variant_consumed verdict stats
      refine ⟨valid_consumed valid verdict stats, by omega, ?_⟩
      intro event after replays
      exact { replays with replay := stepped.trans replays.replay }
  | refilled verdict delivers =>
      refine ⟨valid_refilled reader, variant_refilled delivers, ?_⟩
      intro event after replays
      have same : reader.replay = reader.refilled.replay := by
        rw [replay, replay, unread_refilled delivers]
        rfl
      exact {
        valid := replays.valid
        replay := by rw [same, replays.replay]
        lost := replays.lost.trans (lost_refilled reader)
        version := replays.version
        chunk := replays.chunk.trans (scratch_length_refilled reader)
        spent := replays.spent }

theorem pass_ok (valid : reader.Valid) :
    ∃ outcome, reader.pass = .ok outcome := by
  obtain ⟨outcome, passed, _⟩ := pass_step valid
  exact ⟨outcome, passed⟩

/-- Every call of `next` returns, and returns what the replay does. -/
theorem next_replays (valid : reader.Valid) :
    ∃ result, reader.next = .ok result ∧
      Replays reader result.1 result.2 := by
  apply Loop.run_returns Valid variant
    (fun reader result => Replays reader result.1 result.2)
    pass_ok replays_of_done _ valid (Nat.lt_succ_self _)
  intro reader middle valid again
  obtain ⟨kept, lower, handOn⟩ := replays_of_again valid again
  exact ⟨kept, lower, fun result => handOn result.1 result.2⟩

end DbnReader

end TradingSim
