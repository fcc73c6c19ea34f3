import TradingSim.Drivers.ReplayDbn

/-!
# The benchmark driver

`bench_dbn` replays one file in three ways: through `DbnReader`, through a
`RecordAssembler` that is fed slices of the file in memory, and through
`MmapDbnReader`.  It counts what each of them sees, and checks the first count
against the last.  The times it measures are left out; what it counts does not
depend on them.
-/

namespace TradingSim

open Foundation

namespace BenchDbn

/-- `Stats`, without the times. -/
structure Stats where
  events : Nat := 0
  recordBytes : Nat := 0
  deriving DecidableEq, Repr

def usage (argv0 : String) : String :=
  "usage: " ++ argv0 ++ " <file.dbn> [passes=20] [chunk_bytes=65536]\n"

/-- Read an entire file into memory. -/
def slurp (disk : Disk) (path : String) : Checked RuntimeError Bytes :=
  match disk.contents path with
  | some contents => do
      let _ ← disk.buffer contents.length
      .ok contents
  | none => .error (.thrown (.cannotOpen "bench_dbn"))

/-- The offset of the first record. -/
def recordStart (file : Bytes) : Checked RuntimeError Nat :=
  if file.length < 8 then .error (.thrown .badMagic)
  else do
    let magic0 ← Span.get file 0
    let magic1 ← Span.get file 1
    let magic2 ← Span.get file 2
    if magic0 ≠ 0x44 ∨ magic1 ≠ 0x42 ∨ magic2 ≠ 0x4E then
      .error (.thrown .badMagic)
    else
      let metadataLen ← Span.copy (file.drop 4) 4
      .ok (8 + LittleEndian.value metadataLen)

/-- Mode A: the streaming reader over the file. -/
def benchEndToEnd (fuel : Nat) (disk : Disk) (opening : Nat) (path : String)
    (chunk passes : Nat) : Checked RuntimeError Stats :=
  Loop.times (fun p s => do
    let reader ← DbnReader.openPath fuel disk (opening + p) path chunk
    let (events, _) ← (Iterator.consume DbnReader.next (fun events _ => events + 1)
      fuel 0 reader).mapThrown (.refused "DbnReader")
    .ok { s with events }) passes {}

/-- An assembler being fed from memory. -/
structure Feeding where
  assembler : RecordAssembler := {}
  events : Nat := 0
  rbytes : Nat := 0
  offset : Nat := 0
  deriving DecidableEq, Repr

/-- One pass of the loop of mode B: the events and the bytes counted so far are
its result. -/
def feedPass (records : Bytes) (chunk : Nat) (feeding : Feeding) :
    Ingest (Pass Feeding (Nat × Nat)) := do
  let (pull, assembler) ← feeding.assembler.next
  let feeding := { feeding with assembler }
  match pull.status with
  | .record => do
      let events := match ← routeRecord pull.record with
        | .emit _ => feeding.events + 1
        | .skipNonMbo | .skipMalformed => feeding.events
      .ok (.again { feeding with
        events, rbytes := feeding.rbytes + pull.record.length })
  | .corrupt => .ok (.done (feeding.events, feeding.rbytes))
  | .needMore =>
      if feeding.offset ≥ records.length then
        .ok (.done (feeding.events, feeding.rbytes))
      else do
        let n := min chunk (records.length - feeding.offset)
        let rest ← Span.subspan records feeding.offset
        let slice ← Span.first rest n
        let assembler ← feeding.assembler.append slice
        .ok (.again { feeding with assembler, offset := feeding.offset + n })

/-- Mode B: framing and decoding over the file in memory. -/
def benchInMemory (fuel : Nat) (file : Bytes) (chunk passes : Nat) :
    Checked RuntimeError Stats := do
  let start ← recordStart file
  let records ← Span.subspan file start
  Loop.times (fun _ s => do
    let (events, recordBytes) ← (Loop.run (feedPass records chunk) fuel {}).mapThrown
      (.refused "RecordAssembler")
    .ok { s with events, recordBytes }) passes {}

/-- Mode C: the mapped reader over the file. -/
def benchMmap (fuel : Nat) (disk : Disk) (mapping : Nat) (path : String)
    (passes : Nat) : Checked RuntimeError Stats :=
  Loop.times (fun p s => do
    let reader ← MmapDbnReader.openPath disk (mapping + p) path
    let (events, _) ← (Iterator.consume MmapDbnReader.next
      (fun events _ => events + 1) fuel 0 reader).mapThrown
        (.refused "MmapDbnReader")
    .ok { s with events }) passes {}

/-- The parity gate. -/
def parityLine (a c : Stats) : String :=
  if a.events ≠ c.events then
    "  !! PARITY FAIL: stream=" ++ toString a.events ++ " mmap=" ++
      toString c.events ++ " events\n"
  else
    "  parity OK: stream and mmap agree on " ++ toString c.events ++ " events\n"

/-- What the three modes counted, and what the parity gate prints. -/
structure Measured where
  stream : Stats
  inMem : Stats
  mmap : Stats
  parity : String
  deriving DecidableEq, Repr

/-- What a run comes to. -/
structure Result where
  measured : Option Measured := none
  stderr : String := ""
  code : Nat
  deriving DecidableEq, Repr

/-- The `try` block of `main`. -/
def measure (fuel : Nat) (disk : Disk) (path : String) (passes chunk : Nat) :
    Checked RuntimeError Result := do
  let file ← slurp disk path
  -- Two untimed passes of each mode come first.
  let _ ← benchEndToEnd fuel disk 0 path chunk 2
  let _ ← benchInMemory fuel file chunk 2
  let _ ← benchMmap fuel disk 0 path 2
  let a ← benchEndToEnd fuel disk 2 path chunk passes
  let b ← benchInMemory fuel file chunk passes
  let c ← benchMmap fuel disk 2 path passes
  -- Modes A and C do not count bytes and borrow the count of mode B.
  let aFull := { a with recordBytes := b.recordBytes }
  let cFull := { c with recordBytes := b.recordBytes }
  .ok { measured := some ⟨aFull, b, cFull, parityLine a c⟩, code := 0 }

/-- `main`, with its arguments as numbers. -/
def main (fuel : Nat) (disk : Disk) (argv0 : String) :
    Option (String × Int × Nat) → Checked Empty Result
  | none => .ok { stderr := usage argv0, code := 2 }
  | some (path, passes, chunk) =>
      if passes < 1 then
        .ok { stderr := "bench_dbn: passes must be >= 1\n", code := 2 }
      else
        match measure fuel disk path passes.toNat chunk with
        | .ok result => .ok result
        | .error (.thrown ex) =>
            .ok { stderr := "bench_dbn error: " ++ ex.what path ++ "\n", code := 1 }
        | .error (.fault kind) => .error (.fault kind)
        | .error .outOfFuel => .error .outOfFuel

/-! ## The loop over memory -/

namespace Feeding

/-- The assembler is in order, and the slices came from the records. -/
structure Valid (records : Bytes) (feeding : Feeding) : Prop where
  assembler : feeding.assembler.Valid
  offset : feeding.offset ≤ records.length

/-- The record bytes that are not framed yet. -/
def unread (records : Bytes) (feeding : Feeding) : Bytes :=
  feeding.assembler.unconsumed ++ records.drop feeding.offset

/-- What every further pass uses up: a slice moves bytes that weigh two into the
assembler, where they weigh one. -/
def variant (records : Bytes) (feeding : Feeding) : Nat :=
  2 * (records.length - feeding.offset) + feeding.assembler.unconsumed.length

/-- The counts once everything is framed. -/
def total (records : Bytes) (feeding : Feeding) : Nat × Nat :=
  let frames := dbnFramer.frames (feeding.unread records)
  (feeding.events + (frames.filterMap emitted).length,
    feeding.rbytes + frames.flatten.length)

/-- The feeding after a frame. -/
def counted (feeding : Feeding) (size : Nat) : Feeding where
  assembler := { feeding.assembler with
    readPos := feeding.assembler.readPos + size }
  events := feeding.events +
    ([feeding.assembler.unconsumed.take size].filterMap emitted).length
  rbytes := feeding.rbytes + size
  offset := feeding.offset

/-- The feeding after a slice. -/
def fed (records : Bytes) (chunk : Nat) (feeding : Feeding) : Feeding :=
  let n := min chunk (records.length - feeding.offset)
  { feeding with
    assembler := {
      buf := feeding.assembler.unconsumed ++
        (records.drop feeding.offset).take n
      readPos := 0 }
    offset := feeding.offset + n }

variable {records : Bytes} {chunk : Nat} {feeding : Feeding}

theorem feedPass_of_frame (valid : feeding.Valid records) {size : Nat}
    (verdict : frameVerdict feeding.assembler.unconsumed = .frame size) :
    feedPass records chunk feeding = .ok (.again (feeding.counted size)) := by
  have bounds := frame_size_bounds verdict
  have length := List.length_take_of_le bounds.2.2
  have framed : 2 ≤ (feeding.assembler.unconsumed.take size).length := by omega
  simp only [feedPass, RecordAssembler.next_of_frame valid.assembler verdict,
    Checked.ok_bind, routeRecord_eq framed, counted, length,
    List.filterMap_cons, List.filterMap_nil, emitted_eq framed]
  cases route (feeding.assembler.unconsumed.take size) <;> rfl

theorem feedPass_of_short (valid : feeding.Valid records)
    (verdict : frameVerdict feeding.assembler.unconsumed = .short) :
    feedPass records chunk feeding = .ok
      (if feeding.offset ≥ records.length then
        .done (feeding.events, feeding.rbytes)
      else .again (feeding.fed records chunk)) := by
  simp only [feedPass, RecordAssembler.next_of_short valid.assembler verdict,
    Checked.ok_bind]
  split
  next => rfl
  next =>
    rw [Span.subspan_of_le valid.offset, Checked.ok_bind, Span.first_of_le,
      Checked.ok_bind, RecordAssembler.append_eq valid.assembler,
      Checked.ok_bind]
    · rfl
    · rw [List.length_drop]
      exact Nat.min_le_right _ _

theorem feedPass_of_corrupt (valid : feeding.Valid records)
    (verdict : frameVerdict feeding.assembler.unconsumed = .corrupt) :
    feedPass records chunk feeding =
      .ok (.done (feeding.events, feeding.rbytes)) := by
  simp only [feedPass, RecordAssembler.next_of_corrupt valid.assembler verdict,
    Checked.ok_bind]

/-- What a pass over memory comes to. -/
inductive FeedStep (records : Bytes) (chunk : Nat) (feeding : Feeding) :
    Pass Feeding (Nat × Nat) → Prop where
  | counted {size : Nat}
      (verdict : frameVerdict feeding.assembler.unconsumed = .frame size) :
      FeedStep records chunk feeding (.again (feeding.counted size))
  | fed (verdict : frameVerdict feeding.assembler.unconsumed = .short)
      (more : feeding.offset < records.length) :
      FeedStep records chunk feeding (.again (feeding.fed records chunk))
  | drained (verdict : frameVerdict feeding.assembler.unconsumed = .short)
      (nothing : records.length ≤ feeding.offset) :
      FeedStep records chunk feeding (.done (feeding.events, feeding.rbytes))
  | stopped (verdict : frameVerdict feeding.assembler.unconsumed = .corrupt) :
      FeedStep records chunk feeding (.done (feeding.events, feeding.rbytes))

theorem feedPass_step (chunk : Nat) (valid : feeding.Valid records) :
    ∃ outcome, feedPass records chunk feeding = .ok outcome ∧
      FeedStep records chunk feeding outcome := by
  cases verdict : frameVerdict feeding.assembler.unconsumed with
  | frame size => exact ⟨_, feedPass_of_frame valid verdict, .counted verdict⟩
  | short =>
      refine ⟨_, feedPass_of_short valid verdict, ?_⟩
      split
      next nothing => exact .drained verdict nothing
      next more => exact .fed verdict (Nat.lt_of_not_ge more)
  | corrupt => exact ⟨_, feedPass_of_corrupt valid verdict, .stopped verdict⟩

theorem FeedStep.of_pass (valid : feeding.Valid records)
    {outcome : Pass Feeding (Nat × Nat)}
    (passed : feedPass records chunk feeding = .ok outcome) :
    FeedStep records chunk feeding outcome := by
  obtain ⟨other, same, step⟩ := feedPass_step chunk valid
  rw [passed] at same
  cases same
  exact step

theorem valid_counted (valid : feeding.Valid records) {size : Nat}
    (verdict : frameVerdict feeding.assembler.unconsumed = .frame size) :
    (feeding.counted size).Valid records where
  assembler := (RecordAssembler.consume_frame valid.assembler verdict).1
  offset := valid.offset

theorem variant_counted (valid : feeding.Valid records) {size : Nat}
    (verdict : frameVerdict feeding.assembler.unconsumed = .frame size) :
    (feeding.counted size).variant records < feeding.variant records := by
  have bounds := frame_size_bounds verdict
  have rest := (RecordAssembler.consume_frame valid.assembler verdict).2
  simp only [variant, counted, rest, List.length_drop]
  omega

/-- Counting a frame moves it from what is to come to what was counted. -/
theorem total_counted (valid : feeding.Valid records) {size : Nat}
    (verdict : frameVerdict feeding.assembler.unconsumed = .frame size) :
    (feeding.counted size).total records = feeding.total records := by
  have le := (frame_size_bounds verdict).2.2
  have rest := (RecordAssembler.consume_frame valid.assembler verdict).2
  have framed : dbnFramer.IsFrame (feeding.assembler.unconsumed.take size) :=
    Framer.isFrame_take verdict
  have later : (feeding.counted size).unread records =
      feeding.assembler.unconsumed.drop size ++ records.drop feeding.offset := by
    simp only [unread, counted, rest]
  have whole : feeding.unread records =
      feeding.assembler.unconsumed.take size ++
        (feeding.counted size).unread records := by
    rw [later, ← List.append_assoc, List.take_append_drop, unread]
  rw [total, total, whole, Framer.frames_append framed]
  simp only [counted, List.flatten_cons, List.length_append,
    List.length_take_of_le le, List.filterMap_cons, List.filterMap_nil]
  congr 1
  · cases emitted (feeding.assembler.unconsumed.take size) with
    | none => rfl
    | some event =>
        simp only [List.length_cons, List.length_nil]
        omega
  · omega

theorem valid_fed (chunk : Nat) (valid : feeding.Valid records) :
    (feeding.fed records chunk).Valid records where
  assembler := Nat.zero_le _
  offset := by
    have offset := valid.offset
    simp only [fed]
    omega

theorem variant_fed (room : 0 < chunk) (more : feeding.offset < records.length) :
    (feeding.fed records chunk).variant records < feeding.variant records := by
  simp only [variant, fed, RecordAssembler.unconsumed, List.drop_zero,
    List.length_append, List.length_take, List.length_drop]
  omega

/-- A slice changes where the bytes are, not which they are. -/
theorem total_fed (records : Bytes) (chunk : Nat) (feeding : Feeding) :
    (feeding.fed records chunk).total records = feeding.total records := by
  have same : (feeding.fed records chunk).unread records =
      feeding.unread records := by
    simp only [unread, fed]
    rw [RecordAssembler.unconsumed, List.drop_zero, List.append_assoc,
      ← List.drop_drop, List.take_append_drop]
  rw [total, total, same]
  rfl

theorem total_of_isTail (isTail : dbnFramer.IsTail (feeding.unread records)) :
    feeding.total records = (feeding.events, feeding.rbytes) := by
  simp [total, Framer.frames_of_isTail isTail]

theorem total_of_done (valid : feeding.Valid records) {result : Nat × Nat}
    (done : feedPass records chunk feeding = .ok (.done result)) :
    result = feeding.total records := by
  cases FeedStep.of_pass valid done with
  | drained verdict nothing =>
      have all : feeding.unread records = feeding.assembler.unconsumed := by
        rw [unread, List.drop_eq_nil_of_le nothing, List.append_nil]
      rw [total_of_isTail]
      rw [all]
      exact Framer.isTail_of_short verdict
  | stopped verdict =>
      rw [total_of_isTail]
      exact Framer.isTail_of_corrupt (dbnFramer.corrupt_append verdict _)

/-- Slices of any positive size, in the order of the file, come to the frames of
the whole. -/
theorem run_feedPass (room : 0 < chunk) (valid : feeding.Valid records)
    {fuel : Nat} (enough : feeding.variant records < fuel) :
    Loop.run (feedPass records chunk) fuel feeding =
      .ok (feeding.total records) := by
  have returns : ∃ result, Loop.run (feedPass records chunk) fuel feeding =
      .ok result ∧ result = feeding.total records := by
    apply Loop.run_returns (fun feeding : Feeding => feeding.Valid records)
      (variant records) (fun feeding result => result = feeding.total records)
      _ _ _ valid enough
    · intro feeding valid
      obtain ⟨outcome, passed, _⟩ := feedPass_step chunk valid
      exact ⟨outcome, passed⟩
    · intro feeding result valid done
      exact total_of_done valid done
    · intro feeding middle valid again
      cases FeedStep.of_pass valid again with
      | counted verdict =>
          refine ⟨valid_counted valid verdict, variant_counted valid verdict, ?_⟩
          intro result same
          rw [same, total_counted valid verdict]
      | fed verdict more =>
          refine ⟨valid_fed chunk valid, variant_fed room more, ?_⟩
          intro result same
          rw [same, total_fed]
  obtain ⟨result, ran, same⟩ := returns
  rw [ran, same]

/-- Slices of no size never get past the first byte. -/
theorem run_feedPass_diverges (some : records ≠ []) (fuel : Nat) :
    Loop.run (feedPass records 0) fuel {} = .error .outOfFuel := by
  apply Loop.run_diverges
    (fun feeding : Feeding => feeding.assembler.Valid ∧
      feeding.assembler.unconsumed = [] ∧ feeding.offset = 0) _
    ⟨RecordAssembler.valid_empty, rfl, rfl⟩
  rintro feeding ⟨assembler, empty, beginning⟩
  have valid : feeding.Valid records := ⟨assembler, by omega⟩
  have verdict : frameVerdict feeding.assembler.unconsumed = .short := by
    rw [empty, frameVerdict_nil]
  have more : ¬ feeding.offset ≥ records.length := by
    have positive := List.length_pos_iff.mpr some
    omega
  have same : (feeding.fed records 0).assembler.unconsumed = [] := by
    simp only [fed, empty, Nat.zero_min, List.take_zero, List.append_nil]
    rfl
  refine ⟨feeding.fed records 0, ?_, Nat.zero_le _, same, ?_⟩
  · rw [feedPass_of_short valid verdict, if_neg more]
  · simp [fed, beginning]

end Feeding

/-! ## The three modes -/

/-- How many events a record stream holds. -/
def eventCount (stream : Bytes) : Nat :=
  ((dbnFramer.frames stream).filterMap emitted).length

/-- How many bytes of a record stream are framed. -/
def framedBytes (stream : Bytes) : Nat :=
  (dbnFramer.frames stream).flatten.length

theorem eventCount_le (stream : Bytes) : eventCount stream ≤ stream.length := by
  have some := List.length_filterMap_le emitted (dbnFramer.frames stream)
  have quarter := four_mul_frames_le stream
  rw [eventCount]
  omega

variable {fuel : Nat} {disk : Disk} {path : String} {contents stream : Bytes}
  {chunk passes : Nat}

/-- Passes that drain a reader each and count its events come to one count. -/
theorem times_counted {ρ : Type} {next : Iterator PrologueError ρ Event}
    {openPass : Nat → Checked RuntimeError ρ} {who : String} {count : Nat}
    (opened : ∀ p, ∃ reader events last, openPass p = .ok reader ∧
      Iterator.Drains next reader events last ∧ events.length = count)
    (enough : count < fuel) (some : 0 < passes) :
    Loop.times (fun p s => do
      let reader ← openPass p
      let (events, _) ← (Iterator.consume next (fun events _ => events + 1)
        fuel 0 reader).mapThrown (.refused who)
      .ok { s with events }) passes {} = .ok ({ events := count } : Stats) := by
  apply Loop.times_settled _ _ some <;>
  · intro p
    obtain ⟨reader, events, last, opens, drains, rfl⟩ := opened p
    rw [opens, Checked.ok_bind, drains.count enough]
    rfl

/-- A pass of mode A counts what its reader will still see. -/
theorem benchEndToEnd_of_opened {opening : Nat}
    (opened : ∀ p, ∃ reader : DbnReader,
      DbnReader.openPath fuel disk (opening + p) path chunk = .ok reader ∧
        reader.Valid ∧ reader.unread = stream)
    (enough : stream.length < fuel) (some : 0 < passes) :
    benchEndToEnd fuel disk opening path chunk passes =
      .ok { events := eventCount stream } := by
  apply times_counted _ (Nat.lt_of_le_of_lt (eventCount_le stream) enough) some
  intro p
  obtain ⟨reader, opens, valid, rfl⟩ := opened p
  obtain ⟨last, drains, _⟩ :=
    Replay.drains_of_refines (DbnReader.refines _) ⟨valid, rfl⟩ rfl
  exact ⟨reader, _, last, opens, drains, rfl⟩

theorem benchMmap_of_opened {mapping : Nat}
    (opened : ∀ p, ∃ reader : MmapDbnReader,
      MmapDbnReader.openPath disk (mapping + p) path = .ok reader ∧
        reader.Valid ∧ reader.unread = stream)
    (enough : stream.length < fuel) (some : 0 < passes) :
    benchMmap fuel disk mapping path passes =
      .ok { events := eventCount stream } := by
  apply times_counted _ (Nat.lt_of_le_of_lt (eventCount_le stream) enough) some
  intro p
  obtain ⟨reader, opens, valid, rfl⟩ := opened p
  obtain ⟨last, drains, _⟩ :=
    Replay.drains_of_refines (MmapDbnReader.refines _) ⟨valid, rfl⟩ rfl
  exact ⟨reader, _, last, opens, drains, rfl⟩

theorem recordStart_of_accepted {version : UInt8}
    (accepted : parseHeader contents = .ok version) :
    recordStart contents = .ok (8 + metadataLen contents) := by
  have whole := (parseHeader_whole accepted).1
  match contents, whole with
  | b0 :: b1 :: b2 :: b3 :: b4 :: b5 :: b6 :: b7 :: rest, whole =>
      rw [recordStart, if_neg (Nat.not_lt.mpr whole)]
      rw [parseHeader, if_neg (Nat.not_lt.mpr whole)] at accepted
      split at accepted
      next => cases accepted
      next magic =>
        simp only [List.take_succ_cons, List.take_zero, ne_eq,
          Decidable.not_not, List.cons.injEq, and_true] at magic
        obtain ⟨rfl, rfl, rfl⟩ := magic
        rfl

/-- Mode B counts the frames of the record region, and their bytes. -/
theorem benchInMemory_of_accepted {version : UInt8}
    (accepted : parsePrologue contents = .ok version) (room : 0 < chunk)
    (enough : 2 * contents.length < fuel) (some : 0 < passes) :
    benchInMemory fuel contents chunk passes =
      .ok ⟨eventCount (recordRegion contents),
        framedBytes (recordRegion contents)⟩ := by
  obtain ⟨header, whole⟩ := parsePrologue_eq_ok.mp accepted
  have valid : Feeding.Valid (recordRegion contents) {} :=
    ⟨RecordAssembler.valid_empty, Nat.zero_le _⟩
  have short := recordRegion_length_le contents
  have bound : Feeding.variant (recordRegion contents) {} < fuel := by
    simp only [Feeding.variant, RecordAssembler.unconsumed_empty, List.length_nil]
    omega
  have ran := Feeding.run_feedPass room valid bound
  have total : Feeding.total (recordRegion contents) {} =
      (eventCount (recordRegion contents),
        framedBytes (recordRegion contents)) := by
    simp [Feeding.total, Feeding.unread, eventCount, framedBytes]
  rw [total] at ran
  rw [benchInMemory, recordStart_of_accepted header, Checked.ok_bind,
    Span.subspan_of_le whole, Checked.ok_bind, ← recordRegion]
  apply Loop.times_settled _ _ some <;>
  · intro p
    rw [ran]
    rfl

theorem mapped_of_accepted (reliable : disk.Reliable path contents)
    {version : UInt8} (accepted : parsePrologue contents = .ok version)
    (mapping : Nat) :
    ∃ reader : MmapDbnReader,
      MmapDbnReader.openPath disk mapping path = .ok reader ∧
        reader.Valid ∧ reader.unread = recordRegion contents := by
  have built := MmapDbnReader.construct_eq (MmapDbnReader.prologue_lt contents)
  simp only [accepted] at built
  have fresh := (MmapDbnReader.construct_returned built).2
  refine ⟨_, ?_, fresh.valid, fresh.unread⟩
  rw [MmapDbnReader.openPath_eq reliable, built, Checked.mapThrown_ok]

/-- With room in its chunks the streaming reader does what the prologue demands. -/
theorem streaming_outcome (reliable : disk.Reliable path contents)
    (room : 0 < chunk) (granted : disk.refusal chunk = none)
    (enough : metadataLen contents < fuel) (opening : Nat) :
    match parsePrologue contents with
    | .ok _ => ∃ reader : DbnReader,
        DbnReader.openPath fuel disk opening path chunk = .ok reader ∧
          reader.Valid ∧ reader.unread = recordRegion contents
    | .error error => DbnReader.openPath fuel disk opening path chunk =
        .error (.thrown (.refused "DbnReader" error)) := by
  obtain ⟨schedule, reads⟩ := reliable.reads opening
  have faultless := FileByteSource.faultless_onFile contents schedule
  have outcome := DbnReader.construct_faultless faultless room
    (show metadataLen _ < fuel by rwa [FileByteSource.rest_onFile])
  rw [FileByteSource.rest_onFile] at outcome
  rw [DbnReader.openPath_eq reliable.found granted, reads]
  cases parsed : parsePrologue contents with
  | error error =>
      simp only [parsed] at outcome
      rw [outcome]
      rfl
  | ok version =>
      simp only [parsed] at outcome
      obtain ⟨reader, built⟩ := outcome
      obtain ⟨_, fresh, kept⟩ := DbnReader.construct_returned built
      rw [FileByteSource.rest_onFile] at fresh
      refine ⟨reader, ?_, ?_, ?_⟩
      · rw [built, Checked.mapThrown_ok]
      · rw [DbnReader.Valid, fresh.assembler]
        exact RecordAssembler.valid_empty
      · exact (ReplayDbn.unread_of_fresh fresh).2 (kept faultless) room

/-! ## Every run -/

/-- The result of a run that is stopped by an exception. -/
def failure (path : String) (error : RuntimeError) : Result where
  stderr := "bench_dbn error: " ++ error.what path ++ "\n"
  code := 1

/-- The result of a run whose modes all count the same. -/
def agreement (counted : Stats) : Result where
  measured := some ⟨counted, counted, counted,
    "  parity OK: stream and mmap agree on " ++ toString counted.events ++
      " events\n"⟩
  code := 0

/-- The result a file demands, with chunks that are refused or not. -/
def resultOf (refusal : Option String) (path : String) (contents : Bytes) :
    Result :=
  match refusal, parsePrologue contents with
  | some what, _ => failure path (.noBuffer what)
  | none, .error error => failure path (.refused "DbnReader" error)
  | none, .ok _ => agreement
      ⟨eventCount (recordRegion contents), framedBytes (recordRegion contents)⟩

theorem resultOf_error {error : PrologueError}
    (parsed : parsePrologue contents = .error error) :
    resultOf none path contents = failure path (.refused "DbnReader" error) := by
  simp only [resultOf, parsed]

theorem resultOf_ok {version : UInt8}
    (parsed : parsePrologue contents = .ok version) :
    resultOf none path contents =
      agreement ⟨eventCount (recordRegion contents),
        framedBytes (recordRegion contents)⟩ := by
  simp only [resultOf, parsed]

/-- What the `try` block comes to is what `main` comes to. -/
theorem main_of_measure {passes : Int} (some : 1 ≤ passes)
    (argv0 : String) :
    main fuel disk argv0 (.some (path, passes, chunk)) =
      match measure fuel disk path passes.toNat chunk with
      | .ok result => .ok result
      | .error (.thrown ex) => .ok (failure path ex)
      | .error (.fault kind) => .error (.fault kind)
      | .error .outOfFuel => .error .outOfFuel := by
  rw [main, if_neg (by omega)]
  rfl

theorem slurp_eq (reliable : disk.Reliable path contents) :
    slurp disk path = .ok contents := by
  rw [slurp, reliable.found]
  dsimp only
  rw [Disk.buffer_granted reliable.fits, Checked.ok_bind]

theorem measure_of_failed (reliable : disk.Reliable path contents)
    {failure : Failure RuntimeError}
    (failed : DbnReader.openPath fuel disk 0 path chunk = .error failure) :
    measure fuel disk path passes chunk = .error failure := by
  have first : benchEndToEnd fuel disk 0 path chunk 2 = .error failure := by
    apply Loop.times_failed _ (Nat.succ_pos 1)
    rw [Nat.add_zero, failed, Checked.error_bind]
  rw [measure, slurp_eq reliable, Checked.ok_bind, first, Checked.error_bind]

theorem measure_of_modes (reliable : disk.Reliable path contents)
    {counted : Stats}
    (stream : ∀ opening passes, 0 < passes →
      benchEndToEnd fuel disk opening path chunk passes =
        .ok { events := counted.events })
    (inMem : ∀ passes, 0 < passes →
      benchInMemory fuel contents chunk passes = .ok counted)
    (mmap : ∀ mapping passes, 0 < passes →
      benchMmap fuel disk mapping path passes = .ok { events := counted.events })
    (some : 0 < passes) :
    measure fuel disk path passes chunk = .ok (agreement counted) := by
  have two := Nat.succ_pos 1
  rw [measure, slurp_eq reliable, Checked.ok_bind, stream 0 2 two, Checked.ok_bind,
    inMem 2 two, Checked.ok_bind, mmap 0 2 two, Checked.ok_bind,
    stream 2 passes some, Checked.ok_bind, inMem passes some, Checked.ok_bind,
    mmap 2 passes some, Checked.ok_bind]
  rw [parityLine, if_neg (fun differ => differ rfl)]
  rfl

/-- Over a file that can be read, held in memory and mapped, with chunks of any
positive size and any positive number of passes, the benchmark ends with the result
that the file demands: the words in which its scratch buffer is refused, or the
refusal of its prologue, or one count for all three modes, so that the parity gate
never fails. -/
theorem main_measures (reliable : disk.Reliable path contents)
    (room : 0 < chunk) {passes : Int} (some : 1 ≤ passes)
    (enough : metadataLen contents + 2 * contents.length < fuel)
    (argv0 : String) :
    main fuel disk argv0 (.some (path, passes, chunk)) =
      .ok (resultOf (disk.refusal chunk) path contents) := by
  rw [main_of_measure some]
  cases granted : disk.refusal chunk with
  | some what =>
      have failed := DbnReader.openPath_refused reliable.found granted fuel 0
      rw [measure_of_failed reliable failed, resultOf]
  | none =>
      have skipped : metadataLen contents < fuel := by omega
      have opened := streaming_outcome reliable room granted skipped
      cases parsed : parsePrologue contents with
      | error error =>
          have failed := opened 0
          simp only [parsed] at failed
          rw [measure_of_failed reliable failed, resultOf_error parsed]
      | ok version =>
          simp only [parsed] at opened
          have region := recordRegion_length_le contents
          rw [measure_of_modes reliable _ _ _ (by omega), resultOf_ok parsed]
          · intro opening passes some
            apply benchEndToEnd_of_opened _ (by omega) some
            exact fun p => opened (opening + p)
          · intro passes some
            exact benchInMemory_of_accepted parsed room (by omega) some
          · intro mapping passes some
            apply benchMmap_of_opened _ (by omega) some
            exact fun p => mapped_of_accepted reliable parsed (mapping + p)

/-- The sample file, where no buffer longer than the default can be had. -/
def tightDisk : Disk where
  contents := ReplayDbn.sampleDisk.contents
  reads := ReplayDbn.sampleDisk.reads
  answers := ReplayDbn.sampleDisk.answers
  refusal := fun size =>
    if size ≤ DbnReader.defaultChunkSize then none
    else some "cannot create std::vector larger than max_size()"
  granted := fun _ small => if_pos small

theorem reliable_tightDisk :
    tightDisk.Reliable "sample.dbn" sampleFile where
  found := rfl
  reads := fun _ => ⟨_, rfl⟩
  fits := by
    apply tightDisk.granted
    simp [sampleFile, sampleRecord, DbnReader.defaultChunkSize]
  sized := fun _ => rfl
  maps := by
    rintro mapping error ⟨⟩

/-- The sample file, in slices of seven bytes and in one that cannot be had, as
`-1` on the command line asks for. -/
theorem main_measures_sample :
    main (2 ^ 32 + 400) tightDisk "bench_dbn" (some ("sample.dbn", 3, 7)) =
      .ok (resultOf none "sample.dbn" sampleFile) ∧
    main (2 ^ 32 + 400) tightDisk "bench_dbn"
        (some ("sample.dbn", 1, 2 ^ 64 - 1)) =
      .ok (failure "sample.dbn"
        (.noBuffer "cannot create std::vector larger than max_size()")) := by
  have enough : metadataLen sampleFile + 2 * sampleFile.length < 2 ^ 32 + 400 := by
    have bound := metadataLen_lt sampleFile
    have length : sampleFile.length < 200 := by
      simp [sampleFile, sampleRecord]
    omega
  constructor
  · exact main_measures reliable_tightDisk (by decide) (by decide) enough _
  · exact main_measures reliable_tightDisk (by decide) (by decide) enough _

/-! ## Chunks without room -/

/-- Behind an accepted header, a constructor without room is its metadata loop. -/
theorem construct_without_room {version : UInt8}
    (accepted : parseHeader contents = .ok version) (schedule : Nat → Nat)
    (fuel : Nat) :
    ∃ source, DbnReader.construct fuel (.onFile contents (shortReads schedule)) 0 =
      Loop.run DbnReader.skipMetadataPass fuel ⟨metadataLen contents, [], source⟩ >>=
        fun skipped => .ok {
          source := skipped.source
          scratch := skipped.scratch
          version } := by
  have whole := (parseHeader_whole accepted).1
  rcases DbnReader.construct_eq fuel (.onFile contents (shortReads schedule)) 0 with
    ⟨short, _⟩ | ⟨header, _, _, _, equal⟩
  · have few := short (FileByteSource.faultless_onFile contents schedule)
    rw [FileByteSource.rest_onFile] at few
    omega
  · rw [FileByteSource.rest_onFile, accepted] at equal
    exact ⟨header.source, equal⟩

theorem main_of_refused_header (reliable : disk.Reliable path contents)
    {error : PrologueError} (refused : parseHeader contents = .error error)
    {passes : Int} (some : 1 ≤ passes) (fuel chunk : Nat) (argv0 : String) :
    ∃ result, main fuel disk argv0 (.some (path, passes, chunk)) = .ok result := by
  have throws : ∃ reason, DbnReader.openPath fuel disk 0 path chunk =
      .error (.thrown reason) := by
    cases granted : disk.refusal chunk with
    | some what =>
        exact ⟨_, DbnReader.openPath_refused reliable.found granted fuel 0⟩
    | none =>
        rw [DbnReader.openPath_eq reliable.found granted]
        rcases DbnReader.construct_eq fuel (.onFile contents (disk.reads 0))
          chunk with ⟨_, threw⟩ | ⟨_, _, _, _, equal⟩
        · exact ⟨.refused "DbnReader" .truncatedHeader, by rw [threw]; rfl⟩
        · rw [FileByteSource.rest_onFile, refused] at equal
          exact ⟨.refused "DbnReader" error, by rw [equal]; rfl⟩
  obtain ⟨reason, failed⟩ := throws
  rw [main_of_measure some, measure_of_failed reliable failed]
  exact ⟨_, rfl⟩

/-- Without metadata mode A is opened, and reads nothing. -/
theorem streaming_without_room (reliable : disk.Reliable path contents)
    {version : UInt8} (accepted : parseHeader contents = .ok version)
    (noMetadata : metadataLen contents = 0) (fuel opening : Nat) :
    ∃ reader : DbnReader,
      DbnReader.openPath (fuel + 1) disk opening path 0 = .ok reader ∧
        reader.Valid ∧ reader.unread = [] := by
  obtain ⟨schedule, reads⟩ := reliable.reads opening
  obtain ⟨source, built⟩ := construct_without_room accepted schedule (fuel + 1)
  rw [noMetadata] at built
  refine ⟨{ source, scratch := [], version }, ?_, RecordAssembler.valid_empty, ?_⟩
  · rw [DbnReader.openPath_eq reliable.found (disk.granted 0 (Nat.zero_le _)),
      reads, built]
    rfl
  · rw [DbnReader.unread, RecordAssembler.unconsumed_empty, List.nil_append]
    exact FileByteSource.supply_size_zero _

theorem streaming_diverges (reliable : disk.Reliable path contents)
    {version : UInt8} (accepted : parseHeader contents = .ok version)
    (metadata : 0 < metadataLen contents) (fuel opening : Nat) :
    DbnReader.openPath fuel disk opening path 0 = .error .outOfFuel := by
  obtain ⟨schedule, reads⟩ := reliable.reads opening
  obtain ⟨source, built⟩ := construct_without_room accepted schedule fuel
  rw [DbnReader.openPath_eq reliable.found (disk.granted 0 (Nat.zero_le _)),
    reads, built, DbnReader.skipMetadata_diverges rfl metadata]
  rfl

/-- Where the header announces no metadata and is the whole file, every mode ends at
once. -/
theorem main_of_header_only (reliable : disk.Reliable path contents)
    {version : UInt8} (accepted : parseHeader contents = .ok version)
    (noMetadata : metadataLen contents = 0) (headerOnly : contents.length = 8)
    {passes : Int} (some : 1 ≤ passes) (fuel : Nat) (argv0 : String) :
    main (fuel + 1) disk argv0 (.some (path, passes, 0)) = .ok (agreement {}) := by
  have whole : parsePrologue contents = .ok version :=
    parsePrologue_eq_ok.mpr ⟨accepted, by omega⟩
  have region : recordRegion contents = [] := by
    rw [recordRegion, noMetadata]
    exact List.drop_eq_nil_of_le (Nat.le_of_eq headerOnly)
  have none : eventCount [] = ({} : Stats).events := by
    have isTail : dbnFramer.IsTail [] := Framer.isTail_of_short rfl
    rw [eventCount, Framer.frames_of_isTail isTail]
    rfl
  have stream : ∀ opening passes, 0 < passes →
      benchEndToEnd (fuel + 1) disk opening path 0 passes =
        .ok { events := ({} : Stats).events } := by
    intro opening passes some
    have opened := fun p =>
      streaming_without_room reliable accepted noMetadata fuel (opening + p)
    rw [benchEndToEnd_of_opened opened (Nat.succ_pos fuel) some, none]
  have inMem : ∀ passes, 0 < passes →
      benchInMemory (fuel + 1) contents 0 passes = .ok {} := by
    intro passes some
    have drop : contents.drop (8 + metadataLen contents) = [] := region
    rw [benchInMemory, recordStart_of_accepted accepted, Checked.ok_bind,
      Span.subspan_of_le (by omega), Checked.ok_bind, drop]
    apply Loop.times_settled _ _ some <;>
    · intro p
      rfl
  have mmap : ∀ mapping passes, 0 < passes →
      benchMmap (fuel + 1) disk mapping path passes =
        .ok { events := ({} : Stats).events } := by
    intro mapping passes some
    have opened := fun p => mapped_of_accepted reliable whole (mapping + p)
    rw [region] at opened
    rw [benchMmap_of_opened opened (Nat.succ_pos fuel) some, none]
  rw [main_of_measure some,
    measure_of_modes reliable stream inMem mmap (by omega)]

/-- Otherwise mode A never gets past the metadata, or mode B never gets past the
first record. -/
theorem main_diverges (reliable : disk.Reliable path contents)
    {version : UInt8} (accepted : parseHeader contents = .ok version)
    (behind : 0 < metadataLen contents ∨ contents.length ≠ 8)
    {passes : Int} (some : 1 ≤ passes) (fuel : Nat) (argv0 : String) :
    main fuel disk argv0 (.some (path, passes, 0)) = .error .outOfFuel := by
  have whole := (parseHeader_whole accepted).1
  rw [main_of_measure some]
  rcases Nat.eq_zero_or_pos (metadataLen contents) with noMetadata | metadata
  · cases fuel with
    | zero =>
        have failed : DbnReader.openPath 0 disk 0 path 0 = .error .outOfFuel := by
          obtain ⟨schedule, reads⟩ := reliable.reads 0
          obtain ⟨source, built⟩ := construct_without_room accepted schedule 0
          rw [DbnReader.openPath_eq reliable.found
            (disk.granted 0 (Nat.zero_le _)), reads, built]
          rfl
        rw [measure_of_failed reliable failed]
    | succ fuel =>
        have records : recordRegion contents ≠ [] := by
          rw [recordRegion, noMetadata, ne_eq, List.drop_eq_nil_iff]
          omega
        have stream : benchEndToEnd (fuel + 1) disk 0 path 0 2 =
            .ok { events := eventCount [] } := by
          apply benchEndToEnd_of_opened _ (Nat.succ_pos fuel) (Nat.succ_pos 1)
          exact fun p =>
            streaming_without_room reliable accepted noMetadata fuel (0 + p)
        have inMem : benchInMemory (fuel + 1) contents 0 2 =
            .error .outOfFuel := by
          rw [benchInMemory, recordStart_of_accepted accepted, Checked.ok_bind,
            Span.subspan_of_le (by omega), Checked.ok_bind, ← recordRegion]
          apply Loop.times_failed _ (Nat.succ_pos 1)
          rw [Feeding.run_feedPass_diverges records]
          rfl
        rw [measure, slurp_eq reliable, Checked.ok_bind, stream,
          Checked.ok_bind, inMem, Checked.error_bind]
  · have failed := streaming_diverges reliable accepted metadata fuel 0
    rw [measure_of_failed reliable failed]

/-- Over a file that can be read, held in memory and mapped, the benchmark returns
exactly when its chunks have room, or the header is refused, or the header announces
no metadata and is the whole file; in every other case it runs for ever, and it
never faults. -/
theorem main_returns_iff (reliable : disk.Reliable path contents)
    {passes : Int} (some : 1 ≤ passes) (chunk : Nat) (argv0 : String) :
    ((0 < chunk ∨ (∃ error, parseHeader contents = .error error) ∨
        (metadataLen contents = 0 ∧ contents.length = 8)) →
      ∃ budget, ∀ fuel, budget ≤ fuel → ∃ result,
        main fuel disk argv0 (.some (path, passes, chunk)) = .ok result) ∧
    (¬ (0 < chunk ∨ (∃ error, parseHeader contents = .error error) ∨
        (metadataLen contents = 0 ∧ contents.length = 8)) →
      ∀ fuel, main fuel disk argv0 (.some (path, passes, chunk)) =
        .error .outOfFuel) := by
  cases header : parseHeader contents with
  | error error =>
      have returns := fun fuel =>
        main_of_refused_header reliable header some fuel chunk argv0
      exact ⟨fun _ => ⟨0, fun fuel _ => returns fuel⟩, fun stuck =>
        (stuck (.inr (.inl ⟨error, rfl⟩))).elim⟩
  | ok version =>
      rcases Nat.eq_zero_or_pos chunk with rfl | room
      · constructor
        · rintro (impossible | ⟨_, ⟨⟩⟩ | ⟨noMetadata, headerOnly⟩)
          · exact (Nat.lt_irrefl 0 impossible).elim
          · refine ⟨1, fun fuel enough => ?_⟩
            obtain ⟨fuel, rfl⟩ :=
              Nat.exists_eq_succ_of_ne_zero (Nat.ne_of_gt enough)
            exact ⟨_, main_of_header_only reliable header noMetadata headerOnly
              some fuel argv0⟩
        · intro stuck fuel
          apply main_diverges reliable header _ some
          by_contra nothing
          exact stuck (.inr (.inr (by omega)))
      · refine ⟨fun _ => ?_, fun stuck => (stuck (.inl room)).elim⟩
        refine ⟨metadataLen contents + 2 * contents.length + 1, ?_⟩
        intro fuel enough
        exact ⟨_, main_measures reliable room some (by omega) argv0⟩

/-- The sample file has metadata, which no chunk of no size gets past. -/
theorem main_returns_iff_sample :
    main 1000 tightDisk "bench_dbn" (some ("sample.dbn", 1, 0)) =
      .error .outOfFuel := by
  refine (main_returns_iff reliable_tightDisk (by decide) 0 "bench_dbn").2 ?_ 1000
  rintro (impossible | ⟨error, refused⟩ | ⟨noMetadata, _⟩)
  · exact absurd impossible (by decide)
  · have accepted := (parsePrologue_eq_ok.mp parsePrologue_sampleFile).1
    rw [accepted] at refused
    cases refused
  · exact absurd noMetadata (by decide)

end BenchDbn

end TradingSim
