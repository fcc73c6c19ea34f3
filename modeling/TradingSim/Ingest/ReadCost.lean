import TradingSim.Ingest.CleanStop
import TradingSim.Ingest.Pump
import TradingSim.Ingest.Safety

/-!
# What a file costs in reads

Over a device that serves whole reads the streaming reader asks once for the
header, once for every scratch buffer of metadata, once for every whole chunk of
records, and once more to meet the end.  What is still owed of this can be read off
the source, so the sum of the reads made and the reads owed never changes.
-/

namespace TradingSim

open Foundation

namespace FileByteSource

variable {source : FileByteSource} {size : Nat}

/-- How many reads of a size a source is still good for: its whole chunks, and the
read that meets the end. -/
def owed (source : FileByteSource) (size : Nat) : Nat :=
  source.rest.length / size + if source.file.good then 1 else 0

/-- Whole reads, none of which fails. -/
structure Served (source : FileByteSource) : Prop where
  ordinary : source.Ordinary
  faultless : source.Faultless

theorem Served.after (served : source.Served) (size : Nat) :
    (source.after size).Served where
  ordinary := served.ordinary.after size
  faultless := served.faultless.after size

/-- A read of a good stream delivers what it asks for and the file has, and leaves
the stream good exactly when that is all it asked for. -/
theorem Served.read_good (served : source.Served)
    (good : source.file.good = true) (size : Nat) :
    source.count size = min size source.rest.length ∧
      (source.after size).file.calls = source.file.calls + 1 ∧
      ((source.after size).file.good = true ↔ size ≤ source.rest.length) := by
  obtain ⟨count, outcome⟩ := served.faultless.script source.file.calls
  have whole : source.file.rest.length ≤ count := by
    rcases served.ordinary.script source.file.calls with
      ⟨other, failed⟩ | ⟨other, serves, whole⟩
    · simp [outcome] at failed
    · rw [outcome] at serves
      cases serves
      exact whole
  have cleared : source.file.badbit = false := by
    simp only [IfStream.good, Bool.not_eq_true', Bool.or_eq_false_iff] at good
    exact good.2
  have taken : min (max 1 count) (min size source.file.rest.length) =
      min size source.file.rest.length := by omega
  simp only [FileByteSource.count, FileByteSource.after, IfStream.read, good,
    outcome, if_true, taken, true_and]
  refine ⟨rfl, ?_⟩
  simp only [IfStream.good, cleared, rest, Bool.or_self, Bool.or_false,
    Bool.not_eq_true', decide_eq_false_iff_not]
  omega

/-- A read is paid for by what is owed. -/
theorem Served.calls_add_owed (served : source.Served) (some : 0 < size) :
    (source.after size).file.calls + (source.after size).owed size =
      source.file.calls + source.owed size := by
  cases state : source.file.good with
  | false =>
      have stays := (ended_after state size).2
      have calls : (source.after size).file.calls = source.file.calls := by
        rw [FileByteSource.after, IfStream.read_closed state]
      rw [owed, owed, rest_after, (ended_after state size).1, calls, stays, state,
        List.drop_zero]
  | true =>
      obtain ⟨count, calls, stays⟩ := served.read_good state size
      rw [owed, owed, rest_after, List.length_drop, count, calls, state]
      by_cases whole : size ≤ source.rest.length
      · have fewer := Nat.div_eq_sub_div some whole
        rw [Nat.min_eq_left whole, if_pos (stays.mpr whole), if_pos rfl, fewer]
        omega
      · have ended : ¬ (source.after size).file.good = true :=
          fun good => whole (stays.mp good)
        rw [Nat.min_eq_right (by omega), if_neg ended, if_pos rfl,
          Nat.div_eq_of_lt (Nat.lt_of_not_le whole)]
        simp

end FileByteSource

namespace DbnReader

/-! ## The prologue -/

/-- A buffer that the file fills takes one read. -/
theorem readFully_served {source : FileByteSource} (served : source.Served)
    (good : source.file.good = true) {dst : Bytes} (some : 0 < dst.length)
    (within : dst.length ≤ source.rest.length) :
    ∃ filling, readFully source dst = .ok filling ∧
      filling.total = dst.length ∧ filling.source = source.after dst.length := by
  have count := (served.read_good good dst.length).1
  rw [Nat.min_eq_left within] at count
  let start : Filling := ⟨0, dst, source⟩
  have first : readFullyPass start = .ok (.again start.grown) := by
    rw [readFullyPass_eq some]
    have delivers : source.count (dst.length - 0) ≠ 0 := by
      rw [Nat.sub_zero, count]
      omega
    rw [if_neg delivers]
  have total : start.grown.total = dst.length := by
    simp only [Filling.grown, start, Nat.sub_zero, Nat.zero_add, count]
  have length : start.grown.dst.length = dst.length :=
    (filled_start source dst).grown.length
  have second : readFullyPass start.grown = .ok (.done start.grown) := by
    rw [readFullyPass, if_neg (by omega)]
  obtain ⟨fuel, fuelEq⟩ : ∃ fuel, source.rest.length + 1 = fuel + 1 + 1 :=
    ⟨source.rest.length - 1, by omega⟩
  refine ⟨start.grown, ?_, total, rfl⟩
  rw [readFully, fuelEq, Loop.run_again first, Loop.run_done second]

/-- How many reads the metadata takes. -/
def metadataReads (metadata chunkSize : Nat) : Nat :=
  (metadata + (chunkSize - 1)) / chunkSize

theorem metadataReads_sub {metadata chunkSize : Nat} (some : 0 < metadata)
    (room : 0 < chunkSize) :
    metadataReads metadata chunkSize =
      metadataReads (metadata - min metadata chunkSize) chunkSize + 1 := by
  rw [metadataReads, metadataReads]
  rcases Nat.le_total chunkSize metadata with chunk | last
  · have fewer := Nat.div_eq_sub_div room
      (show chunkSize ≤ metadata + (chunkSize - 1) by omega)
    have moved : metadata - min metadata chunkSize + (chunkSize - 1) =
        metadata + (chunkSize - 1) - chunkSize := by omega
    rw [fewer, moved]
  · have one : (metadata + (chunkSize - 1)) / chunkSize = 1 := by
      apply Nat.div_eq_of_lt_le
      · omega
      · omega
    have none : (metadata - min metadata chunkSize + (chunkSize - 1)) /
        chunkSize = 0 := by
      apply Nat.div_eq_of_lt
      omega
    rw [one, none]

/-- Nothing is short of the metadata that is left to skip. -/
structure Skippable (skipping : Skipping) : Prop where
  served : skipping.source.Served
  good : skipping.source.file.good = true
  room : 0 < skipping.scratch.length
  within : skipping.remaining ≤ skipping.source.rest.length

variable {skipping : Skipping}

/-- A pass of the metadata loop makes one read, which is one fewer to make. -/
theorem Skippable.pass (skippable : Skippable skipping)
    (more : 0 < skipping.remaining) :
    ∃ next, skipMetadataPass skipping = .ok (.again next) ∧ Skippable next ∧
      next.scratch.length = skipping.scratch.length ∧
      next.source.file.calls +
          metadataReads next.remaining skipping.scratch.length =
        skipping.source.file.calls +
          metadataReads skipping.remaining skipping.scratch.length := by
  have room := skippable.room
  have within := skippable.within
  obtain ⟨want, wantEq⟩ :
      ∃ want, want = min skipping.remaining skipping.scratch.length := ⟨_, rfl⟩
  have roomLength : (skipping.scratch.take want).length = want := by
    rw [List.length_take]
    omega
  have some : 0 < (skipping.scratch.take want).length := by omega
  obtain ⟨filling, reads, total, source⟩ :=
    readFully_served skippable.served skippable.good some (by omega)
  have dstLength : filling.dst.length = want := by
    obtain ⟨other, reads', filled, _⟩ :=
      readFully_eq skipping.source (skipping.scratch.take want)
    rw [reads] at reads'
    cases reads'
    rw [filled.length, roomLength]
  rw [roomLength] at total source
  obtain ⟨count, calls, stays⟩ :=
    skippable.served.read_good skippable.good want
  refine ⟨{
    remaining := skipping.remaining - want
    scratch := filling.dst ++ skipping.scratch.drop want
    source := filling.source }, ?_, ?_, ?_, ?_⟩
  · rw [skipMetadataPass, if_pos more]
    dsimp only
    rw [← wantEq, Span.first_of_le (by omega), Checked.ok_bind, reads,
      Checked.ok_bind, if_neg (by simp [total]), total,
      Span.difference_of_le (by omega), Checked.ok_bind]
  · exact {
      served := source ▸ skippable.served.after want
      good := by
        rw [source]
        exact stays.mpr (by omega)
      room := by
        rw [List.length_append, dstLength, List.length_drop]
        omega
      within := by
        rw [source, FileByteSource.rest_after, List.length_drop, count]
        dsimp only
        omega }
  · rw [List.length_append, dstLength, List.length_drop]
    omega
  · have fewer := metadataReads_sub more room
    rw [← wantEq] at fewer
    rw [source, calls, fewer]
    dsimp only
    omega

/-- The metadata loop makes the reads the metadata takes. -/
theorem skipMetadata_calls {fuel : Nat} {result : Skipping}
    (skippable : Skippable skipping)
    (returned : Loop.run skipMetadataPass fuel skipping = .ok result) :
    result.source.Served ∧ result.source.file.good = true ∧
      result.source.file.calls = skipping.source.file.calls +
        metadataReads skipping.remaining skipping.scratch.length := by
  apply Loop.run_returned Skippable
    (fun skipping result => result.source.Served ∧
      result.source.file.good = true ∧
      result.source.file.calls = skipping.source.file.calls +
        metadataReads skipping.remaining skipping.scratch.length)
    _ _ skippable returned
  · intro skipping result skippable done
    cases SkipStep.of_pass done with
    | finished nothing =>
        have room := skippable.room
        have none : metadataReads 0 skipping.scratch.length = 0 := by
          apply Nat.div_eq_of_lt
          omega
        rw [nothing, none]
        exact ⟨skippable.served, skippable.good, rfl⟩
  · intro skipping next skippable again
    cases SkipStep.of_pass again with
    | discarded more _ _ =>
        obtain ⟨other, passed, kept, chunk, calls⟩ := skippable.pass more
        rw [again] at passed
        cases passed
        refine ⟨kept, ?_⟩
        rintro result ⟨served, good, total⟩
        rw [chunk, calls] at total
        exact ⟨served, good, total⟩

/-- A constructor that returns has read the header at once and the metadata in
scratch buffers. -/
theorem construct_calls {source : FileByteSource} {fuel chunkSize : Nat}
    {reader : DbnReader} (served : source.Served)
    (good : source.file.good = true) (room : 0 < chunkSize)
    (returned : construct fuel source chunkSize = .ok reader) :
    reader.source.Served ∧ reader.source.file.good = true ∧
      reader.source.file.calls = source.file.calls + 1 +
        metadataReads (metadataLen source.rest) chunkSize := by
  have accepted := parsePrologue_eq_ok.mp (construct_returned returned).1
  have fits := accepted.2
  have whole : 8 ≤ source.rest.length := by omega
  have length : (List.replicate 8 (0 : UInt8)).length = 8 := rfl
  have some : 0 < (List.replicate 8 (0 : UInt8)).length := by decide
  obtain ⟨header, reads, total, after⟩ :=
    readFully_served served good some (by rwa [length])
  obtain ⟨other, reads', filled, _⟩ :=
    readFully_eq source (List.replicate 8 0)
  rw [reads] at reads'
  cases reads'
  rw [length] at total after
  have dst : header.dst = source.rest.take 8 := filled.whole total
  obtain ⟨count, calls, stays⟩ := served.read_good good 8
  -- Take the constructor apart: the header, its check, and the metadata loop.
  simp only [construct, skipPrologue, reads, Checked.ok_bind] at returned
  rw [if_neg (by rw [filled.length, total]; exact fun differ => differ rfl),
    dst, checkHeader_take whole, checkHeader_eq whole, accepted.1,
    Checked.ok_bind] at returned
  obtain ⟨skipped, skips, result⟩ := Checked.bind_eq_ok.mp returned
  have same : skipped.source = reader.source :=
    congrArg DbnReader.source (Except.ok.inj result)
  have number : (UInt32.ofNat (metadataLen source.rest)).toNat =
      metadataLen source.rest :=
    UInt32.toNat_ofNat_of_lt' (metadataLen_lt source.rest)
  have skippable : Skippable ⟨(UInt32.ofNat (metadataLen source.rest)).toNat,
      List.replicate chunkSize 0, header.source⟩ := {
    served := after ▸ served.after 8
    good := by
      rw [after]
      exact stays.mpr whole
    room := by rwa [List.length_replicate]
    within := by
      rw [after, FileByteSource.rest_after, List.length_drop, count]
      simp only [number]
      omega }
  obtain ⟨kept, stillGood, made⟩ := skipMetadata_calls skippable skips
  rw [after, calls, number, List.length_replicate, same] at made
  rw [same] at kept stillGood
  exact ⟨kept, stillGood, made⟩

/-! ## The records -/

/-- The reads made and the reads owed add up to a total. -/
structure Metered (total chunkSize : Nat) (reader : DbnReader) : Prop where
  valid : reader.Valid
  chunk : reader.scratch.length = chunkSize
  served : reader.source.Served
  paid : reader.source.file.calls + reader.source.owed chunkSize = total

variable {reader : DbnReader} {total chunkSize : Nat}

theorem Metered.read (metered : Metered total chunkSize reader)
    (room : 0 < chunkSize) :
    let source := reader.source.after reader.scratch.length
    source.Served ∧ source.file.calls + source.owed chunkSize = total := by
  intro source
  have paid := metered.served.calls_add_owed room
  rw [metered.paid] at paid
  have same : source = reader.source.after chunkSize := by
    rw [← metered.chunk]
  rw [same]
  exact ⟨metered.served.after chunkSize, paid⟩

/-- A pass either leaves the source alone or pays for a read. -/
theorem Metered.pass (metered : Metered total chunkSize reader)
    (room : 0 < chunkSize)
    {outcome : Pass DbnReader (Option Event × DbnReader)}
    (passed : reader.pass = .ok outcome) :
    match outcome with
    | .again next => Metered total chunkSize next
    | .done (_, next) => Metered total chunkSize next := by
  obtain ⟨served, paid⟩ := metered.read room
  cases PassStep.of_pass metered.valid passed with
  | emitted verdict counted =>
      exact { metered with valid := valid_consumed metered.valid verdict _ }
  | skipped verdict counted =>
      exact { metered with valid := valid_consumed metered.valid verdict _ }
  | refilled verdict delivers =>
      exact {
        valid := valid_refilled reader
        chunk := (scratch_length_refilled reader).trans metered.chunk
        served := served
        paid := paid }
  | exhausted verdict spent =>
      exact {
        valid := metered.valid
        chunk := (scratch_length_exhausted reader).trans metered.chunk
        served := served
        paid := paid }
  | stopped verdict => exact { metered with }

theorem metered_opened {file : Bytes} {script : Nat → ReadOutcome} {fuel : Nat}
    (room : 0 < chunkSize)
    (whole : ∀ call, ∃ count, script call = .bytes count ∧
      file.length ≤ count)
    (built : construct fuel (.onFile file script) chunkSize = .ok reader) :
    Metered (2 + metadataReads (metadataLen file) chunkSize +
      (recordRegion file).length / chunkSize) chunkSize reader := by
  have served : (FileByteSource.onFile file script).Served := {
    ordinary := ⟨fun call => .inr (whole call)⟩
    faultless := {
      script := fun call =>
        have ⟨count, serves, _⟩ := whole call
        ⟨count, serves⟩
      ended := by simp [FileByteSource.onFile, IfStream.good] } }
  have fresh := (construct_returned built).2.1
  obtain ⟨kept, good, calls⟩ := construct_calls served rfl room built
  have valid : reader.Valid := by
    rw [Valid, fresh.assembler]
    exact RecordAssembler.valid_empty
  exact {
    valid := valid
    chunk := fresh.chunk
    served := kept
    paid := by
      have rest := fresh.rest
      rw [FileByteSource.rest_onFile] at rest calls
      have none : (FileByteSource.onFile file script).file.calls = 0 := rfl
      rw [FileByteSource.owed, rest, good, calls, none, if_pos rfl]
      omega }

theorem Reached.metered {file : Bytes} {script : Nat → ReadOutcome}
    (room : 0 < chunkSize)
    (whole : ∀ call, ∃ count, script call = .bytes count ∧
      file.length ≤ count)
    (reached : Reached file chunkSize script reader) :
    Metered (2 + metadataReads (metadataLen file) chunkSize +
      (recordRegion file).length / chunkSize) chunkSize reader := by
  apply Loop.Reached.invariant _ _ _ reached
  · intro reader opened
    obtain ⟨fuel, built⟩ := opened
    exact metered_opened room whole built
  · intro reader next metered again
    exact metered.pass room again
  · intro reader next event metered done
    exact metered.pass room done

end DbnReader

end TradingSim
