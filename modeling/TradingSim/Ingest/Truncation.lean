import TradingSim.Ingest.Accounting

/-!
# Truncated files

Cutting a file off behind its prologue cuts its record region off, and keeps
exactly the frames that end in front of the cut.  What a reader makes of the cut
file is therefore the beginning of what it makes of the whole, and a corruption
that shows in the cut file is a corruption of the whole.
-/

namespace TradingSim

open Foundation

/-- A file cut off behind its header has the same header. -/
theorem parseHeader_take {file : Bytes} {count : Nat} (header : 8 ≤ count) :
    parseHeader (file.take count) = parseHeader file := by
  rw [← parseHeader_take_eight, List.take_take, Nat.min_eq_left header,
    parseHeader_take_eight]

theorem metadataLen_take {file : Bytes} {count : Nat} (header : 8 ≤ count) :
    metadataLen (file.take count) = metadataLen file := by
  rw [← metadataLen_take_eight, List.take_take, Nat.min_eq_left header,
    metadataLen_take_eight]

theorem recordRegion_take {file : Bytes} {count : Nat} (header : 8 ≤ count) :
    recordRegion (file.take count) =
      (recordRegion file).take (count - (8 + metadataLen file)) := by
  rw [recordRegion, recordRegion, metadataLen_take header, List.drop_take]

/-- Cutting behind the prologue keeps the file acceptable. -/
theorem parsePrologue_take {file : Bytes} {version : UInt8} {count : Nat}
    (accepted : parsePrologue file = .ok version)
    (behind : 8 + metadataLen file ≤ count) (within : count ≤ file.length) :
    parsePrologue (file.take count) = .ok version := by
  have header : 8 ≤ count := by omega
  obtain ⟨parsed, _⟩ := parsePrologue_eq_ok.mp accepted
  apply parsePrologue_eq_ok.mpr
  rw [parseHeader_take header, metadataLen_take header,
    List.length_take_of_le within]
  exact ⟨parsed, behind⟩

/-- The frames of the file that end at or before a position. -/
def framesBefore (file : Bytes) (position : Nat) : List Bytes :=
  ((Framer.frameEnds (8 + metadataLen file)
    (dbnFramer.frames (recordRegion file))).filter fun placed =>
      placed.1 ≤ position).map Prod.snd

theorem frames_recordRegion_take {file : Bytes} {count : Nat}
    (behind : 8 + metadataLen file ≤ count) :
    dbnFramer.frames (recordRegion (file.take count)) =
      framesBefore file count := by
  rw [recordRegion_take (by omega), framesBefore,
    Framer.frames_take _ (8 + metadataLen file), Nat.add_sub_of_le behind]

/-- Cutting a record region drops frames off its end only, and none when the cut
region ends in a corruption, which then is the region's own. -/
theorem frames_of_take (region : Bytes) (count : Nat) :
    dbnFramer.frames (region.take count) <+: dbnFramer.frames region ∧
      (frameVerdict (dbnFramer.tail (region.take count)) = .corrupt →
        dbnFramer.frames region = dbnFramer.frames (region.take count) ∧
          frameVerdict (dbnFramer.tail region) = .corrupt) := by
  have extended : dbnFramer.frames (region.take count ++ region.drop count) =
      dbnFramer.frames (region.take count) ++ dbnFramer.frames
        (dbnFramer.tail (region.take count) ++ region.drop count) :=
    Framer.frames_extend _ _
  rw [List.take_append_drop] at extended
  constructor
  · rw [extended]
    exact List.prefix_append _ _
  · intro corrupt
    have corrupt : dbnFramer.verdict (dbnFramer.tail (region.take count)) =
        .corrupt := corrupt
    have frames := Framer.frames_extend_of_corrupt corrupt (region.drop count)
    have tail :=
      Framer.verdict_tail_extend_of_corrupt corrupt (region.drop count)
    rw [List.take_append_drop] at frames tail
    exact ⟨frames, tail⟩

/-- The counters of a list of frames are at least those of its beginnings. -/
theorem Replay.count_le_of_prefix {some all : List Bytes}
    (beginning : some <+: all)
    (framed : ∀ record ∈ all, dbnFramer.IsFrame record)
    (room : all.length < UInt64.size) :
    Replay.count {} some ≤ Replay.count {} all := by
  have whole := Replay.exact_count framed room
  obtain ⟨others, rfl⟩ := beginning
  have part := Replay.exact_count
    (fun record member => framed record (List.mem_append_left _ member))
    (show some.length < UInt64.size by
      rw [List.length_append] at room
      omega)
  exact part.le whole

namespace Setup

/-- Whatever is made of a file cut behind its prologue is the beginning of what
is made of the whole: the events of the frames in front of the cut, no counter
above its value for the whole (a counter wraps only past `2 ^ 66` bytes, more
than a 64-bit size can express), and no failure that the whole does not have,
with the same events and counters. -/
theorem truncation {whole cut : Setup} (wholeClean : whole.Clean)
    (cutClean : cut.Clean) {file : Bytes} {reader : Reader}
    (opens : whole.Opens file reader) {position : Nat}
    (behind : 8 + metadataLen file ≤ position)
    (within : position ≤ file.length) :
    ∃ cutReader events cutEvents last cutLast,
      cut.Opens (file.take position) cutReader ∧
      reader.Drains events last ∧ cutReader.Drains cutEvents cutLast ∧
      cutEvents <+: events ∧
      cutEvents = (framesBefore file position).filterMap emitted ∧
      (file.length < 2 ^ 66 → cutLast.stats ≤ last.stats) ∧
      (cutLast.failed = true →
        last.failed = true ∧ cutEvents = events ∧
          cutLast.stats = last.stats) := by
  have accepted := opens.opened.accepted
  obtain ⟨cutReader, cutOpens⟩ := cutClean.opens_iff.mpr
    ⟨_, parsePrologue_take accepted behind within⟩
  obtain ⟨last, drains, stats, failed⟩ := opens.drains wholeClean
  obtain ⟨cutLast, cutDrains, cutStats, cutFailed⟩ := cutOpens.drains cutClean
  obtain ⟨beginning, corrupted⟩ := frames_of_take (recordRegion file)
    (position - (8 + metadataLen file))
  rw [← recordRegion_take (by omega)] at beginning corrupted
  refine ⟨cutReader, _, _, last, cutLast, cutOpens, drains, cutDrains,
    beginning.filterMap emitted, ?_, ?_, ?_⟩
  · rw [frames_recordRegion_take behind]
  · intro small
    have framed : ∀ record ∈ dbnFramer.frames (recordRegion file),
        dbnFramer.IsFrame record :=
      fun _ member => Framer.isFrame_of_mem_frames member
    have few := four_mul_frames_le (recordRegion file)
    have region := recordRegion_length_le file
    have size : UInt64.size = 2 ^ 64 := rfl
    rw [stats, cutStats]
    exact Replay.count_le_of_prefix beginning framed (by omega)
  · intro cutFails
    obtain ⟨frames, corrupt⟩ := corrupted (cutFailed.mp cutFails)
    exact ⟨failed.mpr corrupt, by rw [frames], by rw [stats, cutStats, frames]⟩

/-- The sample file, cut in the middle of its third frame. -/
theorem truncation_sample :
    ∃ reader, mapped.Opens sampleFile reader ∧
      ∃ cutReader events cutEvents last cutLast,
        (streaming 16 (shortReads fun _ => 3)).Opens (sampleFile.take 100)
          cutReader ∧
        reader.Drains events last ∧ cutReader.Drains cutEvents cutLast ∧
        cutEvents <+: events ∧
        cutEvents = (framesBefore sampleFile 100).filterMap emitted ∧
        (sampleFile.length < 2 ^ 66 → cutLast.stats ≤ last.stats) ∧
        (cutLast.failed = true →
          last.failed = true ∧ cutEvents = events ∧
            cutLast.stats = last.stats) := by
  have clean : mapped.Clean := trivial
  obtain ⟨reader, opens⟩ := clean.opens_sampleFile
  have cutClean : (streaming 16 (shortReads fun _ => 3)).Clean :=
    ⟨by decide, _, rfl⟩
  refine ⟨reader, opens, ?_⟩
  exact truncation clean cutClean opens (by decide +kernel) (by decide +kernel)

end Setup

end TradingSim
