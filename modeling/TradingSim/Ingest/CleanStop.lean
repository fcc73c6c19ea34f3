import TradingSim.Ingest.Reader

/-!
# Clean stops of the streaming reader

`next` takes a read that delivers nothing for the end of the file.  The same
count also comes back from a device that failed and from a scratch buffer with no
room, and neither sets `failed`; and a scratch buffer with no room never finishes
skipping metadata.  This is said exactly: when a stop without a failure is the
end of the file, and for which chunk sizes the reader is well behaved.
-/

namespace TradingSim

open Foundation

namespace Reader

/-- A call that hands back no event and reports no failure comes only after the
last byte of the file was delivered. -/
def CleanStops (reader : Reader) : Prop :=
  ∀ count observations middle after,
    reader.calls count = .ok (observations, middle) →
    middle.next = .ok (none, after) → after.failed = false →
    after.pending = []

/-- The streaming reader never delivers more bytes after a stop that is not a
failure. -/
theorem pending_of_stop {reader after : DbnReader} (valid : reader.Valid)
    (called : reader.next = .ok (none, after))
    (clean : after.failed = false) :
    (streaming after).pending = reader.lost := by
  obtain ⟨⟨event, stop⟩, returned, replays⟩ := DbnReader.next_replays valid
  rw [called] at returned
  cases returned
  have spent := replays.spent rfl clean
  have whole :=
    after.source.supply_append_lost after.scratch.length
  rw [FileByteSource.supply_of_zero spent, List.nil_append] at whole
  rw [pending, ← whole, ← replays.lost]
  rfl

theorem calls_streaming {count : Nat} {reader : DbnReader}
    {observations : List Observation} {last : Reader}
    (called : (streaming reader).calls count = .ok (observations, last)) :
    ∃ after, last = streaming after := by
  induction count generalizing reader observations with
  | zero =>
      cases called
      exact ⟨reader, rfl⟩
  | succ count ih =>
      obtain ⟨event, middle, rest, first, others, _⟩ :=
        Iterator.calls_uncons called
      obtain ⟨⟨_, inner⟩, _, wrapped⟩ := Checked.bind_eq_ok.mp first
      cases wrapped
      exact ih others

theorem failed_of_stop {version : UInt8} {lost : Bytes} {reader after : Reader}
    (running : Running version lost reader)
    (called : reader.next = .ok (none, after)) :
    after.failed =
      Replay.failedAt (dbnFramer.tail reader.unread) reader.failed := by
  have answered := (running.next called).2
  obtain ⟨_, _, _, ended⟩ := Replay.next_consumed reader.replay
    (Replay.framed_ofStream _ _ _)
  rw [answered] at ended
  exact (ended rfl).2

/-- Stops of a streaming reader that has not failed are clean exactly when its
reads deliver the whole file, or a corruption before they run dry. -/
theorem cleanStops_iff {reader : DbnReader} (valid : reader.Valid)
    (notFailed : reader.failed = false) :
    (streaming reader).CleanStops ↔
      reader.lost = [] ∨
        frameVerdict (dbnFramer.tail reader.unread) = .corrupt := by
  have streamingValid : (streaming reader).Valid := valid
  have running : Running reader.version reader.lost (streaming reader) :=
    streamingValid.running
  constructor
  · intro stops
    obtain ⟨last, drains, _, finished⟩ := drains_frames running
    obtain ⟨observations, middle, called, stop⟩ := drains.calls observe
    obtain ⟨inner, rfl⟩ := calls_streaming called
    have kept := (running.calls called).1
    obtain ⟨⟨event, after⟩, answers, wrapped⟩ := Checked.bind_eq_ok.mp stop
    cases wrapped
    have failed : after.failed = Replay.failedAt (dbnFramer.tail reader.unread)
        reader.failed := congrArg Replay.failed finished
    by_cases corrupt : frameVerdict (dbnFramer.tail reader.unread) = .corrupt
    · exact .inr corrupt
    · left
      have clean : after.failed = false := by
        simp [failed, Replay.failedAt, notFailed, corrupt]
      have pending := stops _ _ _ _ called stop clean
      rw [pending_of_stop kept.valid answers clean] at pending
      rw [← kept.lostEq]
      exact pending
  · rintro condition count observations middle after called stop clean
    obtain ⟨inner, rfl⟩ := calls_streaming called
    obtain ⟨kept, used, consumed⟩ := running.calls called
    obtain ⟨⟨event, last⟩, answers, wrapped⟩ := Checked.bind_eq_ok.mp stop
    cases wrapped
    rcases condition with whole | corrupt
    · rw [pending_of_stop kept.valid answers clean, ← whole]
      exact kept.lostEq
    · have tail : dbnFramer.tail (streaming inner).unread =
          dbnFramer.tail reader.unread := consumed.tailEq
      rw [failed_of_stop kept stop, tail, Replay.failedAt] at clean
      simp [corrupt] at clean

end Reader

namespace Setup

variable {file : Bytes} {chunkSize : Nat} {script : Nat → ReadOutcome}

theorem Opens.supply_append_lost {reader : DbnReader}
    (opens : (streaming chunkSize script).Opens file (.streaming reader)) :
    reader.unread = reader.source.supply chunkSize ∧
      reader.source.supply chunkSize ++ reader.lost = recordRegion file := by
  have opened := opens.opened
  have chunk : reader.scratch.length = chunkSize := by
    obtain ⟨fuel, built⟩ := opens
    obtain ⟨inner, returned, wrapped⟩ := Checked.bind_eq_ok.mp built
    cases wrapped
    exact (DbnReader.construct_returned returned).2.1.chunk
  have unread : reader.unread = reader.source.supply chunkSize := by
    have empty : reader.assembler.unconsumed = [] := opened.held
    rw [DbnReader.unread, empty, List.nil_append, chunk]
  refine ⟨unread, ?_⟩
  rw [← unread]
  exact opened.region

/-- Over a file whose reads may fail, the stops of a reader are clean exactly
when its reads deliver the whole record region before one of them delivers
nothing, or deliver a corruption before that. -/
theorem cleanStops_of_opens_iff {reader : DbnReader}
    (opens : (streaming chunkSize script).Opens file (.streaming reader)) :
    (Reader.streaming reader).CleanStops ↔
      reader.source.supply chunkSize = recordRegion file ∨
        frameVerdict (dbnFramer.tail (reader.source.supply chunkSize)) =
          .corrupt := by
  obtain ⟨unread, region⟩ := opens.supply_append_lost
  rw [Reader.cleanStops_iff opens.opened.valid opens.opened.failed, unread]
  apply or_congr_left
  rw [← region]
  exact List.self_eq_append_right.symm

/-- A device that delivers the header and fails on the next read. -/
def failingScript : Nat → ReadOutcome :=
  fun call => if call = 0 then .bytes 8 else .ioError 0

/-- The condition for clean stops, on a device that fails. -/
theorem cleanStops_of_opens_iff_failing :
    ∃ reader : DbnReader,
      (streaming 64 failingScript).Opens oneFrameFile (.streaming reader) ∧
      ((Reader.streaming reader).CleanStops ↔
        reader.source.supply 64 = recordRegion oneFrameFile ∨
          frameVerdict (dbnFramer.tail (reader.source.supply 64)) =
            .corrupt) := by
  have opens : ∃ reader : DbnReader,
      (streaming 64 failingScript).Opens oneFrameFile (.streaming reader) :=
    ⟨_, 1, rfl⟩
  obtain ⟨reader, opens⟩ := opens
  exact ⟨reader, opens, cleanStops_of_opens_iff opens⟩

/-- With that device, the first call reports a clean end in front of the only
record of the file. -/
theorem not_cleanStops_failing :
    ∃ reader : DbnReader,
      (streaming 64 failingScript).Opens oneFrameFile (.streaming reader) ∧
      ¬ (Reader.streaming reader).CleanStops := by
  refine ⟨_, ⟨1, rfl⟩, ?_⟩
  intro stops
  have pending := stops 0 [] _ _ rfl rfl rfl
  cases pending

/-! ## Every chunk size -/

/-- Construction ends, with an exception or exactly behind the prologue, and
then no stop is taken for the end of the file in front of it. -/
def WellBehaved (setup : Setup) (file : Bytes) : Prop :=
  (∃ error, setup.Throws file error) ∨
  ∃ reader, setup.Opens file reader ∧
    8 + metadataLen file ≤ file.length ∧
    reader.pending = file.drop (8 + metadataLen file) ∧ reader.CleanStops

/-- A reader that opens is well behaved exactly when its stops are clean. -/
theorem Opens.wellBehaved_iff_cleanStops {setup : Setup} {reader : Reader}
    (opens : setup.Opens file reader) :
    setup.WellBehaved file ↔ reader.CleanStops := by
  have opened := opens.opened
  constructor
  · rintro (⟨error, threw⟩ | ⟨other, opens', _, _, stops⟩)
    · exact (opens.not_throws error threw).elim
    · rw [opens.unique opens']
      exact stops
  · intro stops
    refine .inr ⟨reader, opens, ?_, ?_, stops⟩
    · exact (parsePrologue_eq_ok.mp opened.accepted).2
    · have whole := reader.held_append_pending
      rw [opened.held, List.nil_append, opened.region] at whole
      exact whole

theorem Opens.wellBehaved_streaming_iff {reader : DbnReader}
    (opens : (streaming chunkSize script).Opens file (.streaming reader)) :
    (streaming chunkSize script).WellBehaved file ↔
      reader.lost = [] ∨
        frameVerdict (dbnFramer.tail reader.unread) = .corrupt := by
  rw [opens.wellBehaved_iff_cleanStops]
  exact Reader.cleanStops_iff opens.opened.valid opens.opened.failed

section

variable (chunkSize : Nat) (schedule : Nat → Nat)

theorem wellBehaved_of_refused {error : PrologueError}
    (refused : parseHeader file = .error error) :
    (streaming chunkSize (shortReads schedule)).WellBehaved file := by
  left
  rcases DbnReader.construct_eq 0 (.onFile file (shortReads schedule)) chunkSize
    with ⟨_, throws⟩ | ⟨_, _, _, _, equal⟩
  · exact ⟨.truncatedHeader, 0, by rw [construct, throws]; rfl⟩
  · rw [FileByteSource.rest_onFile, refused] at equal
    exact ⟨error, 0, by rw [construct, equal]; rfl⟩

/-- Behind an accepted header, construction is the metadata loop. -/
theorem construct_of_accepted {version : UInt8}
    (accepted : parseHeader file = .ok version) (fuel : Nat) :
    ∃ source, (streaming chunkSize (shortReads schedule)).construct fuel file =
      Loop.run DbnReader.skipMetadataPass fuel
        ⟨metadataLen file, List.replicate chunkSize 0, source⟩ >>= fun skipped =>
          .ok (.streaming {
            source := skipped.source
            scratch := skipped.scratch
            version }) := by
  have whole := (parseHeader_whole accepted).1
  rcases DbnReader.construct_eq fuel (.onFile file (shortReads schedule)) chunkSize
    with ⟨short, _⟩ | ⟨header, _, _, _, equal⟩
  · have few := short (FileByteSource.faultless_onFile file schedule)
    rw [FileByteSource.rest_onFile] at few
    omega
  · rw [FileByteSource.rest_onFile, accepted] at equal
    refine ⟨header.source, ?_⟩
    rw [construct, equal]
    exact bind_assoc _ _ _

/-- Without metadata an accepted header opens the file, whatever the chunk
size. -/
theorem opens_of_no_metadata {version : UInt8}
    (accepted : parseHeader file = .ok version)
    (noMetadata : metadataLen file = 0) :
    ∃ reader : DbnReader,
      (streaming chunkSize (shortReads schedule)).Opens file
        (.streaming reader) := by
  obtain ⟨source, equal⟩ :=
    construct_of_accepted chunkSize schedule accepted 1
  rw [noMetadata] at equal
  exact ⟨_, 1, equal⟩

theorem wellBehaved_of_room (file : Bytes) (room : 0 < chunkSize) :
    (streaming chunkSize (shortReads schedule)).WellBehaved file := by
  have clean : (streaming chunkSize (shortReads schedule)).Clean :=
    ⟨room, schedule, rfl⟩
  have outcome := clean.outcome file
  cases parsed : parsePrologue file with
  | error error =>
      simp only [parsed] at outcome
      exact .inl ⟨error, outcome⟩
  | ok version =>
      simp only [parsed] at outcome
      obtain ⟨reader, fuel, built⟩ := outcome
      obtain ⟨inner, _, wrapped⟩ := Checked.bind_eq_ok.mp built
      cases wrapped
      have opens : (streaming chunkSize (shortReads schedule)).Opens file
        (.streaming inner) := ⟨fuel, built⟩
      apply opens.wellBehaved_streaming_iff.mpr
      exact .inl (opens.opened.whole clean)

theorem wellBehaved_of_header_only {version : UInt8}
    (accepted : parseHeader file = .ok version)
    (noMetadata : metadataLen file = 0) (headerOnly : file.length = 8) :
    (streaming chunkSize (shortReads schedule)).WellBehaved file := by
  obtain ⟨reader, opens⟩ :=
    opens_of_no_metadata chunkSize schedule accepted noMetadata
  have region := opens.supply_append_lost.2
  have nothing : recordRegion file = [] := by
    rw [recordRegion, noMetadata]
    exact List.drop_eq_nil_of_le (Nat.le_of_eq headerOnly)
  rw [nothing] at region
  apply opens.wellBehaved_streaming_iff.mpr
  exact .inl (List.append_eq_nil_iff.mp region).2

/-- With metadata to skip and no room to skip it through, an accepted header is
never got past. -/
theorem not_wellBehaved_of_metadata {version : UInt8}
    (accepted : parseHeader file = .ok version)
    (metadata : 0 < metadataLen file) :
    ¬ (streaming 0 (shortReads schedule)).WellBehaved file := by
  have diverges : ∀ fuel,
      (streaming 0 (shortReads schedule)).construct fuel file =
        .error .outOfFuel := by
    intro fuel
    obtain ⟨source, equal⟩ := construct_of_accepted 0 schedule accepted fuel
    rw [equal, DbnReader.skipMetadata_diverges rfl metadata]
    rfl
  rintro (⟨error, fuel, threw⟩ | ⟨reader, ⟨fuel, built⟩, _⟩)
  · rw [diverges fuel] at threw
    cases threw
  · rw [diverges fuel] at built
    cases built

/-- Without metadata the first read of a record asks for nothing, and the stop
is taken for the end of the file. -/
theorem not_wellBehaved_of_records {version : UInt8}
    (accepted : parseHeader file = .ok version)
    (noMetadata : metadataLen file = 0) (records : 8 < file.length) :
    ¬ (streaming 0 (shortReads schedule)).WellBehaved file := by
  obtain ⟨reader, opens⟩ :=
    opens_of_no_metadata 0 schedule accepted noMetadata
  obtain ⟨unread, region⟩ := opens.supply_append_lost
  rw [FileByteSource.supply_size_zero] at unread region
  have nil : dbnFramer.IsTail [] := Framer.isTail_of_short rfl
  rw [opens.wellBehaved_streaming_iff, unread, Framer.tail_of_isTail nil]
  rintro (nothing | corrupt)
  · rw [nothing, recordRegion, noMetadata] at region
    have length := congrArg List.length region
    rw [List.append_nil, List.length_nil, List.length_drop] at length
    omega
  · cases corrupt

end

/-- Over a file whose reads do not fail, the streaming reader is well behaved
exactly when its chunks have room, or the header is refused, or nothing lies
behind the header. -/
theorem wellBehaved_iff (file : Bytes) (chunkSize : Nat)
    (schedule : Nat → Nat) :
    (streaming chunkSize (shortReads schedule)).WellBehaved file ↔
      0 < chunkSize ∨ (∃ error, parseHeader file = .error error) ∨
        (metadataLen file = 0 ∧ file.length = 8) := by
  cases chunkSize with
  | succ chunk =>
      have room : 0 < chunk + 1 := Nat.succ_pos chunk
      simp [wellBehaved_of_room (chunk + 1) schedule file room]
  | zero =>
      cases accepted : parseHeader file with
      | error error => simp [wellBehaved_of_refused 0 schedule accepted]
      | ok version =>
          have whole := (parseHeader_whole accepted).1
          rcases Nat.eq_zero_or_pos (metadataLen file) with none | some
          · rcases Nat.eq_or_lt_of_le whole with headerOnly | records
            · have behaved := wellBehaved_of_header_only 0 schedule accepted
                none headerOnly.symm
              simp [behaved, none, headerOnly.symm]
            · have not := not_wellBehaved_of_records schedule accepted none
                records
              simp [not, none, Nat.ne_of_gt records]
          · have not := not_wellBehaved_of_metadata schedule accepted some
            simp [not, Nat.ne_of_gt some]

/-- Without room in the scratch buffer, the first call reports a clean end in
front of the only record of the file. -/
theorem not_wellBehaved_without_room :
    ¬ (streaming 0 (shortReads fun _ => 64)).WellBehaved oneFrameFile := by
  have opens : ∃ reader : DbnReader,
      (streaming 0 (shortReads fun _ => 64)).Opens oneFrameFile
        (.streaming reader) ∧ ¬ (Reader.streaming reader).CleanStops := by
    refine ⟨_, ⟨1, rfl⟩, ?_⟩
    intro stops
    have pending := stops 0 [] _ _ rfl rfl rfl
    cases pending
  obtain ⟨reader, opens, notClean⟩ := opens
  rw [opens.wellBehaved_iff_cleanStops]
  exact notClean

end Setup

end TradingSim
