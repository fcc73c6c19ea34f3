import TradingSim.Ingest.Parity
import TradingSim.Ingest.Truncation

/-!
# Failing devices

A stream that fails reads nothing more, and says no more than that.  So whatever
the device does, and wherever it fails, the streaming reader does what a reader
of a shorter file does: it refuses its prologue, or hands back what the shorter
file holds.  Nothing is forged, and nothing is told apart from an early end.
-/

namespace TradingSim

open Foundation

/-- A file cut between its header and the end of its metadata is truncated. -/
theorem parsePrologue_take_eight {file : Bytes} {version : UInt8}
    (accepted : parseHeader file = .ok version) (metadata : 0 < metadataLen file) :
    parsePrologue (file.take 8) = .error .truncatedMetadata := by
  have whole := (parseHeader_whole accepted).1
  have short : (file.take 8).length < 8 + metadataLen file := by
    rw [List.length_take_of_le whole]
    omega
  rw [parsePrologue, parseHeader_take_eight, accepted, metadataLen_take_eight]
  exact if_pos short

namespace DbnReader

theorem skipMetadata_of_nothing {scratch : Bytes} {source : FileByteSource}
    {fuel : Nat} {error : PrologueError} :
    Loop.run skipMetadataPass fuel ⟨0, scratch, source⟩ ≠
      .error (.thrown error) := by
  cases fuel with
  | zero => exact fun threw => by cases threw
  | succ fuel =>
      have done : skipMetadataPass ⟨0, scratch, source⟩ =
          .ok (.done ⟨0, scratch, source⟩) := rfl
      rw [Loop.run_done done]
      exact fun threw => by cases threw

/-- A constructor that throws does so over what a device may deliver: some
beginning of the file has a prologue that is refused like that. -/
theorem construct_threw {fuel chunkSize : Nat} {source : FileByteSource}
    {error : PrologueError}
    (threw : construct fuel source chunkSize = Ingest.throw error) :
    ∃ delivered, delivered <+: source.rest ∧
      parsePrologue delivered = .error error := by
  rcases construct_eq fuel source chunkSize with
    ⟨_, throws⟩ | ⟨header, _, _, _, equal⟩
  · -- Nothing shorter than a header is told apart from nothing at all.
    rw [threw] at throws
    cases throws
    exact ⟨[], List.nil_prefix, rfl⟩
  · rw [threw] at equal
    cases accepted : parseHeader source.rest with
    | error refused =>
        simp only [accepted] at equal
        cases equal
        exact ⟨source.rest, List.prefix_refl _, by rw [parsePrologue, accepted]⟩
    | ok version =>
        simp only [accepted] at equal
        rcases Checked.bind_eq_error.mp equal.symm with fails | ⟨_, _, fails⟩
        · rcases Nat.eq_zero_or_pos (metadataLen source.rest) with none | some
          · rw [none] at fails
            exact (skipMetadata_of_nothing fails).elim
          · rcases skipMetadata_failed fails with thrown | outOfFuel
            · cases thrown
              exact ⟨_, List.take_prefix 8 _,
                parsePrologue_take_eight accepted some⟩
            · cases outOfFuel
        · cases fails

end DbnReader

namespace Setup

variable {setup : Setup} {file : Bytes}

/-- What a reader will see of a file is a file. -/
theorem Opens.delivered {reader : Reader} (opens : setup.Opens file reader) :
    ∃ delivered, delivered ++ reader.lost = file ∧
      recordRegion delivered = reader.unread ∧
      parsePrologue delivered = .ok reader.version := by
  have accepted := opens.opened.accepted
  have region := opens.opened.region
  have fits := (parsePrologue_eq_ok.mp accepted).2
  have length := congrArg List.length region
  rw [List.length_append, recordRegion, List.length_drop] at length
  refine ⟨file.take (8 + metadataLen file + reader.unread.length), ?_, ?_,
    parsePrologue_take accepted (Nat.le_add_right _ _) (by omega)⟩
  · have lost : reader.lost =
        file.drop (8 + metadataLen file + reader.unread.length) := by
      rw [← List.drop_drop, ← recordRegion, ← region, List.drop_left]
    rw [lost, List.take_append_drop]
  · rw [recordRegion_take (by omega), Nat.add_sub_cancel_left, ← region,
      List.take_left]

/-- A failing device is a shorter file.  Whatever the device does, there is a
beginning of the file such that every reader over that alone refuses the prologue
for the same reason, or is opened with the same version and observed alike, call
by call; and then the rest of the file is what no read of the device reports. -/
theorem failing_device_is_shorter_file {chunkSize : Nat} (room : 0 < chunkSize)
    (script : Nat → ReadOutcome) (file : Bytes) :
    ∃ delivered, delivered <+: file ∧ ∀ clean : Setup, clean.Clean →
      (∃ error, (streaming chunkSize script).Throws file error ∧
        clean.Throws delivered error) ∨
      ∃ reader shorter,
        (streaming chunkSize script).Opens file reader ∧
        delivered ++ reader.lost = file ∧ clean.Opens delivered shorter ∧
        reader.version = shorter.version ∧
        ∀ count, ∃ observations last shorterLast,
          reader.calls count = .ok (observations, last) ∧
          shorter.calls count = .ok (observations, shorterLast) := by
  have source := FileByteSource.rest_onFile file script
  cases built : DbnReader.construct (metadataLen file).succ
      (.onFile file script) chunkSize with
  | error failure =>
      have threw : ∃ error, failure = .thrown error := by
        rcases DbnReader.construct_failed built with thrown | rfl
        · exact thrown
        · have enough : metadataLen
              (FileByteSource.onFile file script).rest <
                (metadataLen file).succ := by
            rw [source]
            exact Nat.lt_succ_self _
          exact (DbnReader.construct_ends room enough built).elim
      obtain ⟨error, rfl⟩ := threw
      obtain ⟨delivered, beginning, refused⟩ := DbnReader.construct_threw built
      rw [source] at beginning
      refine ⟨delivered, beginning, fun clean whole => .inl ⟨error, ?_, ?_⟩⟩
      · refine ⟨(metadataLen file).succ, ?_⟩
        rw [construct, built]
        rfl
      · simpa only [refused] using whole.outcome delivered
  | ok inner =>
      have opens : (streaming chunkSize script).Opens file (.streaming inner) := by
        refine ⟨(metadataLen file).succ, ?_⟩
        rw [construct, built]
        rfl
      obtain ⟨delivered, all, region, accepted⟩ := opens.delivered
      refine ⟨delivered, ⟨_, all⟩, fun clean whole => .inr ?_⟩
      obtain ⟨shorter, shorterOpens⟩ := whole.opens_iff.mpr ⟨_, accepted⟩
      have version := shorterOpens.opened.accepted
      rw [accepted] at version
      refine ⟨_, shorter, opens, all, shorterOpens, Except.ok.inj version, ?_⟩
      apply Reader.calls_agree opens.opened.valid shorterOpens.opened.valid
      rw [(shorterOpens.replay_eq whole).2, region, Reader.replay,
        opens.opened.failed, opens.opened.stats]

/-- The sample file, on a device whose tenth read fails. -/
theorem failing_device_is_shorter_file_sample :
    ∃ delivered, delivered <+: sampleFile ∧ ∀ clean : Setup, clean.Clean →
      (∃ error, (streaming 16 fun call =>
          if call = 9 then .ioError 2 else .bytes 5).Throws sampleFile error ∧
        clean.Throws delivered error) ∨
      ∃ reader shorter,
        (streaming 16 fun call =>
          if call = 9 then .ioError 2 else .bytes 5).Opens sampleFile reader ∧
        delivered ++ reader.lost = sampleFile ∧ clean.Opens delivered shorter ∧
        reader.version = shorter.version ∧
        ∀ count, ∃ observations last shorterLast,
          reader.calls count = .ok (observations, last) ∧
          shorter.calls count = .ok (observations, shorterLast) :=
  failing_device_is_shorter_file (by decide) _ sampleFile

end Setup

end TradingSim
