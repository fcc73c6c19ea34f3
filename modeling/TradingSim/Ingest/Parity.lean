import TradingSim.Ingest.Reader

/-!
# Parity of the readers

A consumer cannot tell which reader it holds.  Both constructors refuse the same
files for the same reason, and from there on both readers refine one replay, so
that every call of `next` is observed alike, however the reads of the streaming
reader are cut.
-/

namespace TradingSim

open Foundation

/-- Readers over one record region are observed alike, call by call. -/
theorem Reader.calls_agree {left right : Reader} (leftValid : left.Valid)
    (rightValid : right.Valid) (same : left.replay = right.replay)
    (count : Nat) :
    ∃ observations leftLast rightLast,
      left.calls count = .ok (observations, leftLast) ∧
      right.calls count = .ok (observations, rightLast) := by
  apply (Reader.refines left.version left.lost).agree
    (Reader.refines right.version right.lost)
    Reader.observe_replay Reader.observe_replay
  · exact leftValid.running
  · exact rightValid.running
  · exact same

namespace Setup

variable {left right : Setup}

/-- Two clean setups refuse files with one prologue alike, or open them with one
version. -/
theorem Clean.agree (leftClean : left.Clean) (rightClean : right.Clean)
    {file other : Bytes} (same : parsePrologue file = parsePrologue other) :
    (∃ error, left.Throws file error ∧ right.Throws other error) ∨
    ∃ leftReader rightReader,
      left.Opens file leftReader ∧ right.Opens other rightReader ∧
      leftReader.version = rightReader.version := by
  have leftOutcome := leftClean.outcome file
  have rightOutcome := rightClean.outcome other
  rw [← same] at rightOutcome
  cases parsed : parsePrologue file with
  | error error =>
      simp only [parsed] at leftOutcome rightOutcome
      exact .inl ⟨error, leftOutcome, rightOutcome⟩
  | ok version =>
      simp only [parsed] at leftOutcome rightOutcome
      obtain ⟨leftReader, leftOpens⟩ := leftOutcome
      obtain ⟨rightReader, rightOpens⟩ := rightOutcome
      have accepted := leftOpens.opened.accepted
      rw [same, rightOpens.opened.accepted] at accepted
      exact .inr ⟨leftReader, rightReader, leftOpens, rightOpens,
        (Except.ok.inj accepted).symm⟩

/-- Streaming a file through a scratch buffer of any size, by reads as short as
the schedule makes them, agrees call by call with mapping it. -/
theorem streaming_agrees_with_mapped (file : Bytes) {chunkSize : Nat}
    (room : 0 < chunkSize) (schedule : Nat → Nat) :
    (∃ error,
      (streaming chunkSize (shortReads schedule)).Throws file error ∧
      mapped.Throws file error) ∨
    ∃ streamedReader mappedReader,
      (streaming chunkSize (shortReads schedule)).Opens file streamedReader ∧
      mapped.Opens file mappedReader ∧
      streamedReader.version = mappedReader.version ∧
      ∀ count, ∃ observations streamedLast mappedLast,
        streamedReader.calls count = .ok (observations, streamedLast) ∧
        mappedReader.calls count = .ok (observations, mappedLast) := by
  have clean : (streaming chunkSize (shortReads schedule)).Clean :=
    ⟨room, schedule, rfl⟩
  have mappedClean : mapped.Clean := trivial
  rcases clean.agree mappedClean (Eq.refl (parsePrologue file)) with refused | opened
  · exact .inl refused
  · obtain ⟨streamed, direct, streamedOpens, directOpens, version⟩ := opened
    refine .inr ⟨streamed, direct, streamedOpens, directOpens, version, ?_⟩
    apply Reader.calls_agree streamedOpens.opened.valid
      directOpens.opened.valid
    rw [(streamedOpens.replay_eq clean).2, (directOpens.replay_eq mappedClean).2]

/-- Reads of one and two bytes through a scratch buffer of seven. -/
theorem streaming_agrees_with_mapped_sample :
    (∃ error,
      (streaming 7 (shortReads fun call => call % 3)).Throws sampleFile error ∧
      mapped.Throws sampleFile error) ∨
    ∃ streamedReader mappedReader,
      (streaming 7 (shortReads fun call => call % 3)).Opens sampleFile
        streamedReader ∧
      mapped.Opens sampleFile mappedReader ∧
      streamedReader.version = mappedReader.version ∧
      ∀ count, ∃ observations streamedLast mappedLast,
        streamedReader.calls count = .ok (observations, streamedLast) ∧
        mappedReader.calls count = .ok (observations, mappedLast) :=
  streaming_agrees_with_mapped sampleFile (by decide) _

end Setup

end TradingSim
