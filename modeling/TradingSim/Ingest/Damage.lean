import TradingSim.Foundation.Damage
import TradingSim.Ingest.Truncation

/-!
# Damaged files

A reader finds the next record by the length byte of the last.  Where bytes of a
file are damaged and the length bytes are spared, the records behind the damage
are still found: the reader loses or misreads the records the damage reaches into,
at most one for every four damaged bytes and one at either end, and hands back the
events of all others.
-/

namespace TradingSim

open Foundation

/-- Files of one length and header that differ in a stretch only, and not in a
byte that a frame or the tail begins with. -/
structure Damaged (file other : Bytes) (lower upper : Nat) : Prop where
  ordered : lower ≤ upper
  length : file.length = other.length
  header : file.take 8 = other.take 8
  heads : ∀ position ∈ Framer.boundaries (8 + metadataLen file)
    (dbnFramer.frames (recordRegion file)), file[position]? = other[position]?
  elsewhere : ∀ position, position < lower ∨ upper ≤ position →
    file[position]? = other[position]?

/-- Overwriting one byte damages a file, unless the framing depends on it. -/
theorem Damaged.set {file : Bytes} {position : Nat} (behind : 8 ≤ position)
    (spared : position ∉ Framer.boundaries (8 + metadataLen file)
      (dbnFramer.frames (recordRegion file))) (byte : UInt8) :
    Damaged file (file.set position byte) position (position + 1) where
  ordered := Nat.le_succ position
  length := List.length_set.symm
  header := by
    rw [List.take_set_of_le behind]
  heads other member := by
    have differ : position ≠ other := fun same => spared (same ▸ member)
    rw [List.getElem?_set_ne differ]
  elsewhere other outside := by
    have differ : position ≠ other := by omega
    rw [List.getElem?_set_ne differ]

/-- The frames of the file that begin at or behind a position. -/
def framesBehind (file : Bytes) (position : Nat) : List Bytes :=
  Framer.behind position (8 + metadataLen file)
    (dbnFramer.frames (recordRegion file))

/-- The frames of the file that a stretch reaches into. -/
def framesMeeting (file : Bytes) (lower upper : Nat) : List Bytes :=
  Framer.meeting lower upper (8 + metadataLen file)
    (dbnFramer.frames (recordRegion file))

theorem dbnFramer_headed : dbnFramer.Headed := by
  intro left right length head
  match left, right, length with
  | [], [], _ => rfl
  | [_], [_], _ => rfl
  | first :: _ :: rest, second :: _ :: others, length =>
      have same : rest.length = others.length := by simpa using length
      cases head
      rw [dbnFramer_verdict, frameVerdict_cons, frameVerdict_cons, same]

theorem framesBefore_append_behind (file : Bytes) {lower upper : Nat}
    (ordered : lower ≤ upper) :
    framesBefore file lower ++ framesMeeting file lower upper ++
      framesBehind file upper = dbnFramer.frames (recordRegion file) := by
  apply Framer.before_meeting_behind _ ordered
  intro record member
  have long := frame_length_ge (Framer.isFrame_of_mem_frames member)
  omega

theorem four_mul_framesMeeting_le (file : Bytes) (lower upper : Nat) :
    4 * (framesMeeting file lower upper).length ≤ upper - lower + 6 :=
  Framer.mul_meeting_le (by decide) fun _ member =>
    frame_length_ge (Framer.isFrame_of_mem_frames member)

/-- All that matters for the total is how many frames there are. -/
theorem Replay.records_count (stream : Bytes) :
    (Replay.count {} (dbnFramer.frames stream)).records =
      .ofNat (dbnFramer.frames stream).length := by
  rw [Replay.count_eq_account fun _ member =>
    Framer.isFrame_of_mem_frames member, Replay.account]

namespace Damaged

variable {file other : Bytes} {lower upper : Nat}

theorem metadataLen_eq (damaged : Damaged file other lower upper) :
    metadataLen file = metadataLen other := by
  rw [← metadataLen_take_eight, damaged.header, metadataLen_take_eight]

/-- The damaged file is framed as the whole one is, with the same frames in front
of the damage and behind it. -/
theorem frames (damaged : Damaged file other lower upper) :
    framesBefore file lower = framesBefore other lower ∧
      framesBehind file upper = framesBehind other upper ∧
      (framesMeeting file lower upper).length =
        (framesMeeting other lower upper).length ∧
      frameVerdict (dbnFramer.tail (recordRegion file)) =
        frameVerdict (dbnFramer.tail (recordRegion other)) := by
  have place := damaged.metadataLen_eq
  have read : ∀ (bytes : Bytes) (index : Nat),
      (recordRegion bytes)[index]? = bytes[8 + metadataLen bytes + index]? :=
    fun _ _ => List.getElem?_drop
  have length : (recordRegion file).length = (recordRegion other).length := by
    rw [recordRegion, recordRegion, List.length_drop, List.length_drop, place,
      damaged.length]
  have spared : Framer.Spared dbnFramer lower upper (8 + metadataLen file)
      (recordRegion file) (recordRegion other) := by
    refine ⟨length, ?_, ?_⟩
    · intro index member
      rw [read, read, ← place]
      exact damaged.heads _ member
    · intro index outside
      rw [read, read, ← place]
      exact damaged.elsewhere _ outside
  obtain ⟨alike, tail⟩ := spared.frames_alike dbnFramer_headed
  obtain ⟨front, back, middle⟩ := Framer.parts_of_alike alike
  rw [framesBefore, framesBefore, framesBehind, framesBehind, framesMeeting,
    framesMeeting, ← place]
  exact ⟨front, back, middle, tail⟩

end Damaged

namespace Setup

/-- Damage that spares the length bytes stays where it is.  The damaged file is
opened too, and a reader drains it to the same events in front of the damage and
behind it; between them it hands back the events of as many frames as the damage
reaches into, which are few.  It counts as many records, and comes to a failure
exactly when the whole file does. -/
theorem damage_contained {left right : Setup} (leftClean : left.Clean)
    (rightClean : right.Clean) {file other : Bytes} {lower upper : Nat}
    (damaged : Damaged file other lower upper) {reader : Reader}
    (opens : left.Opens file reader) :
    ∃ otherReader last otherLast,
      right.Opens other otherReader ∧
      reader.Drains ((framesBefore file lower).filterMap emitted ++
        (framesMeeting file lower upper).filterMap emitted ++
          (framesBehind file upper).filterMap emitted) last ∧
      otherReader.Drains ((framesBefore file lower).filterMap emitted ++
        (framesMeeting other lower upper).filterMap emitted ++
          (framesBehind file upper).filterMap emitted) otherLast ∧
      (framesMeeting other lower upper).length =
        (framesMeeting file lower upper).length ∧
      4 * (framesMeeting file lower upper).length ≤ upper - lower + 6 ∧
      otherLast.stats.records = last.stats.records ∧
      otherLast.failed = last.failed := by
  have accepted := opens.opened.accepted
  rw [parsePrologue_congr damaged.length damaged.header] at accepted
  obtain ⟨otherReader, otherOpens⟩ := rightClean.opens_iff.mpr ⟨_, accepted⟩
  obtain ⟨last, drains, stats, failed⟩ := opens.drains leftClean
  obtain ⟨otherLast, otherDrains, otherStats, otherFailed⟩ :=
    otherOpens.drains rightClean
  obtain ⟨front, back, middle, tail⟩ := damaged.frames
  have split := framesBefore_append_behind file damaged.ordered
  have otherSplit := framesBefore_append_behind other damaged.ordered
  have count : (dbnFramer.frames (recordRegion other)).length =
      (dbnFramer.frames (recordRegion file)).length := by
    rw [← split, ← otherSplit]
    simp only [List.length_append, front, back, middle]
  refine ⟨otherReader, last, otherLast, otherOpens, ?_, ?_, middle.symm,
    four_mul_framesMeeting_le file lower upper, ?_, ?_⟩
  · rwa [← List.filterMap_append, ← List.filterMap_append, split]
  · rwa [front, back, ← List.filterMap_append, ← List.filterMap_append,
      otherSplit]
  · rw [stats, otherStats, Replay.records_count, Replay.records_count, count]
  · rw [tail] at failed
    exact Bool.eq_iff_iff.mpr (otherFailed.trans failed.symm)

/-- The sample file with another side in its first record. -/
theorem damage_contained_sample :
    ∃ reader, mapped.Opens sampleFile reader ∧
      ∃ otherReader last otherLast,
        (streaming 16 (shortReads fun _ => 3)).Opens (sampleFile.set 49 0x58)
          otherReader ∧
        reader.Drains ((framesBefore sampleFile 49).filterMap emitted ++
          (framesMeeting sampleFile 49 50).filterMap emitted ++
            (framesBehind sampleFile 50).filterMap emitted) last ∧
        otherReader.Drains ((framesBefore sampleFile 49).filterMap emitted ++
          (framesMeeting (sampleFile.set 49 0x58) 49 50).filterMap emitted ++
            (framesBehind sampleFile 50).filterMap emitted) otherLast ∧
        (framesMeeting (sampleFile.set 49 0x58) 49 50).length =
          (framesMeeting sampleFile 49 50).length ∧
        4 * (framesMeeting sampleFile 49 50).length ≤ 50 - 49 + 6 ∧
        otherLast.stats.records = last.stats.records ∧
        otherLast.failed = last.failed := by
  have clean : mapped.Clean := trivial
  obtain ⟨reader, opens⟩ := clean.opens_sampleFile
  have otherClean : (streaming 16 (shortReads fun _ => 3)).Clean :=
    ⟨by decide, _, rfl⟩
  have damaged : Damaged sampleFile (sampleFile.set 49 0x58) 49 50 :=
    .set (by decide) (by decide +kernel) 0x58
  exact ⟨reader, opens, damage_contained clean otherClean damaged opens⟩

end Setup

end TradingSim
