import TradingSim.Ingest.Reader

/-!
# The stream grammar

A stream is a header, metadata of the announced length, frames, and a tail that
no frame begins.  The grammar is stated on its own, by what the bytes are, and
compared with the readers: they open exactly the files of the grammar, each of
which has one reading, and hand back the events of its frames.
-/

namespace TradingSim

open Foundation

namespace Grammar

/-- A frame counts its own 4-byte words in its first byte. -/
def IsFrame (record : Bytes) : Prop :=
  ∃ length rest, record = length :: rest ∧ 1 ≤ length.toNat ∧
    record.length = 4 * length.toNat

/-- A tail is too short for a frame, or announces no length, or a length it does
not have. -/
def IsTail (tail : Bytes) : Prop :=
  tail.length < 2 ∨ (∃ rest, tail = 0 :: rest) ∨
    ∃ length rest, tail = length :: rest ∧ 1 ≤ length.toNat ∧
      tail.length < 4 * length.toNat

/-- The bytes `DBN` and the version. -/
def signature : Bytes := [0x44, 0x42, 0x4E, 1]

/-- A stream, taken apart. -/
@[ext] structure Stream where
  announced : UInt32
  metadata : Bytes
  frames : List Bytes
  tail : Bytes
  sized : metadata.length = announced.toNat
  framed : ∀ record ∈ frames, IsFrame record
  ended : IsTail tail

/-- The bytes of a stream. -/
def Stream.bytes (stream : Stream) : Bytes :=
  signature ++ LittleEndian.encode 4 stream.announced.toNat ++
    stream.metadata ++ stream.frames.flatten ++ stream.tail

/-! ## Frames and tails -/

theorem isFrame_iff {record : Bytes} :
    IsFrame record ↔ dbnFramer.IsFrame record := by
  rw [Framer.IsFrame, dbnFramer_verdict, frameVerdict_eq_frame]
  constructor
  · rintro ⟨length, rest, rfl, positive, size⟩
    cases rest with
    | nil =>
        simp only [List.length_singleton] at size
        omega
    | cons rtype rest =>
        exact ⟨length, rtype, rest, rfl, by omega, size, Nat.le_refl _⟩
  · rintro ⟨length, rtype, rest, rfl, nonzero, size, _⟩
    exact ⟨length, rtype :: rest, rfl, by omega, size⟩

theorem isTail_iff {tail : Bytes} : IsTail tail ↔ dbnFramer.IsTail tail := by
  match tail with
  | [] => simp [IsTail, Framer.IsTail]
  | [byte] => simp [IsTail, Framer.IsTail]
  | length :: rtype :: rest =>
      rw [Framer.IsTail, dbnFramer_verdict, frameVerdict_cons]
      by_cases zero : length.toNat = 0
      · have equal : length = 0 := UInt8.toNat_inj.mp zero
        simp [IsTail, equal]
      · have differ : length ≠ 0 := fun equal => zero (by simp [equal])
        have positive : 1 ≤ length.toNat := by omega
        rw [if_neg zero]
        split
        next short => simp [IsTail, differ, positive, short]
        next whole =>
          constructor
          · rintro (tiny | ⟨_, other⟩ | ⟨_, _, equal, _, short⟩)
            · simp only [List.length_cons] at tiny
              omega
            · cases other
              exact (zero rfl).elim
            · cases equal
              exact (whole short).elim
          · intro isTail
            exact (isTail _ rfl).elim

/-! ## The prologue -/

/-- An accepted file starts with the signature, the metadata length and that much
metadata. -/
theorem prologue_bytes {file : Bytes} {version : UInt8}
    (accepted : parsePrologue file = .ok version) :
    file = signature ++ LittleEndian.encode 4 (metadataLen file) ++
      (file.drop 8).take (metadataLen file) ++ recordRegion file := by
  have header := (parsePrologue_eq_ok.mp accepted).1
  have whole := (parseHeader_whole header).1
  match file, whole with
  | b0 :: b1 :: b2 :: b3 :: b4 :: b5 :: b6 :: b7 :: rest, whole =>
      rw [parseHeader, if_neg (by omega)] at header
      split at header
      next => cases header
      next magic =>
        split at header
        next => cases header
        next version =>
          simp only [List.take_succ_cons, List.take_zero, not_not,
            List.cons.injEq, and_true, List.getElem?_cons_succ,
            List.getElem?_cons_zero, Option.some.injEq] at magic version
          obtain ⟨rfl, rfl, rfl⟩ := magic
          subst version
          have length := LittleEndian.encode_value [b4, b5, b6, b7]
          simp only [List.length_cons, List.length_nil, Nat.zero_add,
            Nat.reduceAdd] at length
          simp [metadataLen, recordRegion, signature, kSupportedDbnVersion,
            length, ← List.drop_drop]

/-- Bytes laid out like that are accepted, and read back. -/
theorem parsePrologue_bytes {length : UInt32} {metadata : Bytes}
    (sized : metadata.length = length.toNat) (region : Bytes) :
    let file := signature ++ LittleEndian.encode 4 length.toNat ++ metadata ++
      region
    metadataLen file = length.toNat ∧ recordRegion file = region ∧
      parsePrologue file = .ok kSupportedDbnVersion := by
  intro file
  have encoded : (LittleEndian.encode 4 length.toNat).length = 4 :=
    LittleEndian.length_encode 4 _
  have announced : metadataLen file = length.toNat := by
    have value := LittleEndian.value_encode
      (show length.toNat < 256 ^ 4 from length.toNat_lt)
    simp [file, metadataLen, signature, encoded, value]
  have behind : recordRegion file = region := by
    rw [recordRegion, announced, ← sized]
    simp [file, signature, encoded, ← List.drop_drop]
  refine ⟨announced, behind, parsePrologue_eq_ok.mpr ⟨?_, ?_⟩⟩
  · simp [file, parseHeader, signature, encoded, kSupportedDbnVersion]
  · rw [announced, ← sized]
    simp only [file, signature, encoded, List.length_append, List.length_cons,
      List.length_nil]
    omega

/-! ## Streams -/

namespace Stream

/-- A file whose prologue is accepted, taken apart. -/
def ofFile (file : Bytes) (fits : 8 + metadataLen file ≤ file.length) :
    Stream where
  announced := .ofNat (metadataLen file)
  metadata := (file.drop 8).take (metadataLen file)
  frames := dbnFramer.frames (recordRegion file)
  tail := dbnFramer.tail (recordRegion file)
  sized := by
    rw [List.length_take, List.length_drop,
      UInt32.toNat_ofNat_of_lt' (metadataLen_lt file)]
    omega
  framed _ member := isFrame_iff.mpr (Framer.isFrame_of_mem_frames member)
  ended := isTail_iff.mpr (Framer.isTail_tail dbnFramer _)

theorem bytes_ofFile {file : Bytes} {version : UInt8}
    (accepted : parsePrologue file = .ok version)
    (fits : 8 + metadataLen file ≤ file.length) :
    (ofFile file fits).bytes = file := by
  have region :=
    Framer.flatten_frames_append_tail dbnFramer (recordRegion file)
  conv_rhs => rw [prologue_bytes accepted]
  simp only [bytes, ofFile, List.append_assoc, region,
    UInt32.toNat_ofNat_of_lt' (metadataLen_lt file)]

variable (stream : Stream)

theorem bytes_eq :
    stream.bytes = signature ++
      LittleEndian.encode 4 stream.announced.toNat ++ stream.metadata ++
        (stream.frames.flatten ++ stream.tail) := by
  rw [bytes, List.append_assoc _ stream.frames.flatten]

/-- The bytes of a stream are accepted, and framing its record region gives back
its frames and its tail. -/
theorem read_back :
    metadataLen stream.bytes = stream.announced.toNat ∧
      dbnFramer.frames (recordRegion stream.bytes) = stream.frames ∧
      dbnFramer.tail (recordRegion stream.bytes) = stream.tail ∧
      parsePrologue stream.bytes = .ok kSupportedDbnVersion := by
  obtain ⟨announced, behind, accepted⟩ :=
    parsePrologue_bytes stream.sized (stream.frames.flatten ++ stream.tail)
  rw [← bytes_eq] at announced behind accepted
  have unique := Framer.decomposition_unique
    (fun record member => isFrame_iff.mp (stream.framed record member))
    (isTail_iff.mp stream.ended) behind
  exact ⟨announced, unique.1, unique.2, accepted⟩

theorem bytes_injective {left right : Stream}
    (same : left.bytes = right.bytes) : left = right := by
  obtain ⟨leftLength, leftFrames, leftTail, _⟩ := left.read_back
  obtain ⟨rightLength, rightFrames, rightTail, _⟩ := right.read_back
  rw [same] at leftLength leftFrames leftTail
  have length : left.announced = right.announced :=
    UInt32.toNat_inj.mp (leftLength.symm.trans rightLength)
  have frames : left.frames = right.frames := leftFrames.symm.trans rightFrames
  have tail : left.tail = right.tail := leftTail.symm.trans rightTail
  have metadata : left.metadata = right.metadata := by
    rw [bytes, bytes, length, frames, tail] at same
    simpa using same
  exact Stream.ext length metadata frames tail

end Stream

/-- A reader opens exactly the files of the grammar, each of which has one
reading; it hands back the events of the frames of that reading, and has failed
at the end exactly when the tail has two bytes or more and begins with a zero. -/
theorem reads_exactly {setup : Setup} (clean : setup.Clean) :
    (∀ file, (∃ reader, setup.Opens file reader) ↔
      ∃! stream : Stream, stream.bytes = file) ∧
    ∀ stream : Stream, ∃ reader last, setup.Opens stream.bytes reader ∧
      reader.Drains (stream.frames.filterMap emitted) last ∧
      (last.failed = true ↔
        2 ≤ stream.tail.length ∧ stream.tail[0]? = some 0) := by
  constructor
  · intro file
    rw [clean.opens_iff]
    constructor
    · rintro ⟨version, accepted⟩
      have fits := (parsePrologue_eq_ok.mp accepted).2
      refine ⟨.ofFile file fits, Stream.bytes_ofFile accepted fits, ?_⟩
      intro other same
      apply Stream.bytes_injective
      rw [same, Stream.bytes_ofFile accepted fits]
    · rintro ⟨stream, rfl, _⟩
      exact ⟨_, stream.read_back.2.2.2⟩
  · intro stream
    obtain ⟨_, frames, tail, accepted⟩ := stream.read_back
    obtain ⟨reader, opens⟩ := clean.opens_iff.mpr ⟨_, accepted⟩
    obtain ⟨last, drains, _, failed⟩ := opens.drains clean
    rw [frames] at drains
    rw [tail, frameVerdict_eq_corrupt] at failed
    exact ⟨reader, last, opens, drains, failed⟩

/-- The sample file has one reading. -/
theorem reads_exactly_sample :
    ∃! stream : Stream, stream.bytes = sampleFile := by
  have clean : Setup.mapped.Clean := trivial
  apply ((reads_exactly clean).1 sampleFile).mp
  exact clean.opens_iff.mpr ⟨1, by decide +kernel⟩

end Grammar

end TradingSim
