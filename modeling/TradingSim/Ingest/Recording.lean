import TradingSim.Foundation.Items
import TradingSim.Ingest.Accounting
import TradingSim.Ingest.Codec
import TradingSim.Ingest.Grammar

/-!
# Recordings

A recording is what a file says: metadata, one entry for each frame, and a tail.
Recordings are written as files and files are read as recordings, and a reader
over the file of a recording hands back its events and comes to its counters.
-/

namespace TradingSim

open Foundation Grammar

/-- What one frame of a file says.  Only an event has a meaning of its own; the
other entries keep their bytes. -/
inductive Entry where
  /-- A market-by-order record of an event and the fields the event drops. -/
  | mbo (event : Event) (filler : Filler)
  /-- A record of another type or of another size. -/
  | nonMbo (record : Bytes) (framed : IsFrame record)
      (other : ¬ (record[1]? = some 0xA0 ∧ record.length = 56))
  /-- A market-by-order record with an action or a side there is not. -/
  | malformed (record : Bytes) (frame : MboFrame record)
      (outside : ¬ InAlphabets record)

/-! ## How a frame is classified -/

section Classes

variable {record : Bytes}

theorem MboFrame.isFrame (frame : MboFrame record) :
    dbnFramer.IsFrame record := by
  have size := frame.size
  match record, frame.length with
  | length :: rest, first =>
      have words : length = 14 := Option.some.inj first
      subst words
      exact isFrame_iff.mp ⟨14, rest, rfl, by decide, size⟩

/-- A frame of the size of a market-by-order record announces that size. -/
theorem mboFrame_of_isFrame (framed : dbnFramer.IsFrame record)
    (mbo : record[1]? = some kMboRtype ∧ record.length = sizeofWireMbo) :
    MboFrame record := by
  obtain ⟨length, rest, rfl, _, size⟩ := isFrame_iff.mpr framed
  have whole : (length :: rest).length = 56 := mbo.2
  have words : length.toNat = (14 : UInt8).toNat := by
    change length.toNat = 14
    omega
  have first : length = 14 := UInt8.toNat_inj.mp words
  exact {
    size := whole
    length := by rw [first, List.getElem?_cons_zero]
    rtype := mbo.1 }

theorem not_mbo_of_route
    (skipped : route record = .skipNonMbo) :
    ¬ (record[1]? = some kMboRtype ∧ record.length = sizeofWireMbo) := by
  rintro ⟨rtype, size⟩
  rw [route_of_mbo rtype size] at skipped
  cases converted : toEvent (.ofBytes record) with
  | ok event => simp [converted] at skipped
  | error reason => simp [converted] at skipped

theorem mboFrame_of_route (framed : dbnFramer.IsFrame record)
    (mbo : route record ≠ .skipNonMbo) : MboFrame record := by
  apply mboFrame_of_isFrame framed
  by_contra other
  exact mbo (route_of_other (frame_length_ge_two framed) other)

theorem not_inAlphabets_of_route (framed : dbnFramer.IsFrame record)
    (skipped : route record = .skipMalformed) : ¬ InAlphabets record := by
  intro inside
  have frame : MboFrame record := mboFrame_of_route framed (by simp [skipped])
  obtain ⟨event, emits⟩ := (emits_iff frame).mpr inside
  rw [routeRecord_eq (frame_length_ge_two framed), skipped] at emits
  cases emits

end Classes

namespace Entry

/-- The bytes of an entry. -/
def record : Entry → Bytes
  | .mbo event filler => event.encode filler
  | .nonMbo record _ _ => record
  | .malformed record _ _ => record

/-- What becomes of an entry. -/
def routed : Entry → Routed
  | .mbo event _ => .emit event
  | .nonMbo .. => .skipNonMbo
  | .malformed .. => .skipMalformed

/-- The event of an entry, if it has one. -/
def event? : Entry → Option Event
  | .mbo event _ => some event
  | .nonMbo .. => none
  | .malformed .. => none

theorem isFrame_record (entry : Entry) : dbnFramer.IsFrame entry.record := by
  cases entry with
  | mbo event filler =>
      exact MboFrame.isFrame {
        size := event.length_encode filler
        length := rfl
        rtype := rfl }
  | nonMbo record framed other => exact isFrame_iff.mp framed
  | malformed record frame outside => exact frame.isFrame

theorem routeRecord_record (entry : Entry) :
    routeRecord entry.record = .ok entry.routed := by
  cases entry with
  | mbo event filler => exact routeRecord_encode event filler
  | nonMbo record framed other =>
      have long := frame_length_ge_two (isFrame_iff.mp framed)
      exact (routeRecord_eq long).trans (congrArg _ (route_of_other long other))
  | malformed record frame outside =>
      exact malformed_of_not_inAlphabets frame outside

theorem route_record (entry : Entry) : route entry.record = entry.routed := by
  rw [route, routeRecord_record]

theorem emitted_record (entry : Entry) :
    emitted entry.record = entry.event? := by
  rw [emitted, routeRecord_record]
  cases entry <;> rfl

/-- The entry a frame is. -/
def ofRecord (record : Bytes) (framed : dbnFramer.IsFrame record) : Entry :=
  match routed : route record with
  | .emit event => .mbo event (fillerOf record)
  | .skipNonMbo =>
      .nonMbo record (isFrame_iff.mpr framed) (not_mbo_of_route routed)
  | .skipMalformed =>
      .malformed record (mboFrame_of_route framed (by simp [routed]))
        (not_inAlphabets_of_route framed routed)

theorem record_ofRecord {record : Bytes} (framed : dbnFramer.IsFrame record) :
    (ofRecord record framed).record = record := by
  unfold ofRecord
  split
  next event routed =>
    apply encode_of_emits (mboFrame_of_route framed (by simp [routed]))
    rw [routeRecord_eq (frame_length_ge_two framed), routed]
  next => rfl
  next => rfl

theorem ofRecord_record (entry : Entry) :
    ofRecord entry.record entry.isFrame_record = entry := by
  have routes := entry.route_record
  unfold ofRecord
  cases entry with
  | mbo event filler =>
      split
      next other routed =>
        rw [routed] at routes
        cases routes
        have filled : fillerOf (event.encode filler) = filler := by
          rw [fillerOf, Event.encode, WireMbo.ofBytes_toBytes]
          rfl
        rw [record, filled]
      next routed => cases routed.symm.trans routes
      next routed => cases routed.symm.trans routes
  | nonMbo record _ _ =>
      split
      next routed => cases routed.symm.trans routes
      next => rfl
      next routed => cases routed.symm.trans routes
  | malformed record _ _ =>
      split
      next routed => cases routed.symm.trans routes
      next routed => cases routed.symm.trans routes
      next => rfl

end Entry

/-- Entries are the frames of the format. -/
def entryCodec : dbnFramer.Codec Entry where
  toFun entry := ⟨entry.record, entry.isFrame_record⟩
  invFun frame := .ofRecord frame.val frame.property
  left_inv := Entry.ofRecord_record
  right_inv frame := Subtype.ext (Entry.record_ofRecord frame.property)

/-- What a file says. -/
@[ext] structure Recording where
  announced : UInt32
  metadata : Bytes
  entries : List Entry
  tail : Bytes
  sized : metadata.length = announced.toNat
  ended : IsTail tail

namespace Recording

/-- The file of a recording. -/
def bytes (recording : Recording) : Bytes :=
  signature ++ LittleEndian.encode 4 recording.announced.toNat ++
    recording.metadata ++ entryCodec.write recording.entries recording.tail

def events (recording : Recording) : List Event :=
  recording.entries.filterMap Entry.event?

/-- How many entries there are of a class. -/
def countOf (recording : Recording) (outcome : Routed) : Nat :=
  recording.entries.countP fun entry => decide (entry.routed = outcome)

/-- The counters of a recording. -/
def stats (recording : Recording) : IngestStats where
  records := .ofNat recording.entries.length
  events := .ofNat recording.events.length
  skippedNonMbo := .ofNat (recording.countOf .skipNonMbo)
  skippedMalformed := .ofNat (recording.countOf .skipMalformed)

variable (recording : Recording)

/-- The file of a recording is accepted, and its record region is the entries and
the tail. -/
theorem accepted :
    recordRegion recording.bytes =
        entryCodec.write recording.entries recording.tail ∧
      metadataLen recording.bytes = recording.announced.toNat ∧
      parsePrologue recording.bytes = .ok kSupportedDbnVersion := by
  obtain ⟨announced, region, accepted⟩ :=
    parsePrologue_bytes recording.sized
      (entryCodec.write recording.entries recording.tail)
  exact ⟨region, announced, accepted⟩

theorem frames_eq :
    dbnFramer.frames (recordRegion recording.bytes) =
        recording.entries.map Entry.record ∧
      dbnFramer.tail (recordRegion recording.bytes) = recording.tail := by
  rw [recording.accepted.1]
  exact entryCodec.frames_write (isTail_iff.mp recording.ended)

/-- The recording of a file whose prologue is accepted. -/
def ofFile (file : Bytes) (fits : 8 + metadataLen file ≤ file.length) :
    Recording where
  announced := (Stream.ofFile file fits).announced
  metadata := (Stream.ofFile file fits).metadata
  entries := entryCodec.read (recordRegion file)
  tail := dbnFramer.tail (recordRegion file)
  sized := (Stream.ofFile file fits).sized
  ended := (Stream.ofFile file fits).ended

theorem bytes_ofFile {file : Bytes} {version : UInt8}
    (accepted : parsePrologue file = .ok version)
    (fits : 8 + metadataLen file ≤ file.length) :
    (ofFile file fits).bytes = file := by
  conv_rhs => rw [prologue_bytes accepted]
  simp only [bytes, ofFile, Stream.ofFile, entryCodec.write_read,
    UInt32.toNat_ofNat_of_lt' (metadataLen_lt file)]

theorem bytes_injective : Function.Injective bytes := by
  intro left right same
  obtain ⟨leftRegion, leftLength, _⟩ := left.accepted
  obtain ⟨rightRegion, rightLength, _⟩ := right.accepted
  have leftRead : entryCodec.read (entryCodec.write left.entries left.tail) =
      left.entries := entryCodec.read_write (isTail_iff.mp left.ended)
  have rightRead :
      entryCodec.read (entryCodec.write right.entries right.tail) =
        right.entries := entryCodec.read_write (isTail_iff.mp right.ended)
  rw [← leftRegion, same] at leftRead
  rw [← rightRegion] at rightRead
  rw [same] at leftLength
  have announced : left.announced = right.announced :=
    UInt32.toNat_inj.mp (leftLength.symm.trans rightLength)
  have entries : left.entries = right.entries := leftRead.symm.trans rightRead
  have tail : left.tail = right.tail := by
    rw [← left.frames_eq.2, ← right.frames_eq.2, same]
  have metadata : left.metadata = right.metadata := by
    rw [bytes, bytes, announced, entries, tail] at same
    simpa using same
  exact Recording.ext announced metadata entries tail

/-- The events of the frames are those of the entries. -/
theorem emitted_eq_events :
    (recording.entries.map Entry.record).filterMap emitted =
      recording.events := by
  rw [List.filterMap_map, events]
  exact List.filterMap_congr fun entry _ => entry.emitted_record

/-- Counting the frames is counting the entries. -/
theorem count_eq_stats :
    Replay.count {} (recording.entries.map Entry.record) =
      recording.stats := by
  have framed : ∀ record ∈ recording.entries.map Entry.record,
      dbnFramer.IsFrame record := by
    intro record member
    obtain ⟨entry, _, rfl⟩ := List.mem_map.mp member
    exact entry.isFrame_record
  have classes : ∀ outcome,
      routedAs outcome (recording.entries.map Entry.record) =
        recording.countOf outcome := by
    intro outcome
    rw [routedAs, List.countP_map, countOf]
    apply List.countP_congr
    intro entry _
    simp [entry.routeRecord_record]
  rw [Replay.count_eq_account framed, Replay.account, stats, classes, classes,
    emitted_eq_events, List.length_map]

/-- A reader over the file of a recording hands back its events, comes to its
counters, and has failed exactly at a tail of two bytes or more that begins with a
zero. -/
theorem drains {setup : Setup} (clean : setup.Clean) :
    ∃ reader last, setup.Opens recording.bytes reader ∧
      reader.Drains recording.events last ∧ last.stats = recording.stats ∧
      (last.failed = true ↔
        2 ≤ recording.tail.length ∧ recording.tail[0]? = some 0) := by
  obtain ⟨frames, tail⟩ := recording.frames_eq
  obtain ⟨reader, opens⟩ := clean.opens_iff.mpr ⟨_, recording.accepted.2.2⟩
  obtain ⟨last, drains, stats, failed⟩ := opens.drains clean
  rw [frames, recording.emitted_eq_events] at drains
  rw [frames, recording.count_eq_stats] at stats
  rw [tail, frameVerdict_eq_corrupt] at failed
  exact ⟨reader, last, opens, drains, stats, failed⟩

end Recording

/-- Files are recordings.  What a reader opens is the file of exactly one
recording; and over the file of any recording it hands back the events of the
entries in their order, comes to the counters of the entries, and has failed at
the end exactly when the tail has two bytes or more and begins with a zero. -/
theorem Recording.recorded_exactly {setup : Setup} (clean : setup.Clean) :
    (∀ file, (∃ reader, setup.Opens file reader) ↔
      ∃! recording : Recording, recording.bytes = file) ∧
    ∀ recording : Recording, ∃ reader last,
      setup.Opens recording.bytes reader ∧
      reader.Drains recording.events last ∧ last.stats = recording.stats ∧
      (last.failed = true ↔
        2 ≤ recording.tail.length ∧ recording.tail[0]? = some 0) := by
  constructor
  · intro file
    rw [clean.opens_iff]
    constructor
    · rintro ⟨version, accepted⟩
      have fits := (parsePrologue_eq_ok.mp accepted).2
      refine ⟨.ofFile file fits, bytes_ofFile accepted fits, ?_⟩
      intro other same
      apply bytes_injective
      rw [same, bytes_ofFile accepted fits]
    · rintro ⟨recording, rfl, _⟩
      exact ⟨_, recording.accepted.2.2⟩
  · intro recording
    exact recording.drains clean

/-- The sample file is one recording. -/
theorem Recording.recorded_exactly_sample :
    ∃! recording : Recording, recording.bytes = sampleFile := by
  have clean : Setup.mapped.Clean := trivial
  apply ((Recording.recorded_exactly clean).1 sampleFile).mp
  exact clean.opens_sampleFile

end TradingSim
