import TradingSim.Ingest.Recording

/-!
# The streams of the reader tests

The tests build their streams in memory: a prologue with zeroed metadata, then
market-by-order records with chosen characters, ids and prices, byte arrays of other
types, and perhaps a corruption.  Whatever is chosen, the stream is a recording, and
both readers make of it what the tests expect of the few streams they choose.
-/

namespace TradingSim

open Foundation Grammar

namespace Fixture

/-- `make_mbo`: every other field is zero. -/
def makeMbo (action side : UInt8) (orderId : UInt64) (price : Int64) : WireMbo where
  length := 14
  rtype := 0xA0
  publisherId := 0
  instrumentId := 0
  tsEvent := 0
  orderId := orderId
  price := price
  size := 5
  flags := 0
  channelId := 0
  action := action
  side := side
  tsRecv := 0
  tsInDelta := 0
  sequence := 0

/-- `append_bytes`: the first `n` bytes of `src`. -/
def appendBytes (out src : Bytes) (n : Nat) : Bytes := out ++ src.take n

/-- `append_prologue`: the header, and that many zeroed metadata bytes. -/
def appendPrologue (out : Bytes) (metadataLen : UInt32) : Bytes :=
  out ++ [0x44, 0x42, 0x4E, 1,
    (metadataLen &&& 0xFF).toUInt8,
    ((metadataLen >>> 8) &&& 0xFF).toUInt8,
    ((metadataLen >>> 16) &&& 0xFF).toUInt8,
    ((metadataLen >>> 24) &&& 0xFF).toUInt8] ++
    List.replicate metadataLen.toNat 0

/-- What a test appends behind the prologue. -/
inductive Piece where
  | mbo (action side : UInt8) (orderId : UInt64) (price : Int64)
  /-- A byte array that says how long it is, and is no market-by-order record. -/
  | array (src : Bytes) (framed : IsFrame src)
      (other : ¬ (src[1]? = some 0xA0 ∧ src.length = 56))

def Piece.append (out : Bytes) : Piece → Bytes
  | .mbo action side orderId price =>
      appendBytes out (makeMbo action side orderId price).toBytes sizeofWireMbo
  | .array src _ _ => appendBytes out src src.length

/-- A stream as the tests build it, with some last bytes. -/
def stream (metadataLen : UInt32) (pieces : List Piece) (last : Bytes) : Bytes :=
  appendBytes (pieces.foldl Piece.append (appendPrologue [] metadataLen)) last
    last.length

/-- The event a test expects of a piece. -/
def Piece.expected : Piece → Option Event
  | .mbo action side orderId price => do
      let action ← Action.ofWire? action
      let side ← Side.ofWire? side
      some {
        tsEvent := 0
        tsRecv := 0
        orderId
        price
        size := 5
        sequence := 0
        action
        side
        flags := 0 }
  | .array .. => none

/-- How a test expects a piece to be counted. -/
def Piece.outcome (piece : Piece) : Routed :=
  match piece, piece.expected with
  | .mbo .., some event => .emit event
  | .mbo .., none => .skipMalformed
  | .array .., _ => .skipNonMbo

/-! ## The prologue -/

theorem byte_of_mask (number : UInt32) :
    (number &&& 0xFF).toUInt8 = UInt8.ofNat number.toNat := by
  apply UInt8.toNat_inj.mp
  have mask : (0xFF : UInt32).toNat = 2 ^ 8 - 1 := rfl
  rw [UInt32.toNat_toUInt8, UInt32.toNat_and, mask,
    Nat.and_two_pow_sub_one_eq_mod, UInt8.toNat_ofNat', Nat.mod_mod]

theorem byte_of_shift (number shift : UInt32) (small : shift.toNat < 32) :
    ((number >>> shift) &&& 0xFF).toUInt8 =
      UInt8.ofNat (number.toNat / 2 ^ shift.toNat) := by
  rw [byte_of_mask, UInt32.toNat_shiftRight, Nat.mod_eq_of_lt small,
    Nat.shiftRight_eq_div_pow]

theorem appendPrologue_eq (metadataLen : UInt32) :
    appendPrologue [] metadataLen =
      signature ++ LittleEndian.encode 4 metadataLen.toNat ++
        List.replicate metadataLen.toNat 0 := by
  have second := byte_of_shift metadataLen 8 (by decide)
  have third := byte_of_shift metadataLen 16 (by decide)
  have fourth := byte_of_shift metadataLen 24 (by decide)
  rw [appendPrologue, byte_of_mask, second, third, fourth]
  simp [signature, LittleEndian.encode, Nat.div_div_eq_div_mul]

/-! ## The pieces -/

namespace Piece

/-- The bytes of a piece. -/
def bytes : Piece → Bytes
  | .mbo action side orderId price => (makeMbo action side orderId price).toBytes
  | .array src _ _ => src

theorem append_eq (out : Bytes) (piece : Piece) :
    piece.append out = out ++ piece.bytes := by
  cases piece with
  | mbo action side orderId price =>
      have whole := (makeMbo action side orderId price).length_toBytes
      rw [Piece.append, appendBytes, bytes, ← whole, List.take_length]
  | array src framed other => rw [Piece.append, appendBytes, bytes, List.take_length]

theorem foldl_append (pieces : List Piece) (out : Bytes) :
    pieces.foldl Piece.append out = out ++ pieces.flatMap bytes := by
  induction pieces generalizing out with
  | nil => simp
  | cons piece rest ih =>
      rw [List.foldl_cons, append_eq, ih, List.flatMap_cons, List.append_assoc]

theorem mboFrame_makeMbo (action side : UInt8) (orderId : UInt64)
    (price : Int64) : MboFrame (makeMbo action side orderId price).toBytes where
  size := WireMbo.length_toBytes _
  length := rfl
  rtype := rfl

theorem isFrame_bytes (piece : Piece) : dbnFramer.IsFrame piece.bytes := by
  cases piece with
  | mbo action side orderId price =>
      exact (mboFrame_makeMbo action side orderId price).isFrame
  | array src framed other => exact isFrame_iff.mp framed

/-- Each piece is routed as the tests expect. -/
theorem route_bytes (piece : Piece) : route piece.bytes = piece.outcome := by
  cases piece with
  | array src framed other =>
      exact route_of_other (frame_length_ge_two (isFrame_iff.mp framed)) other
  | mbo action side orderId price =>
      have frame := mboFrame_makeMbo action side orderId price
      rw [bytes, route_of_mbo frame.rtype frame.size, WireMbo.ofBytes_toBytes,
        toEvent]
      simp only [makeMbo, outcome, expected]
      by_cases validAction : isValidAction action = true
      · have knownAction : Action.ofWire? action =
            some (.ofWire action validAction) := (Option.some_get _).symm
        by_cases validSide : isValidSide side = true
        · have knownSide : Side.ofWire? side =
              some (.ofWire side validSide) := (Option.some_get _).symm
          simp [validAction, validSide, knownAction, knownSide]
        · have unknown : Side.ofWire? side = none := by
            rw [← Option.not_isSome_iff_eq_none, isSome_side]
            exact validSide
          simp [validAction, validSide, knownAction, unknown]
      · have unknown : Action.ofWire? action = none := by
          rw [← Option.not_isSome_iff_eq_none, isSome_action]
          exact validAction
        simp [validAction, unknown]

/-- The entry of a recording that a piece is. -/
def entry (piece : Piece) : Entry := .ofRecord piece.bytes piece.isFrame_bytes

@[simp] theorem record_entry (piece : Piece) : piece.entry.record = piece.bytes :=
  Entry.record_ofRecord piece.isFrame_bytes

theorem routed_entry (piece : Piece) : piece.entry.routed = piece.outcome := by
  rw [← Entry.route_record, record_entry, route_bytes]

theorem event?_entry (piece : Piece) : piece.entry.event? = piece.expected := by
  have framed := frame_length_ge_two piece.isFrame_bytes
  rw [← Entry.emitted_record, record_entry, emitted_eq framed, route_bytes]
  cases piece with
  | array src framed other => rfl
  | mbo action side orderId price =>
      cases known : (mbo action side orderId price).expected with
      | some event => simp [outcome, known]
      | none => simp [outcome, known]

end Piece

/-! ## The streams -/

/-- The recording a stream of the tests is. -/
def recording (metadataLen : UInt32) (pieces : List Piece) (last : Bytes)
    (ended : IsTail last) : Recording where
  announced := metadataLen
  metadata := List.replicate metadataLen.toNat 0
  entries := pieces.map Piece.entry
  tail := last
  sized := List.length_replicate
  ended := ended

variable {metadataLen : UInt32} {pieces : List Piece} {last : Bytes}
  (ended : IsTail last)

theorem bytes_recording :
    (recording metadataLen pieces last ended).bytes =
      stream metadataLen pieces last := by
  have records : entryCodec.write (pieces.map Piece.entry) last =
      pieces.flatMap Piece.bytes ++ last := by
    rw [Framer.Codec.write, List.flatMap_map]
    congr 1
    exact List.flatMap_congr fun piece _ => piece.record_entry
  rw [Recording.bytes, stream, Piece.foldl_append, appendPrologue_eq,
    appendBytes, List.take_length]
  simp only [recording, records, List.append_assoc]

theorem events_recording :
    (recording metadataLen pieces last ended).events =
      pieces.filterMap Piece.expected := by
  rw [Recording.events, recording, List.filterMap_map]
  exact List.filterMap_congr fun piece _ => piece.event?_entry

theorem countOf_recording (outcome : Routed) :
    (recording metadataLen pieces last ended).countOf outcome =
      pieces.countP fun piece => decide (piece.outcome = outcome) := by
  rw [Recording.countOf, recording, List.countP_map]
  apply List.countP_congr
  intro piece _
  simp [piece.routed_entry]

/-- Whatever the tests choose to append, both readers open the stream, hand back
the events of the records whose characters are valid and nothing else, count each
piece where it is expected, and fail exactly if the last bytes are two or more and
begin with a zero. -/
theorem readers_as_expected {setup : Setup} (clean : setup.Clean)
    (ended : IsTail last) :
    ∃ reader stop, setup.Opens (stream metadataLen pieces last) reader ∧
      reader.Drains (pieces.filterMap Piece.expected) stop ∧
      stop.stats = {
        records := .ofNat pieces.length
        events := .ofNat (pieces.filterMap Piece.expected).length
        skippedNonMbo := .ofNat
          (pieces.countP fun piece => decide (piece.outcome = .skipNonMbo))
        skippedMalformed := .ofNat
          (pieces.countP fun piece => decide (piece.outcome = .skipMalformed)) } ∧
      (stop.failed = true ↔ 2 ≤ last.length ∧ last[0]? = some 0) := by
  obtain ⟨reader, stop, opens, drains, stats, failed⟩ :=
    (recording metadataLen pieces last ended).drains clean
  rw [bytes_recording] at opens
  rw [events_recording] at drains
  refine ⟨reader, stop, opens, drains, ?_, failed⟩
  rw [stats, Recording.stats, events_recording, countOf_recording,
    countOf_recording]
  simp [recording]

/-- The pieces of cases G and J. -/
def piecesG : List Piece :=
  [.mbo 0x41 0x42 111 1000,
    .array (4 :: 0x15 :: List.replicate 14 0) ⟨4, _, rfl, by decide, rfl⟩
      (by decide),
    .mbo 0x5A 0x42 999 9999, .mbo 0x43 0x41 222 2000]

example : (piecesG.filterMap Piece.expected).map Event.orderId = [111, 222] := by
  decide

/-- Case G with the corruption of case H behind it. -/
theorem readers_as_expected_sample : ∃ reader stop,
    (Setup.mapped).Opens (stream 4 piecesG (List.replicate 8 0)) reader ∧
      reader.Drains (piecesG.filterMap Piece.expected) stop ∧
      stop.failed = true := by
  have clean : Setup.mapped.Clean := trivial
  have ended : IsTail (List.replicate 8 0) := .inr (.inl ⟨_, rfl⟩)
  obtain ⟨reader, stop, opens, drains, _, failed⟩ :=
    readers_as_expected clean ended
  exact ⟨reader, stop, opens, drains, failed.mpr ⟨by decide, rfl⟩⟩

end Fixture

end TradingSim
