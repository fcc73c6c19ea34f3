import TradingSim.Foundation.Layout
import TradingSim.Wire.Mbo

/-!
# Writing wire records

The inverse of reading a record off its bytes and of converting it.  An event
together with the fields it drops is a market-by-order record again, and the
record is its fields in wire order, little-endian and without padding.
-/

namespace TradingSim

open Foundation

/-! ## Wire bytes of the enumerators -/

def Action.toWire : Action → UInt8
  | .add => 0x41
  | .cancel => 0x43
  | .modify => 0x4D
  | .trade => 0x54
  | .fill => 0x46
  | .clear => 0x52

def Side.toWire : Side → UInt8
  | .bid => 0x42
  | .ask => 0x41
  | .none => 0x4E

theorem Action.isValid_toWire (action : Action) :
    isValidAction action.toWire = true := by
  cases action <;> rfl

theorem Side.isValid_toWire (side : Side) : isValidSide side.toWire = true := by
  cases side <;> rfl

@[simp] theorem Action.ofWire_toWire (action : Action)
    (valid : isValidAction action.toWire = true) :
    Action.ofWire action.toWire valid = action := by
  cases action <;> rfl

@[simp] theorem Side.ofWire_toWire (side : Side)
    (valid : isValidSide side.toWire = true) :
    Side.ofWire side.toWire valid = side := by
  cases side <;> rfl

@[simp] theorem Action.toWire_ofWire (c : UInt8)
    (valid : isValidAction c = true) : (Action.ofWire c valid).toWire = c := by
  unfold isValidAction at valid
  split at valid <;> first | rfl | cases valid

@[simp] theorem Side.toWire_ofWire (c : UInt8) (valid : isValidSide c = true) :
    (Side.ofWire c valid).toWire = c := by
  unfold isValidSide at valid
  split at valid <;> first | rfl | cases valid

/-! ## Records as bytes -/

/-- The widths of the fields of `WireMbo`, in wire order. -/
def wireWidths : List Nat := [1, 1, 2, 4, 8, 8, 8, 4, 1, 1, 1, 1, 8, 4, 4]

/-- The offsets the layout assertions pin. -/
example : (List.range 15).map (fun index => (wireWidths.take index).sum) =
    [0, 1, 2, 4, 8, 16, 24, 32, 36, 37, 38, 39, 40, 48, 52] := rfl

namespace WireMbo

/-- The fields of a record as unsigned numbers, in wire order. -/
def numbers (w : WireMbo) : List Nat :=
  [w.length.toNat, w.rtype.toNat, w.publisherId.toNat, w.instrumentId.toNat,
    w.tsEvent.toNat, w.orderId.toNat, w.price.toUInt64.toNat, w.size.toNat,
    w.flags.toNat, w.channelId.toNat, w.action.toNat, w.side.toNat,
    w.tsRecv.toNat, w.tsInDelta.toUInt32.toNat, w.sequence.toNat]

/-- The bytes of a record on a little-endian host. -/
def toBytes (w : WireMbo) : Bytes := Layout.write wireWidths w.numbers

@[simp] theorem length_toBytes (w : WireMbo) :
    w.toBytes.length = sizeofWireMbo :=
  Layout.length_write rfl

theorem fits_numbers (w : WireMbo) : Layout.Fits wireWidths w.numbers :=
  .cons w.length.toNat_lt <| .cons w.rtype.toNat_lt <|
  .cons w.publisherId.toNat_lt <| .cons w.instrumentId.toNat_lt <|
  .cons w.tsEvent.toNat_lt <| .cons w.orderId.toNat_lt <|
  .cons w.price.toUInt64.toNat_lt <| .cons w.size.toNat_lt <|
  .cons w.flags.toNat_lt <| .cons w.channelId.toNat_lt <|
  .cons w.action.toNat_lt <| .cons w.side.toNat_lt <|
  .cons w.tsRecv.toNat_lt <| .cons w.tsInDelta.toUInt32.toNat_lt <|
  .cons w.sequence.toNat_lt .nil

theorem numbers_injective {left right : WireMbo}
    (same : left.numbers = right.numbers) : left = right := by
  cases left
  cases right
  simp only [numbers, List.cons.injEq, UInt8.toNat_inj, UInt16.toNat_inj,
    UInt32.toNat_inj, UInt64.toNat_inj, and_true] at same
  obtain ⟨length, rtype, publisherId, instrumentId, tsEvent, orderId, price,
    size, flags, channelId, action, side, tsRecv, tsInDelta, sequence⟩ := same
  have price := congrArg UInt64.toInt64 price
  have tsInDelta := congrArg UInt32.toInt32 tsInDelta
  simp only [Int64.toInt64_toUInt64, Int32.toInt32_toUInt32] at price tsInDelta
  simp only [length, rtype, publisherId, instrumentId, tsEvent, orderId, price,
    size, flags, channelId, action, side, tsRecv, tsInDelta, sequence]

theorem field_lt (raw : Bytes) (offset width : Nat) :
    field raw offset width < 256 ^ width := by
  have bound := LittleEndian.value_lt ((raw.drop offset).take width)
  have short : ((raw.drop offset).take width).length ≤ width :=
    List.length_take_le _ _
  exact Nat.lt_of_lt_of_le bound (Nat.pow_le_pow_right (by decide) short)

/-- The fields of a record read off its bytes are the consecutive fields of the
layout. -/
theorem numbers_ofBytes (raw : Bytes) :
    (ofBytes raw).numbers = Layout.read wireWidths raw := by
  have byte : ∀ offset, (UInt8.ofNat (field raw offset 1)).toNat =
      field raw offset 1 :=
    fun offset => UInt8.toNat_ofNat_of_lt' (field_lt raw offset 1)
  have half : ∀ offset, (UInt16.ofNat (field raw offset 2)).toNat =
      field raw offset 2 :=
    fun offset => UInt16.toNat_ofNat_of_lt' (field_lt raw offset 2)
  have word : ∀ offset, (UInt32.ofNat (field raw offset 4)).toNat =
      field raw offset 4 :=
    fun offset => UInt32.toNat_ofNat_of_lt' (field_lt raw offset 4)
  have long : ∀ offset, (UInt64.ofNat (field raw offset 8)).toNat =
      field raw offset 8 :=
    fun offset => UInt64.toNat_ofNat_of_lt' (field_lt raw offset 8)
  simp only [numbers, ofBytes, UInt64.toUInt64_toInt64, UInt32.toUInt32_toInt32,
    byte, half, word, long]
  simp only [field, wireWidths, Layout.read, List.drop_drop, List.drop_zero]

/-- A record can be read off its bytes. -/
theorem ofBytes_toBytes (w : WireMbo) : ofBytes w.toBytes = w := by
  apply numbers_injective
  rw [numbers_ofBytes, toBytes, Layout.read_write w.fits_numbers]

/-- Any 56 bytes are the bytes of the record read off them. -/
theorem toBytes_ofBytes {raw : Bytes} (size : raw.length = sizeofWireMbo) :
    (ofBytes raw).toBytes = raw := by
  rw [toBytes, numbers_ofBytes]
  exact Layout.write_read size

end WireMbo

/-! ## Records as events -/

/-- The fields of a market-by-order record that an event drops. -/
structure Filler where
  publisherId : UInt16
  instrumentId : UInt32
  channelId : UInt8
  tsInDelta : Int32
  deriving DecidableEq, Repr

def WireMbo.filler (w : WireMbo) : Filler where
  publisherId := w.publisherId
  instrumentId := w.instrumentId
  channelId := w.channelId
  tsInDelta := w.tsInDelta

/-- The market-by-order record of an event: 14 words of type `0xA0`. -/
def Event.toWire (event : Event) (filler : Filler) : WireMbo where
  length := 14
  rtype := 0xA0
  publisherId := filler.publisherId
  instrumentId := filler.instrumentId
  tsEvent := event.tsEvent
  orderId := event.orderId
  price := event.price
  size := event.size
  flags := event.flags
  channelId := filler.channelId
  action := event.action.toWire
  side := event.side.toWire
  tsRecv := event.tsRecv
  tsInDelta := filler.tsInDelta
  sequence := event.sequence

/-- Converting the record of an event gives the event back, whatever the fields
it drops. -/
theorem toEvent_toWire (event : Event) (filler : Filler) :
    toEvent (event.toWire filler) = .ok event := by
  have action : isValidAction (event.toWire filler).action = true :=
    event.action.isValid_toWire
  have side : isValidSide (event.toWire filler).side = true :=
    event.side.isValid_toWire
  rw [toEvent, dif_pos action, dif_pos side]
  simp [Event.toWire]

/-- A record converts exactly when its action and its side are in their
alphabets. -/
theorem toEvent_isOk {w : WireMbo} :
    (∃ event, toEvent w = .ok event) ↔
      isValidAction w.action = true ∧ isValidSide w.side = true := by
  unfold toEvent
  split
  next action =>
    split
    next side => simp [action, side]
    next side => simp [side]
  next action => simp [action]

/-- A market-by-order record that converts is the record of its event, with the
fields it drops. -/
theorem toWire_of_toEvent {w : WireMbo} {event : Event}
    (converted : toEvent w = .ok event) (length : w.length = 14)
    (rtype : w.rtype = 0xA0) : event.toWire w.filler = w := by
  unfold toEvent at converted
  split at converted
  next action =>
    split at converted
    next side =>
      cases converted
      cases w
      simp only at length rtype
      simp [Event.toWire, WireMbo.filler, length, rtype]
    next => cases converted
  next => cases converted

/-- The bytes of the market-by-order record of an event. -/
def Event.encode (event : Event) (filler : Filler) : Bytes :=
  (event.toWire filler).toBytes

@[simp] theorem Event.length_encode (event : Event) (filler : Filler) :
    (event.encode filler).length = sizeofWireMbo :=
  (event.toWire filler).length_toBytes

end TradingSim
