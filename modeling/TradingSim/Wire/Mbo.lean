import TradingSim.Foundation.LittleEndian
import TradingSim.Wire.Event

/-!
# The wire record

`WireMbo` is the 56-byte market-by-order record, field by field at the offsets
the layout assertions pin.  `toEvent` is the one place where untrusted wire
bytes become an `Event`.
-/

namespace TradingSim

open Foundation

/-- The market-by-order record in wire order. -/
structure WireMbo where
  length : UInt8
  rtype : UInt8
  publisherId : UInt16
  instrumentId : UInt32
  tsEvent : UInt64
  orderId : UInt64
  price : Int64
  size : UInt32
  flags : UInt8
  channelId : UInt8
  action : UInt8
  side : UInt8
  tsRecv : UInt64
  tsInDelta : Int32
  sequence : UInt32
  deriving DecidableEq, Repr

/-- `sizeof(WireMbo)`. -/
def sizeofWireMbo : Nat := 56

/-- The little-endian number held in `width` bytes at `offset`. -/
def field (raw : Bytes) (offset width : Nat) : Nat :=
  LittleEndian.value ((raw.drop offset).take width)

theorem field_congr {left right : Bytes} {offset width : Nat}
    (agree : ∀ index, offset ≤ index → index < offset + width →
      left[index]? = right[index]?) :
    field left offset width = field right offset width := by
  have bytes : (left.drop offset).take width = (right.drop offset).take width := by
    apply List.ext_getElem?
    intro index
    rcases Nat.lt_or_ge index width with inside | outside
    · rw [List.getElem?_take_of_lt inside, List.getElem?_take_of_lt inside,
        List.getElem?_drop, List.getElem?_drop]
      apply agree
      · exact Nat.le_add_right _ _
      · exact Nat.add_lt_add_left inside _
    · rw [List.getElem?_take_eq_none outside, List.getElem?_take_eq_none outside]
  rw [field, field, bytes]

/-- The record a copy of its bytes produces on a little-endian host. -/
def WireMbo.ofBytes (raw : Bytes) : WireMbo where
  length := .ofNat (field raw 0 1)
  rtype := .ofNat (field raw 1 1)
  publisherId := .ofNat (field raw 2 2)
  instrumentId := .ofNat (field raw 4 4)
  tsEvent := .ofNat (field raw 8 8)
  orderId := .ofNat (field raw 16 8)
  price := (UInt64.ofNat (field raw 24 8)).toInt64
  size := .ofNat (field raw 32 4)
  flags := .ofNat (field raw 36 1)
  channelId := .ofNat (field raw 37 1)
  action := .ofNat (field raw 38 1)
  side := .ofNat (field raw 39 1)
  tsRecv := .ofNat (field raw 40 8)
  tsInDelta := (UInt32.ofNat (field raw 48 4)).toInt32
  sequence := .ofNat (field raw 52 4)

inductive ParseError where
  | badAction
  | badSide
  deriving DecidableEq, Repr

/-- Validate and convert one wire record. -/
def toEvent (w : WireMbo) : Except ParseError Event :=
  if action : isValidAction w.action = true then
    if side : isValidSide w.side = true then
      .ok {
        tsEvent := w.tsEvent
        tsRecv := w.tsRecv
        orderId := w.orderId
        price := w.price
        size := w.size
        sequence := w.sequence
        action := .ofWire w.action action
        side := .ofWire w.side side
        flags := w.flags }
    else .error .badSide
  else .error .badAction

/-- Two wire records that agree on every field an `Event` keeps convert alike. -/
theorem toEvent_congr {left right : WireMbo}
    (tsEvent : left.tsEvent = right.tsEvent)
    (orderId : left.orderId = right.orderId)
    (price : left.price = right.price) (size : left.size = right.size)
    (flags : left.flags = right.flags) (action : left.action = right.action)
    (side : left.side = right.side) (tsRecv : left.tsRecv = right.tsRecv)
    (sequence : left.sequence = right.sequence) :
    toEvent left = toEvent right := by
  cases left
  cases right
  simp only at *
  subst tsEvent orderId price size flags action side tsRecv sequence
  rfl

end TradingSim
