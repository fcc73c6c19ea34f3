import Mathlib.Tactic.Common

/-!
# Market-by-order events

The engine's own representation of one market-by-order event, and the two
closed alphabets of its `action` and `side` fields.  The enumerators are the
wire bytes themselves, so converting a validated byte is a relabelling.
-/

namespace TradingSim

/-- Raw bytes, as files and buffers hold them. -/
abbrev Bytes := List UInt8

inductive Action where
  | add
  | cancel
  | modify
  | trade
  | fill
  | clear
  deriving DecidableEq, Repr

inductive Side where
  | bid
  | ask
  | none
  deriving DecidableEq, Repr

/-- The enumerator a wire byte names: `A`, `C`, `M`, `T`, `F` or `R`. -/
def Action.ofWire? : UInt8 → Option Action
  | 0x41 => some .add
  | 0x43 => some .cancel
  | 0x4D => some .modify
  | 0x54 => some .trade
  | 0x46 => some .fill
  | 0x52 => some .clear
  | _ => Option.none

/-- The enumerator a wire byte names: `B`, `A` or `N`. -/
def Side.ofWire? : UInt8 → Option Side
  | 0x42 => some .bid
  | 0x41 => some .ask
  | 0x4E => some .none
  | _ => Option.none

def isValidAction (c : UInt8) : Bool :=
  match c with
  | 0x41 | 0x43 | 0x4D | 0x54 | 0x46 | 0x52 => true
  | _ => false

def isValidSide (c : UInt8) : Bool :=
  match c with
  | 0x42 | 0x41 | 0x4E => true
  | _ => false

theorem isSome_action (c : UInt8) :
    (Action.ofWire? c).isSome = isValidAction c := by
  unfold Action.ofWire? isValidAction
  split <;> simp_all

theorem isSome_side (c : UInt8) : (Side.ofWire? c).isSome = isValidSide c := by
  unfold Side.ofWire? isValidSide
  split <;> simp_all

/-- The cast of a validated byte.  It is never applied to any other byte. -/
def Action.ofWire (c : UInt8) (valid : isValidAction c = true) : Action :=
  (Action.ofWire? c).get (by rw [isSome_action, valid])

def Side.ofWire (c : UInt8) (valid : isValidSide c = true) : Side :=
  (Side.ofWire? c).get (by rw [isSome_side, valid])

/-- One market-by-order event.  `price` is in integer nanodollars. -/
structure Event where
  tsEvent : UInt64
  tsRecv : UInt64
  orderId : UInt64
  price : Int64
  size : UInt32
  sequence : UInt32
  action : Action
  side : Side
  flags : UInt8
  deriving DecidableEq, Repr

end TradingSim
