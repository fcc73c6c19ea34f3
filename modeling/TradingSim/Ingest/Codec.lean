import Mathlib.Tactic.IntervalCases
import TradingSim.Ingest.Noninterference
import TradingSim.Wire.Codec

/-!
# The codec of market-by-order frames

Routing a market-by-order frame and writing an event out are inverse to each
other: every event comes back from its frame, whatever the dropped fields hold,
and a frame that is emitted is the frame of its event, byte for byte.
-/

namespace TradingSim

open Foundation

/-- The wire bytes of the actions: `A`, `C`, `M`, `T`, `F` and `R`. -/
def actionAlphabet : List UInt8 := [0x41, 0x43, 0x4D, 0x54, 0x46, 0x52]

/-- The wire bytes of the sides: `B`, `A` and `N`. -/
def sideAlphabet : List UInt8 := [0x42, 0x41, 0x4E]

/-- A record of 56 bytes that says so, of the market-by-order type. -/
structure MboFrame (record : Bytes) : Prop where
  size : record.length = 56
  length : record[0]? = some 14
  rtype : record[1]? = some 0xA0

/-- The action and the side byte are in their alphabets. -/
def InAlphabets (record : Bytes) : Prop :=
  (∃ action ∈ actionAlphabet, record[38]? = some action) ∧
    ∃ side ∈ sideAlphabet, record[39]? = some side

/-! ## Single bytes -/

theorem mem_actionAlphabet {c : UInt8} :
    c ∈ actionAlphabet ↔ isValidAction c = true := by
  simp only [actionAlphabet, List.mem_cons, List.not_mem_nil, or_false]
  unfold isValidAction
  split <;> simp_all

theorem mem_sideAlphabet {c : UInt8} :
    c ∈ sideAlphabet ↔ isValidSide c = true := by
  simp only [sideAlphabet, List.mem_cons, List.not_mem_nil, or_false]
  unfold isValidSide
  split <;> simp_all

theorem getElem?_eq_field {raw : Bytes} {offset : Nat}
    (inside : offset < raw.length) :
    raw[offset]? = some (UInt8.ofNat (field raw offset 1)) := by
  have front : (raw.drop offset).take 1 = [raw[offset]] := by
    rw [List.drop_eq_getElem_cons inside]
    rfl
  rw [field, front, List.getElem?_eq_getElem inside]
  simp [LittleEndian.value]

variable {record : Bytes}

theorem inAlphabets_iff (size : record.length = 56) :
    InAlphabets record ↔
      isValidAction (WireMbo.ofBytes record).action = true ∧
        isValidSide (WireMbo.ofBytes record).side = true := by
  rw [InAlphabets, getElem?_eq_field (show 38 < record.length by omega),
    getElem?_eq_field (show 39 < record.length by omega)]
  simp only [Option.some.injEq, mem_actionAlphabet, mem_sideAlphabet,
    WireMbo.ofBytes, exists_eq_right']

/-! ## Both directions -/

/-- The frame of an event is routed to that event. -/
theorem routeRecord_encode (event : Event) (filler : Filler) :
    routeRecord (event.encode filler) = .ok (.emit event) := by
  have size : (event.encode filler).length = 56 := event.length_encode filler
  have rtype : (event.encode filler)[1]? = some kMboRtype := rfl
  rw [routeRecord_eq (by omega), route_of_mbo rtype size, Event.encode,
    WireMbo.ofBytes_toBytes, toEvent_toWire]

/-- A byte that an event keeps does not depend on the fields it drops. -/
theorem getElem?_encode_congr (event : Event) (left right : Filler)
    {offset : Nat} (kept : ¬ IsDropped offset) :
    (event.encode left)[offset]? = (event.encode right)[offset]? := by
  have frame := @Layout.getElem?_write_congr wireWidths
    (event.toWire left).numbers (event.toWire right).numbers offset rfl
  apply frame
  intro index lower upper
  unfold IsDropped at kept
  rcases Nat.lt_or_ge index 15 with field | outside
  · -- The four dropped fields are excluded by their offsets.
    interval_cases index <;>
      first
      | rfl
      | (simp only [wireWidths, List.take_succ_cons, List.take_zero,
          List.sum_cons, List.sum_nil] at lower upper
         omega)
  · rw [List.getElem?_eq_none outside, List.getElem?_eq_none outside]

/-- The fields of a record that an event drops. -/
def fillerOf (record : Bytes) : Filler := (WireMbo.ofBytes record).filler

/-- A market-by-order frame is routed by its conversion. -/
theorem route_of_converted (frame : MboFrame record) {event : Event}
    (converted : toEvent (.ofBytes record) = .ok event) :
    routeRecord record = .ok (.emit event) := by
  have size := frame.size
  rw [routeRecord_eq (by omega), route_of_mbo frame.rtype frame.size, converted]

theorem route_of_refused (frame : MboFrame record) {reason : ParseError}
    (refused : toEvent (.ofBytes record) = .error reason) :
    routeRecord record = .ok .skipMalformed := by
  have size := frame.size
  rw [routeRecord_eq (by omega), route_of_mbo frame.rtype frame.size, refused]

/-- A market-by-order frame is emitted exactly when its action and its side are
in their alphabets. -/
theorem emits_iff (frame : MboFrame record) :
    (∃ event, routeRecord record = .ok (.emit event)) ↔ InAlphabets record := by
  rw [inAlphabets_iff frame.size, ← toEvent_isOk]
  cases converted : toEvent (.ofBytes record) with
  | error reason => simp [route_of_refused frame converted]
  | ok event => simp [route_of_converted frame converted]

theorem malformed_of_not_inAlphabets (frame : MboFrame record)
    (outside : ¬ InAlphabets record) :
    routeRecord record = .ok .skipMalformed := by
  rw [inAlphabets_iff frame.size, ← toEvent_isOk] at outside
  cases converted : toEvent (.ofBytes record) with
  | error reason => exact route_of_refused frame converted
  | ok event => exact (outside ⟨event, converted⟩).elim

/-- A frame that is emitted is the frame of its event. -/
theorem encode_of_emits (frame : MboFrame record) {event : Event}
    (emits : routeRecord record = .ok (.emit event)) :
    event.encode (fillerOf record) = record := by
  have size := frame.size
  have converted : toEvent (.ofBytes record) = .ok event := by
    cases outcome : toEvent (.ofBytes record) with
    | error reason => simp [route_of_refused frame outcome] at emits
    | ok other => simpa [route_of_converted frame outcome] using emits
  have length : (WireMbo.ofBytes record).length = 14 := by
    have first := frame.length
    rw [getElem?_eq_field (by omega)] at first
    exact Option.some.inj first
  have rtype : (WireMbo.ofBytes record).rtype = 0xA0 := by
    have second := frame.rtype
    rw [getElem?_eq_field (by omega)] at second
    exact Option.some.inj second
  rw [Event.encode, fillerOf, toWire_of_toEvent converted length rtype,
    WireMbo.toBytes_ofBytes frame.size]

/-- Routing and writing are inverse to each other.  Every event comes back from
its frame, whatever the dropped fields hold; a market-by-order frame is emitted
exactly when its action and its side are in their alphabets, and malformed
otherwise; a frame that is emitted is the frame of its event with the fields it
dropped; and frames of one event agree on every byte that is kept. -/
theorem route_encode_inverse :
    (∀ event filler, routeRecord (Event.encode event filler) =
      .ok (.emit event)) ∧
    (∀ record, MboFrame record →
      ((∃ event, routeRecord record = .ok (.emit event)) ↔
        InAlphabets record) ∧
      (¬ InAlphabets record → routeRecord record = .ok .skipMalformed) ∧
      ∀ event, routeRecord record = .ok (.emit event) →
        event.encode (fillerOf record) = record) ∧
    ∀ left right event, MboFrame left → MboFrame right →
      routeRecord left = .ok (.emit event) →
      routeRecord right = .ok (.emit event) →
      ∀ offset, ¬ IsDropped offset → left[offset]? = right[offset]? := by
  refine ⟨routeRecord_encode, ?_, ?_⟩
  · intro record frame
    refine ⟨emits_iff frame, malformed_of_not_inAlphabets frame, ?_⟩
    intro event emits
    exact encode_of_emits frame emits
  · intro left right event leftFrame rightFrame leftEmits rightEmits offset kept
    calc left[offset]?
        = (event.encode (fillerOf left))[offset]? := by
          rw [encode_of_emits leftFrame leftEmits]
      _ = (event.encode (fillerOf right))[offset]? :=
          getElem?_encode_congr event _ _ kept
      _ = right[offset]? := by rw [encode_of_emits rightFrame rightEmits]

/-- The record of the sample file is the frame of the event it is emitted as. -/
theorem route_encode_inverse_sample :
    MboFrame sampleRecord ∧ InAlphabets sampleRecord ∧
      ∃ event, routeRecord sampleRecord = .ok (.emit event) ∧
        event.encode (fillerOf sampleRecord) = sampleRecord := by
  have frame : MboFrame sampleRecord := {
    size := rfl
    length := rfl
    rtype := rfl }
  have inside : InAlphabets sampleRecord :=
    ⟨⟨0x41, by decide, rfl⟩, 0x42, by decide, rfl⟩
  obtain ⟨emitted, _, back⟩ := route_encode_inverse.2.1 sampleRecord frame
  obtain ⟨event, emits⟩ := emitted.mpr inside
  exact ⟨frame, inside, event, emits, back event emits⟩

end TradingSim
