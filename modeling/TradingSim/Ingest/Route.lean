import TradingSim.Foundation.Loop
import TradingSim.Ingest.Frame
import TradingSim.Wire.Mbo

/-!
# Routing one framed record

Both readers share one routing and one counting policy: a framed record is
emitted as an event, or skipped because it is not a market-by-order record of
the right size, or skipped because its action or side byte is malformed.
-/

namespace TradingSim

open Foundation

/-- The market-by-order record type. -/
def kMboRtype : UInt8 := 0xA0

/-- What to do with a framed record.  Only an emitted record carries an event. -/
inductive Routed where
  | emit (event : Event)
  | skipNonMbo
  | skipMalformed
  deriving DecidableEq, Repr

/-- Per-reader ingest counters, in unsigned 64-bit arithmetic. -/
structure IngestStats where
  records : UInt64 := 0
  events : UInt64 := 0
  skippedNonMbo : UInt64 := 0
  skippedMalformed : UInt64 := 0
  deriving DecidableEq, Repr

/-- Route and decode one framed record. -/
def routeRecord (record : Bytes) : Ingest Routed := do
  let rtype ← Span.get record 1
  if rtype ≠ kMboRtype ∨ record.length ≠ sizeofWireMbo then
    .ok .skipNonMbo
  else
    let raw ← Span.copy record sizeofWireMbo
    match toEvent (.ofBytes raw) with
    | .ok event => .ok (.emit event)
    | .error _ => .ok .skipMalformed

/-- Count a routed record and yield the event to emit. -/
def tally (stats : IngestStats) (routed : Routed) : Option Event × IngestStats :=
  let stats := { stats with records := stats.records + 1 }
  match routed with
  | .emit event => (some event, { stats with events := stats.events + 1 })
  | .skipNonMbo =>
      (none, { stats with skippedNonMbo := stats.skippedNonMbo + 1 })
  | .skipMalformed =>
      (none, { stats with skippedMalformed := stats.skippedMalformed + 1 })

/-- What a reader's loop does with a tallied record: return its event, or go on
to the next record. -/
def deliver {ρ : Type} (event : Option Event) (reader : ρ) :
    Pass ρ (Option Event × ρ) :=
  match event with
  | some event => .done (some event, reader)
  | none => .again reader

/-! ## What routing means

A frame is long enough for every access routing makes, so its routing is a
plain function of its bytes. -/

/-- The routing of a frame. -/
def route (record : Bytes) : Routed :=
  match routeRecord record with
  | .ok routed => routed
  | .error _ => .skipNonMbo

/-- Routing a record that has its framing prefix never faults: the record type
is present, and the copy happens only when the record is exactly as long. -/
theorem routeRecord_eq {record : Bytes} (framed : 2 ≤ record.length) :
    routeRecord record = .ok (route record) := by
  have answered : ∃ routed, routeRecord record = .ok routed := by
    simp only [routeRecord, Span.get_of_lt (show 1 < record.length by omega),
      Checked.ok_bind]
    by_cases other : record[1] ≠ kMboRtype ∨ record.length ≠ sizeofWireMbo
    · exact ⟨_, if_pos other⟩
    · have size : record.length = sizeofWireMbo := by tauto
      rw [if_neg other, Span.copy_of_le (by omega), Checked.ok_bind]
      cases toEvent (.ofBytes (record.take sizeofWireMbo)) with
      | ok event => exact ⟨_, rfl⟩
      | error reason => exact ⟨_, rfl⟩
  obtain ⟨routed, equal⟩ := answered
  rw [route, equal]

theorem route_of_other {record : Bytes} (framed : 2 ≤ record.length)
    (other : ¬ (record[1]? = some kMboRtype ∧ record.length = sizeofWireMbo)) :
    route record = .skipNonMbo := by
  have present : 1 < record.length := by omega
  have differs : record[1] ≠ kMboRtype ∨ record.length ≠ sizeofWireMbo := by
    rw [List.getElem?_eq_getElem present, Option.some.injEq] at other
    tauto
  rw [route, routeRecord, Span.get_of_lt present, Checked.ok_bind,
    if_pos differs]

theorem route_of_mbo {record : Bytes} (rtype : record[1]? = some kMboRtype)
    (size : record.length = sizeofWireMbo) :
    route record = match toEvent (.ofBytes record) with
      | .ok event => .emit event
      | .error _ => .skipMalformed := by
  have present : 1 < record.length := by
    rw [size]
    decide
  rw [List.getElem?_eq_getElem present, Option.some.injEq] at rtype
  have same : ¬ (record[1] ≠ kMboRtype ∨ record.length ≠ sizeofWireMbo) := by
    tauto
  rw [route, routeRecord, Span.get_of_lt present, Checked.ok_bind, if_neg same,
    Span.copy_of_le (Nat.le_of_eq size.symm), Checked.ok_bind, ← size,
    List.take_length]
  cases toEvent (.ofBytes record) <;> rfl

/-- The event a record contributes, if it contributes one. -/
def emitted (record : Bytes) : Option Event :=
  match routeRecord record with
  | .ok (.emit event) => some event
  | _ => none

theorem emitted_eq {record : Bytes} (framed : 2 ≤ record.length) :
    emitted record = match route record with
      | .emit event => some event
      | .skipNonMbo | .skipMalformed => none := by
  rw [emitted, routeRecord_eq framed]
  cases route record <;> rfl

/-- Counting hands back exactly the event the record contributes. -/
theorem tally_fst {record : Bytes} (framed : 2 ≤ record.length)
    (stats : IngestStats) :
    (tally stats (route record)).1 = emitted record := by
  rw [emitted_eq framed]
  cases route record <;> rfl

end TradingSim
