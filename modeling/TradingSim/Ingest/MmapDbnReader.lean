import TradingSim.Foundation.Loop
import TradingSim.Ingest.Replay

/-!
# The mapped reader

`MmapDbnReader` walks a cursor over a file that is present as one contiguous
view.  The only size arithmetic that could leave the range of `size_t` is the
end of the prologue, so the constructor takes the width of `size_t`; every later
advance of the cursor stays inside the view.
-/

namespace TradingSim

open Foundation

structure MmapDbnReader where
  /-- `map_.bytes()`. -/
  map : Bytes
  cursor : Nat := 0
  version : UInt8 := 0
  failed : Bool := false
  stats : IngestStats := {}
  deriving DecidableEq, Repr

namespace MmapDbnReader

def skipPrologue (width : Nat) (reader : MmapDbnReader) :
    Ingest MmapDbnReader :=
  let f := reader.map
  if f.length < 8 then Ingest.throw .truncatedHeader
  else do
    let (version, metadataLen) ← checkHeader f
    let cursor := (8 + metadataLen.toNat) % 2 ^ width
    if cursor > f.length then Ingest.throw .truncatedMetadata
    else .ok { reader with version, cursor }

/-- The constructor, over the bytes of a mapped file. -/
def construct (width : Nat) (file : Bytes) : Ingest MmapDbnReader :=
  skipPrologue width { map := file }

/-- One pass of the loop in `next`. -/
def pass (reader : MmapDbnReader) :
    Ingest (Pass MmapDbnReader (Option Event × MmapDbnReader)) := do
  let rest ← Span.subspan reader.map reader.cursor
  let r ← frameOne rest
  match r.status with
  | .ok => do
      let record ← Span.first rest r.recordSize
      -- The cursor moves before routing, since routing may skip the record.
      let reader := { reader with cursor := reader.cursor + r.recordSize }
      let routed ← routeRecord record
      let (event, stats) := tally reader.stats routed
      .ok (deliver event { reader with stats })
  | .needMore => .ok (.done (none, reader))
  | .corrupt => .ok (.done (none, { reader with failed := true }))

/-- What every further pass uses up. -/
def variant (reader : MmapDbnReader) : Nat :=
  reader.map.length - reader.cursor

def next (reader : MmapDbnReader) : Ingest (Option Event × MmapDbnReader) :=
  Loop.run pass (reader.variant + 1) reader

/-! ## The passes of `next` -/

/-- The class invariant. -/
def Valid (reader : MmapDbnReader) : Prop := reader.cursor ≤ reader.map.length

/-- The bytes behind the cursor. -/
def unread (reader : MmapDbnReader) : Bytes := reader.map.drop reader.cursor

/-- The replay a reader is in the middle of. -/
def replay (reader : MmapDbnReader) : Replay :=
  .ofStream reader.unread reader.failed reader.stats

/-- The reader after consuming a frame and counting it. -/
def consumed (reader : MmapDbnReader) (size : Nat) (stats : IngestStats) :
    MmapDbnReader :=
  { reader with cursor := reader.cursor + size, stats }

variable {reader : MmapDbnReader}

theorem pass_of_frame (valid : reader.Valid) {size : Nat}
    (verdict : frameVerdict reader.unread = .frame size)
    {event : Option Event} {stats : IngestStats}
    (counted : tally reader.stats (route (reader.unread.take size)) =
      (event, stats)) :
    reader.pass = .ok (deliver event (reader.consumed size stats)) := by
  have bounds := frame_size_bounds verdict
  have framed : 2 ≤ (reader.unread.take size).length := by
    rw [List.length_take_of_le bounds.2.2]
    omega
  rw [pass, Span.subspan_of_le valid, Checked.ok_bind, ← unread,
    frameOne_of_frame verdict, Checked.ok_bind]
  simp only [Span.first_of_le bounds.2.2, Checked.ok_bind,
    routeRecord_eq framed, counted, consumed]

theorem pass_of_short (valid : reader.Valid)
    (verdict : frameVerdict reader.unread = .short) :
    reader.pass = .ok (.done (none, reader)) := by
  rw [pass, Span.subspan_of_le valid, Checked.ok_bind, ← unread,
    frameOne_of_short verdict, Checked.ok_bind]

theorem pass_of_corrupt (valid : reader.Valid)
    (verdict : frameVerdict reader.unread = .corrupt) :
    reader.pass = .ok (.done (none, { reader with failed := true })) := by
  rw [pass, Span.subspan_of_le valid, Checked.ok_bind, ← unread,
    frameOne_of_corrupt verdict, Checked.ok_bind]

/-- What a pass of `next` comes to. -/
inductive PassStep (reader : MmapDbnReader) :
    Pass MmapDbnReader (Option Event × MmapDbnReader) → Prop where
  | emitted {size : Nat} {event : Event} {stats : IngestStats}
      (verdict : frameVerdict reader.unread = .frame size)
      (counted : tally reader.stats (route (reader.unread.take size)) =
        (some event, stats)) :
      PassStep reader (.done (some event, reader.consumed size stats))
  | skipped {size : Nat} {stats : IngestStats}
      (verdict : frameVerdict reader.unread = .frame size)
      (counted : tally reader.stats (route (reader.unread.take size)) =
        (none, stats)) :
      PassStep reader (.again (reader.consumed size stats))
  | exhausted (verdict : frameVerdict reader.unread = .short) :
      PassStep reader (.done (none, reader))
  | stopped (verdict : frameVerdict reader.unread = .corrupt) :
      PassStep reader (.done (none, { reader with failed := true }))

theorem pass_step (valid : reader.Valid) :
    ∃ outcome, reader.pass = .ok outcome ∧ PassStep reader outcome := by
  cases verdict : frameVerdict reader.unread with
  | frame size =>
      cases counted : tally reader.stats (route (reader.unread.take size)) with
      | mk event stats =>
          refine ⟨_, pass_of_frame valid verdict counted, ?_⟩
          cases event with
          | some event => exact .emitted verdict counted
          | none => exact .skipped verdict counted
  | short => exact ⟨_, pass_of_short valid verdict, .exhausted verdict⟩
  | corrupt => exact ⟨_, pass_of_corrupt valid verdict, .stopped verdict⟩

theorem PassStep.of_pass (valid : reader.Valid)
    {outcome : Pass MmapDbnReader (Option Event × MmapDbnReader)}
    (passed : reader.pass = .ok outcome) : PassStep reader outcome := by
  obtain ⟨other, same, step⟩ := pass_step valid
  rw [passed] at same
  cases same
  exact step

theorem pass_ok (valid : reader.Valid) :
    ∃ outcome, reader.pass = .ok outcome := by
  obtain ⟨outcome, passed, _⟩ := pass_step valid
  exact ⟨outcome, passed⟩

theorem unread_consumed (reader : MmapDbnReader) (size : Nat)
    (stats : IngestStats) :
    (reader.consumed size stats).unread = reader.unread.drop size := by
  simp [unread, consumed, List.drop_drop]

theorem valid_consumed (valid : reader.Valid) {size : Nat}
    (verdict : frameVerdict reader.unread = .frame size)
    (stats : IngestStats) : (reader.consumed size stats).Valid := by
  have le := (frame_size_bounds verdict).2.2
  rw [unread, List.length_drop] at le
  simp only [Valid, consumed] at valid ⊢
  omega

theorem variant_consumed {size : Nat}
    (verdict : frameVerdict reader.unread = .frame size)
    (stats : IngestStats) :
    (reader.consumed size stats).variant + 4 ≤ reader.variant := by
  have bounds := frame_size_bounds verdict
  rw [unread, List.length_drop] at bounds
  simp only [variant, consumed]
  omega

/-! ## `next` is the replay -/

theorem replay_of_frame {size : Nat}
    (verdict : frameVerdict reader.unread = .frame size)
    {event : Option Event} {stats : IngestStats}
    (counted : tally reader.stats (route (reader.unread.take size)) =
      (event, stats)) :
    reader.replay.next =
      Replay.resume event (reader.consumed size stats).replay := by
  rw [replay, Replay.next_of_frame verdict, counted, replay, unread_consumed]
  rfl

/-- What a call of `next` promises, from the reader before it to its outcome. -/
structure Replays (before : MmapDbnReader) (event : Option Event)
    (after : MmapDbnReader) : Prop where
  valid : after.Valid
  replay : before.replay.next = (event, after.replay)
  version : after.version = before.version
  map : after.map = before.map

theorem replays_of_done {result : Option Event × MmapDbnReader}
    (valid : reader.Valid) (done : reader.pass = .ok (.done result)) :
    Replays reader result.1 result.2 := by
  cases PassStep.of_pass valid done with
  | emitted verdict counted =>
      exact {
        valid := valid_consumed valid verdict _
        replay := replay_of_frame verdict counted
        version := rfl
        map := rfl }
  | exhausted verdict =>
      have ended := Replay.next_of_isTail (Framer.isTail_of_short verdict)
        reader.failed reader.stats
      exact {
        valid := valid
        replay := by
          rw [replay, ended, Replay.failedAt, verdict]
          simp
        version := rfl
        map := rfl }
  | stopped verdict =>
      have ended := Replay.next_of_isTail (Framer.isTail_of_corrupt verdict)
        reader.failed reader.stats
      exact {
        valid := valid
        replay := by
          rw [replay, ended, Replay.failedAt, verdict]
          simp [replay, unread]
        version := rfl
        map := rfl }

theorem replays_of_again {middle : MmapDbnReader} (valid : reader.Valid)
    (again : reader.pass = .ok (.again middle)) :
    middle.Valid ∧ middle.variant < reader.variant ∧
      ∀ event after, Replays middle event after →
        Replays reader event after := by
  cases PassStep.of_pass valid again with
  | @skipped size stats verdict counted =>
      have stepped := replay_of_frame verdict counted
      have progress := variant_consumed verdict stats
      refine ⟨valid_consumed valid verdict stats, by omega, ?_⟩
      intro event after replays
      exact { replays with replay := stepped.trans replays.replay }

/-- Every call of `next` returns, and returns what the replay does. -/
theorem next_replays (valid : reader.Valid) :
    ∃ result, reader.next = .ok result ∧
      Replays reader result.1 result.2 := by
  apply Loop.run_returns Valid variant
    (fun reader result => Replays reader result.1 result.2)
    pass_ok replays_of_done _ valid (Nat.lt_succ_self _)
  intro reader middle valid again
  obtain ⟨kept, lower, handOn⟩ := replays_of_again valid again
  exact ⟨kept, lower, fun result => handOn result.1 result.2⟩

/-! ## The constructor -/

/-- A reader as the constructor leaves it. -/
structure Fresh (file : Bytes) (reader : MmapDbnReader) : Prop where
  valid : reader.Valid
  map : reader.map = file
  unread : reader.unread = recordRegion file
  failed : reader.failed = false
  stats : reader.stats = {}

theorem construct_eq {width : Nat} {file : Bytes}
    (noWrap : 8 + metadataLen file < 2 ^ width) :
    construct width file = match parsePrologue file with
      | .error error => Ingest.throw error
      | .ok version =>
          .ok { map := file, cursor := 8 + metadataLen file, version } := by
  rw [construct, skipPrologue]
  dsimp only
  by_cases short : file.length < 8
  · rw [if_pos short, parsePrologue, parseHeader, if_pos short]
  · rw [if_neg short, checkHeader_eq (by omega), parsePrologue]
    cases parseHeader file with
    | error error => rfl
    | ok version =>
        have number : (UInt32.ofNat (metadataLen file)).toNat =
            metadataLen file :=
          UInt32.toNat_ofNat_of_lt' (metadataLen_lt file)
        simp only [Checked.ok_bind, number, Nat.mod_eq_of_lt noWrap, gt_iff_lt]
        split <;> rfl

/-- Whatever the width of `size_t`, the constructor fails only by throwing, and
a reader it returns has its cursor inside the view. -/
theorem construct_safe (width : Nat) (file : Bytes) :
    (∃ error, construct width file = Ingest.throw error) ∨
      ∃ reader : MmapDbnReader,
        construct width file = .ok reader ∧ reader.Valid := by
  rw [construct, skipPrologue]
  dsimp only
  by_cases short : file.length < 8
  · rw [if_pos short]
    exact .inl ⟨_, rfl⟩
  · rw [if_neg short, checkHeader_eq (by omega)]
    cases parseHeader file with
    | error error => exact .inl ⟨error, rfl⟩
    | ok version =>
        simp only [Checked.ok_bind]
        split
        next => exact .inl ⟨_, rfl⟩
        next inside => exact .inr ⟨_, rfl, Nat.le_of_not_gt inside⟩

/-- A `size_t` of more than 32 bits holds the end of every prologue. -/
theorem prologue_lt_of_wider {width : Nat} (wider : 32 < width) (file : Bytes) :
    8 + metadataLen file < 2 ^ width := by
  have bound := metadataLen_lt file
  have room : 2 ^ 33 ≤ 2 ^ width := Nat.pow_le_pow_right (by decide) wider
  omega

theorem prologue_lt (file : Bytes) : 8 + metadataLen file < 2 ^ 64 :=
  prologue_lt_of_wider (by decide) file

theorem construct_returned {file : Bytes} {reader : MmapDbnReader}
    (returned : construct 64 file = .ok reader) :
    parsePrologue file = .ok reader.version ∧ Fresh file reader := by
  rw [construct_eq (prologue_lt file)] at returned
  cases parsed : parsePrologue file with
  | error error => simp [parsed, Ingest.throw] at returned
  | ok version =>
      simp only [parsed] at returned
      cases returned
      refine ⟨rfl, ?_⟩
      exact {
        valid := (parsePrologue_eq_ok.mp parsed).2
        map := rfl
        unread := rfl
        failed := rfl
        stats := rfl }

end MmapDbnReader

end TradingSim
