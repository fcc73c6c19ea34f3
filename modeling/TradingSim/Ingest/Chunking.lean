import TradingSim.Ingest.Assembler

/-!
# Chunking invariance

Whatever way a byte stream is cut into appended chunks, and whenever `next` is
called in between, the assembler hands out the frames of the stream in order and
keeps the rest.
-/

namespace TradingSim

open Foundation

/-- One call on an assembler. -/
inductive AssemblerCall where
  | append (chunk : Bytes)
  | next
  deriving DecidableEq, Repr

namespace RecordAssembler

/-- Make one call.  Only `next` has a result. -/
def call (assembler : RecordAssembler) :
    AssemblerCall → Ingest (List Pull × RecordAssembler)
  | .append chunk => do
      let assembler ← assembler.append chunk
      .ok ([], assembler)
  | .next => do
      let (pull, assembler) ← assembler.next
      .ok ([pull], assembler)

/-- Make a sequence of calls, collecting what `next` returned. -/
def callAll : List AssemblerCall → RecordAssembler →
    Ingest (List Pull × RecordAssembler)
  | [], assembler => .ok ([], assembler)
  | first :: rest, assembler => do
      let (pulls, assembler) ← assembler.call first
      let (morePulls, assembler) ← callAll rest assembler
      .ok (pulls ++ morePulls, assembler)

/-- All bytes a sequence of calls appends. -/
def appended : List AssemblerCall → Bytes
  | [] => []
  | .append chunk :: rest => chunk ++ appended rest
  | .next :: rest => appended rest

/-- The records among the results of `next`. -/
def records (pulls : List Pull) : List Bytes :=
  (pulls.filter fun pull => pull.status = .record).map Pull.record

/-- Calling `next` until it does not return a record: the records, the status
that ended it, and the assembler left behind. -/
inductive Drains : RecordAssembler → List Bytes → PullStatus →
    RecordAssembler → Prop where
  | stop {assembler last : RecordAssembler} {pull : Pull} :
      assembler.next = .ok (pull, last) → pull.status ≠ .record →
        Drains assembler [] pull.status last
  | record {assembler middle last : RecordAssembler} {pull : Pull}
      {rest : List Bytes} {status : PullStatus} :
      assembler.next = .ok (pull, middle) → pull.status = .record →
        Drains middle rest status last →
        Drains assembler (pull.record :: rest) status last

@[simp] theorem records_append (left right : List Pull) :
    records (left ++ right) = records left ++ records right := by
  simp [records]

theorem Drains.deterministic {assembler left right : RecordAssembler}
    {leftRecords rightRecords : List Bytes} {leftStatus rightStatus : PullStatus}
    (first : Drains assembler leftRecords leftStatus left)
    (second : Drains assembler rightRecords rightStatus right) :
    leftRecords = rightRecords ∧ leftStatus = rightStatus ∧ left = right := by
  induction first generalizing rightRecords with
  | stop next stopped =>
      cases second with
      | stop next' _ =>
          rw [next] at next'
          cases next'
          exact ⟨rfl, rfl, rfl⟩
      | record next' continued _ =>
          rw [next] at next'
          cases next'
          exact (stopped continued).elim
  | record next continued _ ih =>
      cases second with
      | stop next' stopped =>
          rw [next] at next'
          cases next'
          exact (stopped continued).elim
      | record next' _ rest' =>
          rw [next] at next'
          cases next'
          obtain ⟨rfl, rfl, rfl⟩ := ih rest'
          exact ⟨rfl, rfl, rfl⟩

/-- The status a drain ends with, read off the tail it stops at. -/
def stopStatus (tail : Bytes) : PullStatus :=
  if frameVerdict tail = .corrupt then .corrupt else .needMore

theorem next_of_isTail {assembler : RecordAssembler} (valid : assembler.Valid)
    (isTail : dbnFramer.IsTail assembler.unconsumed) :
    assembler.next =
      .ok (⟨stopStatus assembler.unconsumed, []⟩, assembler) := by
  cases verdict : frameVerdict assembler.unconsumed with
  | frame size => exact (isTail size verdict).elim
  | short => simp [next_of_short valid verdict, stopStatus, verdict]
  | corrupt => simp [next_of_corrupt valid verdict, stopStatus, verdict]

theorem stopStatus_ne_record (tail : Bytes) : stopStatus tail ≠ .record := by
  unfold stopStatus
  split <;> simp

/-- Draining hands out the frames of the carry tail and stops at its tail. -/
theorem drains_frames {assembler : RecordAssembler} (valid : assembler.Valid) :
    ∃ last, Drains assembler (dbnFramer.frames assembler.unconsumed)
        (stopStatus (dbnFramer.tail assembler.unconsumed)) last ∧
      last.Valid ∧
      last.unconsumed = dbnFramer.tail assembler.unconsumed := by
  induction view : assembler.unconsumed
    using Framer.stream_induction dbnFramer generalizing assembler with
  | tail input isTail =>
      rw [Framer.frames_of_isTail isTail, Framer.tail_of_isTail isTail]
      subst view
      exact ⟨assembler,
        .stop (next_of_isTail valid isTail) (stopStatus_ne_record _), valid, rfl⟩
  | frame record rest frame ih =>
      rw [Framer.frames_append frame, Framer.tail_append frame]
      have verdict : frameVerdict assembler.unconsumed =
          .frame record.length := view ▸ frame.verdict_append rest
      obtain ⟨restValid, restView⟩ := consume_frame valid verdict
      rw [view, List.drop_left] at restView
      obtain ⟨last, drains, lastValid, lastView⟩ := ih restValid restView
      have next := next_of_frame valid verdict
      rw [view, List.take_left] at next
      exact ⟨last, .record next rfl drains, lastValid, lastView⟩

/-! ## Runs of calls -/

/-- What a stretch of calls does: bytes are neither lost nor made up, every
record is a frame, and a corruption is reported for good. -/
structure Stretch (before : RecordAssembler) (bytes : Bytes)
    (pulls : List Pull) (after : RecordAssembler) : Prop where
  valid : after.Valid
  conserved : before.unconsumed ++ bytes =
    (records pulls).flatten ++ after.unconsumed
  framed : ∀ record ∈ records pulls, dbnFramer.IsFrame record
  corrupted : frameVerdict before.unconsumed = .corrupt →
    frameVerdict after.unconsumed = .corrupt ∧
      ∀ pull ∈ pulls, pull.status = .corrupt
  reported : (∃ pull ∈ pulls, pull.status = .corrupt) →
    frameVerdict after.unconsumed = .corrupt
  forGood : pulls.Pairwise fun earlier later =>
    earlier.status = .corrupt → later.status = .corrupt

theorem Stretch.refl {assembler : RecordAssembler} (valid : assembler.Valid) :
    Stretch assembler [] [] assembler where
  valid := valid
  conserved := by simp [records]
  framed := by simp [records]
  corrupted := by simp
  reported := by simp
  forGood := .nil

theorem Stretch.trans {before middle after : RecordAssembler}
    {firstBytes secondBytes : Bytes} {firstPulls secondPulls : List Pull}
    (first : Stretch before firstBytes firstPulls middle)
    (second : Stretch middle secondBytes secondPulls after) :
    Stretch before (firstBytes ++ secondBytes)
      (firstPulls ++ secondPulls) after where
  valid := second.valid
  conserved := by
    rw [records_append, List.flatten_append, List.append_assoc,
      ← second.conserved, ← List.append_assoc, first.conserved,
      List.append_assoc]
  framed := by
    intro record member
    rw [records_append, List.mem_append] at member
    exact member.elim (first.framed record) (second.framed record)
  corrupted := by
    intro corrupt
    obtain ⟨stillCorrupt, firstAll⟩ := first.corrupted corrupt
    obtain ⟨endCorrupt, secondAll⟩ := second.corrupted stillCorrupt
    refine ⟨endCorrupt, ?_⟩
    intro pull member
    rw [List.mem_append] at member
    exact member.elim (firstAll pull) (secondAll pull)
  reported := by
    rintro ⟨pull, member, corrupt⟩
    rw [List.mem_append] at member
    rcases member with member | member
    · exact (second.corrupted (first.reported ⟨pull, member, corrupt⟩)).1
    · exact second.reported ⟨pull, member, corrupt⟩
  forGood := by
    rw [List.pairwise_append]
    refine ⟨first.forGood, second.forGood, ?_⟩
    intro earlier earlierMember later laterMember corrupt
    have middleCorrupt := first.reported ⟨earlier, earlierMember, corrupt⟩
    exact (second.corrupted middleCorrupt).2 later laterMember

theorem stretch_append {assembler : RecordAssembler} (valid : assembler.Valid)
    (chunk : Bytes) :
    ∃ after, assembler.call (.append chunk) = .ok ([], after) ∧
      Stretch assembler chunk [] after := by
  refine ⟨{ buf := assembler.unconsumed ++ chunk, readPos := 0 }, ?_, ?_⟩
  · rw [call, append_eq valid, Checked.ok_bind]
  · exact {
      valid := Nat.zero_le _
      conserved := by simp [records, unconsumed]
      framed := by simp [records]
      corrupted := fun corrupt =>
        ⟨dbnFramer.corrupt_append corrupt chunk, by simp⟩
      reported := by simp
      forGood := .nil }

theorem stretch_next {assembler : RecordAssembler} (valid : assembler.Valid) :
    ∃ pull after, assembler.call .next = .ok ([pull], after) ∧
      Stretch assembler [] [pull] after ∧
      (pull.status ≠ .record → after = assembler) := by
  cases verdict : frameVerdict assembler.unconsumed with
  | frame size =>
      obtain ⟨restValid, restView⟩ := consume_frame valid verdict
      have framed : dbnFramer.IsFrame (assembler.unconsumed.take size) :=
        Framer.isFrame_take verdict
      refine ⟨_, _, by rw [call, next_of_frame valid verdict]; rfl, ?_, ?_⟩
      · exact {
          valid := restValid
          conserved := by simp [records, restView]
          framed := by simpa [records] using framed
          corrupted := by simp [verdict]
          reported := by simp
          forGood := by simp }
      · simp
  | short =>
      refine ⟨_, _, by rw [call, next_of_short valid verdict]; rfl, ?_, ?_⟩
      · exact {
          valid := valid
          conserved := by simp [records]
          framed := by simp [records]
          corrupted := by simp [verdict]
          reported := by simp
          forGood := by simp }
      · simp
  | corrupt =>
      refine ⟨_, _, by rw [call, next_of_corrupt valid verdict]; rfl, ?_, ?_⟩
      · exact {
          valid := valid
          conserved := by simp [records]
          framed := by simp [records]
          corrupted := by simp [verdict]
          reported := fun _ => verdict
          forGood := by simp }
      · simp

/-- Every sequence of calls is a stretch. -/
theorem stretch_callAll {assembler : RecordAssembler} (valid : assembler.Valid)
    (calls : List AssemblerCall) :
    ∃ pulls after, callAll calls assembler = .ok (pulls, after) ∧
      Stretch assembler (appended calls) pulls after := by
  induction calls generalizing assembler with
  | nil => exact ⟨[], assembler, rfl, .refl valid⟩
  | cons first rest ih =>
      cases first with
      | append chunk =>
          obtain ⟨middle, called, stretch⟩ := stretch_append valid chunk
          obtain ⟨pulls, after, calledAll, stretches⟩ := ih stretch.valid
          refine ⟨pulls, after, ?_, stretch.trans stretches⟩
          rw [callAll, called, Checked.ok_bind]
          simp [calledAll]
      | next =>
          obtain ⟨pull, middle, called, stretch, _⟩ := stretch_next valid
          obtain ⟨pulls, after, calledAll, stretches⟩ := ih stretch.valid
          refine ⟨[pull] ++ pulls, after, ?_, stretch.trans stretches⟩
          rw [callAll, called, Checked.ok_bind]
          simp [calledAll]

/-- Appending in any chunks, with `next` called at any point, hands out the
records of the single-chunk run in order, and the same records and status once
drained. -/
theorem callAll_chunking_invariant (calls : List AssemblerCall) :
    ∃ pulls assembler,
      callAll calls {} = .ok (pulls, assembler) ∧
      (records pulls).flatten ++ assembler.unconsumed = appended calls ∧
      (∃ single whole status singleEnd,
        ({} : RecordAssembler).append (appended calls) = .ok single ∧
        Drains single whole status singleEnd ∧
        records pulls <+: whole ∧
        ∃ rest assemblerEnd, Drains assembler rest status assemblerEnd ∧
          records pulls ++ rest = whole) ∧
      (∀ pull after, assembler.next = .ok (pull, after) →
        pull.status ≠ .record → after = assembler) ∧
      pulls.Pairwise fun earlier later =>
        earlier.status = .corrupt → later.status = .corrupt := by
  obtain ⟨pulls, assembler, called, stretch⟩ :=
    stretch_callAll valid_empty calls
  have conserved : appended calls =
      (records pulls).flatten ++ assembler.unconsumed := stretch.conserved
  refine ⟨pulls, assembler, called, conserved.symm, ?_, ?_, stretch.forGood⟩
  · -- The frames of the whole stream are those handed out and those still held.
    have frames := Framer.frames_flatten_append stretch.framed
      assembler.unconsumed
    have tail := Framer.tail_flatten_append stretch.framed assembler.unconsumed
    rw [← conserved] at frames tail
    let single : RecordAssembler := { buf := appended calls, readPos := 0 }
    obtain ⟨singleEnd, singleDrains, _⟩ :=
      drains_frames (show single.Valid from Nat.zero_le _)
    obtain ⟨assemblerEnd, drains, _⟩ := drains_frames stretch.valid
    have view : single.unconsumed = appended calls := rfl
    rw [view, frames, tail] at singleDrains
    exact ⟨single, _, _, singleEnd, append_eq valid_empty _, singleDrains,
      List.prefix_append _ _, _, assemblerEnd, drains, rfl⟩
  · intro pull after next notRecord
    obtain ⟨pull', after', called', _, unchanged⟩ := stretch_next stretch.valid
    rw [call, next, Checked.ok_bind] at called'
    cases called'
    exact unchanged notRecord

end RecordAssembler

end TradingSim
