import TradingSim.Ingest.Moving

/-!
# Record views

A record is handed out as a view into the assembler's buffer, for as long as the
buffer stays where it is.  Between two appends it does: all the views handed out
then lie next to each other in front of the read position, and read what they read
at first.  The next append reclaims exactly that stretch.
-/

namespace TradingSim

open Foundation

namespace RecordAssembler

/-- A stretch of the assembler's buffer. -/
structure View where
  offset : Nat
  size : Nat
  deriving DecidableEq, Repr

/-- What a view reads while the buffer is where it was. -/
def View.read (buf : Bytes) (view : View) : Bytes :=
  (buf.drop view.offset).take view.size

/-- The view `next` hands out, if any: the record begins where the read position
was. -/
def handed (assembler : RecordAssembler) (pull : Pull) : List View :=
  if pull.status = .record then [⟨assembler.readPos, pull.record.length⟩] else []

/-- The views handed out since the last append, on top of those handed out
before. -/
def viewsSinceAppend : List View → List AssemblerCall → RecordAssembler →
    Ingest (List View × RecordAssembler)
  | lent, [], assembler => .ok (lent, assembler)
  | _, .append chunk :: rest, assembler => do
      let assembler ← assembler.append chunk
      viewsSinceAppend [] rest assembler
  | lent, .next :: rest, assembler => do
      let (pull, after) ← assembler.next
      viewsSinceAppend (lent ++ assembler.handed pull) rest after

/-- Views that are not empty and lie next to each other. -/
def Adjacent : Nat → List View → Nat → Prop
  | start, [], stop => start = stop
  | start, view :: rest, stop =>
      view.offset = start ∧ 0 < view.size ∧
        Adjacent (start + view.size) rest stop

/-! ## Where records lie -/

/-- The places of records that lie next to each other. -/
def places : Nat → List Bytes → List View
  | _, [] => []
  | start, record :: rest =>
      ⟨start, record.length⟩ :: places (start + record.length) rest

theorem places_append (start : Nat) (left right : List Bytes) :
    places start (left ++ right) =
      places start left ++ places (start + left.flatten.length) right := by
  induction left generalizing start with
  | nil => simp [places]
  | cons record rest ih =>
      simp [places, ih, Nat.add_assoc]

/-- A buffer with the records from some offset on reads them at their places. -/
theorem map_read_places {buf rest : Bytes} {start : Nat} {records : List Bytes}
    (covers : buf.drop start = records.flatten ++ rest) :
    (places start records).map (View.read buf) = records := by
  induction records generalizing start with
  | nil => rfl
  | cons record records ih =>
      rw [List.flatten_cons, List.append_assoc] at covers
      have later : buf.drop (start + record.length) = records.flatten ++ rest := by
        rw [← List.drop_drop, covers, List.drop_left]
      rw [places, List.map_cons, ih later, View.read, covers, List.take_left]

theorem adjacent_places {start : Nat} {records : List Bytes}
    (framed : ∀ record ∈ records, dbnFramer.IsFrame record) :
    Adjacent start (places start records) (start + records.flatten.length) := by
  induction records generalizing start with
  | nil => rfl
  | cons record rest ih =>
      have long := frame_length_ge (framed record (by simp))
      have later : Adjacent (start + record.length)
          (places (start + record.length) rest)
            (start + record.length + rest.flatten.length) :=
        ih fun other member => framed other (by simp [member])
      rw [List.flatten_cons, List.length_append, ← Nat.add_assoc]
      exact ⟨rfl, Nat.lt_of_lt_of_le (by decide) long, later⟩

/-! ## Any calls -/

variable {assembler : RecordAssembler} {handedOut : List Bytes}

theorem HandedOut.readPos_eq (holds : HandedOut assembler handedOut) :
    assembler.readPos = handedOut.flatten.length := by
  rw [← holds.consumed, List.length_take_of_le holds.valid]

theorem HandedOut.handed (holds : HandedOut assembler handedOut) (pull : Pull) :
    places 0 (handedOut ++ records [pull]) =
      places 0 handedOut ++ assembler.handed pull := by
  rw [places_append, Nat.zero_add, ← holds.readPos_eq, RecordAssembler.handed]
  by_cases record : pull.status = .record
  · simp [records, record, places]
  · simp [records, record, places]

/-- The views handed out are the places of the records handed out. -/
theorem HandedOut.lent (holds : HandedOut assembler handedOut)
    {calls : List AssemblerCall} {pulls : List Pull} {last : RecordAssembler}
    (called : RecordAssembler.callAll calls assembler = .ok (pulls, last)) :
    viewsSinceAppend (places 0 handedOut) calls assembler =
      .ok (places 0 (sinceAppend handedOut calls pulls), last) := by
  induction calls generalizing assembler handedOut pulls with
  | nil =>
      cases called
      rfl
  | cons first rest ih =>
      obtain ⟨⟨some, middle⟩, once, later⟩ := Checked.bind_eq_ok.mp called
      obtain ⟨⟨more, stop⟩, others, result⟩ := Checked.bind_eq_ok.mp later
      cases result
      cases first with
      | append chunk =>
          obtain ⟨after, appended, result⟩ := Checked.bind_eq_ok.mp once
          cases result
          rw [viewsSinceAppend, appended, Checked.ok_bind]
          exact ih (holds.append appended) others
      | next =>
          obtain ⟨⟨pull, after⟩, pulled, result⟩ := Checked.bind_eq_ok.mp once
          cases result
          rw [viewsSinceAppend, pulled, Checked.ok_bind]
          dsimp only
          rw [← holds.handed]
          exact ih (holds.next pulled) others

/-- Whatever is appended in whatever chunks and whenever `next` is called in
between: the views handed out since the last append still read the records they
were handed out for, lie next to each other and fill the buffer up to the read
position, and all that an append keeps is what is behind them. -/
theorem views_stay_good (calls : List AssemblerCall) :
    ∃ pulls lent assembler,
      callAll calls {} = .ok (pulls, assembler) ∧
      viewsSinceAppend [] calls {} = .ok (lent, assembler) ∧
      lent.map (View.read assembler.buf) = sinceAppend [] calls pulls ∧
      Adjacent 0 lent assembler.readPos ∧
      assembler.readPos ≤ assembler.buf.length ∧
      ∀ chunk, assembler.append chunk =
        .ok { buf := assembler.buf.drop assembler.readPos ++ chunk
              readPos := 0 } := by
  obtain ⟨pulls, assembler, called, stretch⟩ := stretch_callAll valid_empty calls
  have fresh : HandedOut {} [] := {
    valid := valid_empty
    framed := by simp
    consumed := rfl }
  have holds := fresh.callAll called
  refine ⟨pulls, _, assembler, called, fresh.lent called, ?_, ?_,
    stretch.valid, append_eq stretch.valid⟩
  · have covers : assembler.buf.drop 0 =
        (sinceAppend [] calls pulls).flatten ++ assembler.unconsumed := by
      rw [List.drop_zero, ← holds.consumed, unconsumed, List.take_append_drop]
    exact map_read_places covers
  · have adjacent := @adjacent_places 0 _ holds.framed
    rw [Nat.zero_add, ← holds.readPos_eq] at adjacent
    exact adjacent

end RecordAssembler

end TradingSim
