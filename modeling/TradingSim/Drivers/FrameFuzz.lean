import TradingSim.Ingest.Progress

/-!
# The fuzz harnesses

Both harnesses feed arbitrary bytes to the framer and drain an assembler over them.
The portable one also checks each answer of the framer against an oracle, and the
length of each drain against a cap; it ends with the code of the first check that
fails.  No input makes either of them fail, and what the oracle lets through is
exactly the framer's answer, but for one confusion.
-/

namespace TradingSim

open Foundation

namespace FrameFuzz

/-- The checks `check_frame_one` makes on an answer of the framer. -/
def oracle (buf : Bytes) (r : FrameResult) : Ingest Nat :=
  match r.status with
  | .ok =>
      if r.recordSize < 4 then .ok 1
      else if r.recordSize % 4 ≠ 0 then .ok 2
      else if r.recordSize > buf.length then .ok 3
      else do
        let len ← Span.get buf 0
        if r.recordSize ≠ len.toNat * 4 then .ok 4 else .ok 0
  | .needMore =>
      if buf.length ≥ 2 then do
        let len ← Span.get buf 0
        let sz := len.toNat * 4
        if sz ≠ 0 ∧ sz ≤ buf.length then .ok 5 else .ok 0
      else .ok 0
  | .corrupt =>
      if buf.length = 0 then .ok 6
      else do
        let len ← Span.get buf 0
        if len.toNat ≠ 0 then .ok 7 else .ok 0

def checkFrameOne (buf : Bytes) : Ingest Nat := do
  let r ← frameOne buf
  oracle buf r

/-- A drain and the records it has handed out. -/
structure Draining where
  assembler : RecordAssembler
  steps : Nat := 0
  deriving DecidableEq, Repr

/-- One pass of the portable drain. -/
def drainPass (cap : Nat) (draining : Draining) : Ingest (Pass Draining Nat) := do
  let (p, assembler) ← draining.assembler.next
  if p.status ≠ .record then .ok (.done 0)
  else do
    let _ ← routeRecord p.record
    let steps := draining.steps + 1
    if steps > cap then .ok (.done 20) else .ok (.again { assembler, steps })

/-- Drain one buffer, with a cap on the number of records. -/
def drainTrial (fuel : Nat) (bytes : Bytes) : Ingest Nat := do
  let assembler ← ({} : RecordAssembler).append bytes
  Loop.run (drainPass (bytes.length + 16)) fuel { assembler }

/-- The code of the first buffer that fails a check. -/
def firstCode (check : Bytes → Ingest Nat) : List Bytes → Ingest Nat
  | [] => .ok 0
  | bytes :: rest => do
      let code ← check bytes
      if code ≠ 0 then .ok code else firstCode check rest

/-- `main`, with what the random generator came up with for its two parts. -/
def main (fuel : Nat) (buffers trials : List Bytes) : Ingest Nat := do
  let code ← firstCode checkFrameOne buffers
  if code ≠ 0 then .ok code else firstCode (drainTrial fuel) trials

/-- One pass of the libFuzzer drain, which has no cap. -/
def testPass (assembler : RecordAssembler) :
    Ingest (Pass RecordAssembler Nat) := do
  let (p, assembler) ← assembler.next
  if p.status ≠ .record then .ok (.done 0)
  else do
    let _ ← routeRecord p.record
    .ok (.again assembler)

/-- `LLVMFuzzerTestOneInput`. -/
def testOneInput (fuel : Nat) (data : Bytes) : Ingest Nat := do
  let assembler ← ({} : RecordAssembler).append data
  Loop.run testPass fuel assembler

/-! ## The oracle -/

/-- What the oracle lets through for a buffer: the framer's own verdict and, with a
frame, its size, except that asking for more is let through in front of a
corruption, and a corruption for a single zero byte. -/
def Accepted (buf : Bytes) (r : FrameResult) : Prop :=
  match r.status with
  | .ok => frameVerdict buf = .frame r.recordSize
  | .needMore => frameVerdict buf = .short ∨ frameVerdict buf = .corrupt
  | .corrupt => frameVerdict buf = .corrupt ∨ buf = [0]

theorem oracle_ok_iff (buf : Bytes) (rtype : UInt8) (size : Nat) :
    oracle buf ⟨.ok, rtype, size⟩ = .ok 0 ↔ frameVerdict buf = .frame size := by
  rw [frameVerdict_eq_frame]
  constructor
  · intro passed
    simp only [oracle] at passed
    split at passed
    next => cases passed
    next large =>
      split at passed
      next => cases passed
      next =>
        split at passed
        next => cases passed
        next fits =>
          match buf, fits, passed with
          | [], fits, _ | [_], fits, _ =>
              simp only [List.length_nil, List.length_singleton] at fits
              omega
          | length :: rtype :: rest, fits, passed =>
              rw [Span.get_of_lt (by simp), Checked.ok_bind] at passed
              split at passed
              next => cases passed
              next same =>
                simp only [List.getElem_cons_zero, ne_eq,
                  Decidable.not_not] at same
                exact ⟨length, rtype, rest, rfl, by omega, by omega, by omega⟩
  · rintro ⟨length, _, rest, rfl, nonzero, rfl, le⟩
    simp only [oracle]
    rw [if_neg (by omega), if_neg (by omega), if_neg (by omega),
      Span.get_of_lt (by simp), Checked.ok_bind, if_neg]
    simp only [List.getElem_cons_zero]
    omega

theorem oracle_needMore_iff (buf : Bytes) (rtype : UInt8) (size : Nat) :
    oracle buf ⟨.needMore, rtype, size⟩ = .ok 0 ↔
      frameVerdict buf = .short ∨ frameVerdict buf = .corrupt := by
  match buf with
  | [] => simp [oracle]
  | [_] => simp [oracle]
  | length :: rtype :: rest =>
      have long : (length :: rtype :: rest).length ≥ 2 := by simp
      simp only [oracle]
      rw [if_pos long, Span.get_of_lt (by simp), Checked.ok_bind,
        frameVerdict_cons]
      simp only [List.getElem_cons_zero, List.length_cons]
      by_cases zero : length.toNat = 0
      · simp [zero]
      · by_cases few : rest.length + 2 < 4 * length.toNat
        · rw [if_neg (by omega), if_neg zero, if_pos few]
          simp
        · rw [if_pos (by omega), if_neg zero, if_neg few]
          simp

theorem oracle_corrupt_iff (buf : Bytes) (rtype : UInt8) (size : Nat) :
    oracle buf ⟨.corrupt, rtype, size⟩ = .ok 0 ↔
      frameVerdict buf = .corrupt ∨ buf = [0] := by
  match buf with
  | [] => simp [oracle]
  | [length] =>
      have zero : length.toNat = 0 ↔ length = 0 := by
        rw [← UInt8.toNat_inj]
        rfl
      simp [oracle, Span.get, zero]
  | length :: rtype :: rest =>
      have zero : length.toNat = 0 ↔ length = 0 := by
        rw [← UInt8.toNat_inj]
        rfl
      rw [frameVerdict_eq_corrupt]
      simp [oracle, Span.get, zero]

theorem oracle_eq_zero_iff (buf : Bytes) (r : FrameResult) :
    oracle buf r = .ok 0 ↔ Accepted buf r := by
  obtain ⟨status, rtype, size⟩ := r
  cases status with
  | ok => exact oracle_ok_iff buf rtype size
  | needMore => exact oracle_needMore_iff buf rtype size
  | corrupt => exact oracle_corrupt_iff buf rtype size

theorem checkFrameOne_passes (buf : Bytes) : checkFrameOne buf = .ok 0 := by
  rw [checkFrameOne, frameOne_eq, Checked.ok_bind, oracle_eq_zero_iff]
  cases verdict : frameVerdict buf with
  | frame size => exact verdict
  | short => exact .inl verdict
  | corrupt => exact .inl verdict

/-! ## The drains -/

variable {cap fuel : Nat} {assembler : RecordAssembler}

/-- A pull takes a record that can be routed out of the assembler, or stops. -/
theorem pulled (valid : assembler.Valid) :
    (∃ record rest, assembler.next = .ok (⟨.record, record⟩, rest) ∧
      2 ≤ record.length ∧ rest.Valid ∧
      rest.unconsumed.length < assembler.unconsumed.length) ∨
    ∃ pull, assembler.next = .ok (pull, assembler) ∧ pull.status ≠ .record := by
  cases verdict : frameVerdict assembler.unconsumed with
  | frame size =>
      have bounds := frame_size_bounds verdict
      obtain ⟨kept, rest⟩ := RecordAssembler.consume_frame valid verdict
      refine .inl ⟨_, _, RecordAssembler.next_of_frame valid verdict, ?_, kept, ?_⟩
      · rw [List.length_take_of_le bounds.2.2]
        omega
      · rw [rest, List.length_drop]
        omega
  | short =>
      exact .inr ⟨_, RecordAssembler.next_of_short valid verdict, by simp⟩
  | corrupt =>
      exact .inr ⟨_, RecordAssembler.next_of_corrupt valid verdict, by simp⟩

/-- What a capped drain keeps: the cap leaves room for every byte there is. -/
structure Draining.Roomy (cap : Nat) (draining : Draining) : Prop where
  valid : draining.assembler.Valid
  room : draining.steps + draining.assembler.unconsumed.length ≤ cap

/-- A pass of a capped drain stops with success, or goes on with less to drain. -/
theorem drainPass_step {draining : Draining} (roomy : draining.Roomy cap) :
    drainPass cap draining = .ok (.done 0) ∨
      ∃ next, drainPass cap draining = .ok (.again next) ∧ next.Roomy cap ∧
        next.assembler.unconsumed.length <
          draining.assembler.unconsumed.length := by
  rcases pulled roomy.valid with
    ⟨record, rest, pulls, framed, kept, fewer⟩ | ⟨pull, pulls, stops⟩
  · have room := roomy.room
    refine .inr ⟨⟨rest, draining.steps + 1⟩, ?_, ⟨kept, ?_⟩, fewer⟩
    · rw [drainPass, pulls, Checked.ok_bind]
      dsimp only
      rw [if_neg (by simp), routeRecord_eq framed, Checked.ok_bind,
        if_neg (by omega)]
    · dsimp only
      omega
  · left
    rw [drainPass, pulls, Checked.ok_bind]
    exact if_pos stops

/-- A capped drain of a fresh buffer never reaches its cap. -/
theorem drainTrial_passes {bytes : Bytes} (enough : bytes.length < fuel) :
    drainTrial fuel bytes = .ok 0 := by
  rw [drainTrial, RecordAssembler.append_eq RecordAssembler.valid_empty,
    Checked.ok_bind]
  have roomy : Draining.Roomy (bytes.length + 16)
      { assembler := { buf := bytes, readPos := 0 } } :=
    ⟨Nat.zero_le _, by simp [RecordAssembler.unconsumed]⟩
  exact Loop.run_settles (Draining.Roomy (bytes.length + 16))
    (fun draining => draining.assembler.unconsumed.length)
    (fun _ => drainPass_step) roomy enough

theorem testPass_step (valid : assembler.Valid) :
    testPass assembler = .ok (.done 0) ∨
      ∃ next, testPass assembler = .ok (.again next) ∧ next.Valid ∧
        next.unconsumed.length < assembler.unconsumed.length := by
  rcases pulled valid with
    ⟨record, rest, pulls, framed, kept, fewer⟩ | ⟨pull, pulls, stops⟩
  · refine .inr ⟨rest, ?_, kept, fewer⟩
    rw [testPass, pulls, Checked.ok_bind]
    dsimp only
    rw [if_neg (by simp), routeRecord_eq framed, Checked.ok_bind]
  · left
    rw [testPass, pulls, Checked.ok_bind]
    exact if_pos stops

theorem testOneInput_passes {data : Bytes} (enough : data.length < fuel) :
    testOneInput fuel data = .ok 0 := by
  rw [testOneInput, RecordAssembler.append_eq RecordAssembler.valid_empty,
    Checked.ok_bind]
  exact Loop.run_settles RecordAssembler.Valid
    (fun assembler => assembler.unconsumed.length) (fun _ => testPass_step)
    (Nat.zero_le _) enough

/-! ## The harnesses -/

theorem firstCode_passes {check : Bytes → Ingest Nat} {buffers : List Bytes}
    (passes : ∀ bytes ∈ buffers, check bytes = .ok 0) :
    firstCode check buffers = .ok 0 := by
  induction buffers with
  | nil => rfl
  | cons bytes rest ih =>
      rw [firstCode, passes bytes (by simp), Checked.ok_bind,
        if_neg (fun differ => differ rfl)]
      exact ih fun other member => passes other (by simp [member])

/-- No bytes make either harness fail, hang or step out of a buffer, however many
buffers there are; and an answer passes the oracle exactly when it has the framer's
own verdict and, with a frame, its size, or asks for more in front of a corruption,
or takes a single zero byte for one. -/
theorem harnesses_pass :
    (∀ buffers trials fuel, (∀ bytes ∈ trials, bytes.length < fuel) →
      main fuel buffers trials = .ok 0) ∧
    (∀ data fuel, data.length < fuel → testOneInput fuel data = .ok 0) ∧
    ∀ buf r, oracle buf r = .ok 0 ↔ Accepted buf r := by
  refine ⟨?_, fun _ _ => testOneInput_passes, oracle_eq_zero_iff⟩
  intro buffers trials fuel enough
  have first : firstCode checkFrameOne buffers = .ok 0 :=
    firstCode_passes fun bytes _ => checkFrameOne_passes bytes
  rw [main, first, Checked.ok_bind, if_neg (fun differ => differ rfl)]
  exact firstCode_passes fun bytes member => drainTrial_passes (enough bytes member)

/-- A buffer with a corruption behind a record, in both harnesses. -/
theorem harnesses_pass_sample :
    main 100 [[1, 0x20, 0, 0, 0, 0]] [[1, 0x20, 0, 0, 0, 0]] = .ok 0 ∧
      testOneInput 100 [1, 0x20, 0, 0, 0, 0] = .ok 0 := by
  obtain ⟨portable, coverage, _⟩ := harnesses_pass
  exact ⟨portable _ _ 100 (by decide), coverage _ 100 (by decide)⟩

end FrameFuzz

end TradingSim
