import Mathlib.Data.List.Infix
import TradingSim.Wire.Event

/-!
# The byte source

`FileByteSource` pumps bytes out of a file stream and knows nothing of records.
The stream underneath is the standard library's: its contents are the bytes not
delivered yet, and how each of its reads comes out is the environment's choice.
An ordinary file offers every read its whole request; smaller offers are the
short reads of a stream that is not a file, and a device may fail.
-/

namespace TradingSim

/-- How one read of the device comes out: it offers a number of bytes, or it
fails after reporting some of them.  Behind these, a read that fails may leave
other bytes in the buffer. -/
inductive ReadOutcome where
  | bytes (count : Nat)
  | ioError (count : Nat) (spill : Bytes := [])
  deriving DecidableEq, Repr

/-- Reads of a regular file: any of them may come up short, and none fails. -/
def shortReads (schedule : Nat → Nat) : Nat → ReadOutcome :=
  fun call => .bytes (schedule call)

/-- An open `std::ifstream`. -/
structure IfStream where
  /-- Contents not delivered yet. -/
  rest : Bytes
  eofbit : Bool := false
  failbit : Bool := false
  badbit : Bool := false
  gcount : Nat := 0
  /-- Reads that reached the device so far. -/
  calls : Nat := 0
  /-- The outcome of each read that reaches the device. -/
  script : Nat → ReadOutcome

namespace IfStream

def good (stream : IfStream) : Bool :=
  !(stream.eofbit || stream.failbit || stream.badbit)

/-- `istream::read`, with what it writes to the front of the buffer: nothing on a
stream that is not good, otherwise up to `size` bytes.  Stopping short at the end
of the contents sets the end and fail bits; a device error sets the bad bit and
delivers less than was asked for, whatever it wrote behind that. -/
def read (stream : IfStream) (size : Nat) : Bytes × IfStream :=
  if stream.good then
    match stream.script stream.calls with
    | .bytes count =>
        let taken := min (max 1 count) (min size stream.rest.length)
        let ended := decide (taken < size ∧ taken = stream.rest.length)
        (stream.rest.take taken,
          { stream with
            rest := stream.rest.drop taken
            eofbit := ended
            failbit := ended
            gcount := taken
            calls := stream.calls + 1 })
    | .ioError count spill =>
        let taken := min count (min (size - 1) stream.rest.length)
        (stream.rest.take taken ++ spill.take (size - taken),
          { stream with
            rest := stream.rest.drop taken
            badbit := true
            gcount := taken
            calls := stream.calls + 1 })
  else ([], { stream with failbit := true, gcount := 0 })

/-- A read takes `gcount` bytes off the front of what is left, and writes them to
the front of the buffer. -/
theorem read_eq (stream : IfStream) (size : Nat) :
    (stream.read size).2.rest =
        stream.rest.drop (stream.read size).2.gcount ∧
      (stream.read size).2.gcount ≤ size ∧
      (stream.read size).2.gcount ≤ stream.rest.length ∧
      (stream.read size).1.take (stream.read size).2.gcount =
        stream.rest.take (stream.read size).2.gcount ∧
      (stream.read size).2.gcount ≤ (stream.read size).1.length ∧
      (stream.read size).1.length ≤ size := by
  unfold read
  split
  next =>
    split
    next count _ =>
      have le : min (max 1 count) (min size stream.rest.length) ≤
          stream.rest.length := by omega
      have length := List.length_take_of_le le
      refine ⟨rfl, by dsimp only; omega, le, ?_, Nat.le_of_eq length.symm, ?_⟩
      · exact List.take_of_length_le (Nat.le_of_eq length)
      · dsimp only
        omega
    next count spill _ =>
      have le : min count (min (size - 1) stream.rest.length) ≤
          stream.rest.length := by omega
      have length := List.length_take_of_le le
      refine ⟨rfl, by dsimp only; omega, le, List.take_left' length, ?_, ?_⟩
      · dsimp only
        rw [List.length_append, length]
        exact Nat.le_add_right _ _
      · dsimp only
        rw [List.length_append, length, List.length_take]
        omega
  next => simp

/-- While no read fails, nothing but the delivered bytes is written. -/
theorem read_clean {stream : IfStream} {size : Nat}
    (clean : (stream.read size).2.badbit = false) :
    (stream.read size).1 = stream.rest.take (stream.read size).2.gcount := by
  unfold read at clean ⊢
  split
  next good =>
    rw [if_pos good] at clean
    split
    next => rfl
    next count spill outcome =>
      simp only [outcome] at clean
      cases clean
  next => simp

theorem read_closed {stream : IfStream} (closed : stream.good = false)
    (size : Nat) :
    stream.read size = ([], { stream with failbit := true, gcount := 0 }) := by
  rw [read, if_neg (by simp [closed])]

/-- A read that delivers nothing is never followed by one of that size that
delivers something. -/
theorem read_spent {stream : IfStream} {size : Nat}
    (spent : (stream.read size).2.gcount = 0) :
    ((stream.read size).2.read size).2.gcount = 0 := by
  unfold read at spent ⊢
  by_cases good : stream.good = true
  · rw [if_pos good] at spent ⊢
    cases outcome : stream.script stream.calls with
    | bytes count =>
        simp only [outcome] at spent ⊢
        have nothing : min size stream.rest.length = 0 := by omega
        split
        · split
          · simp only [spent, List.drop_zero]
            omega
          · simp only [spent, List.drop_zero]
            omega
        · rfl
    | ioError count spill =>
        rw [if_neg]
        simp [IfStream.good]
  · rw [if_neg good] at spent ⊢
    rw [if_neg]
    simp [IfStream.good]

end IfStream

/-- `FileByteSource`: the stream behind a plain `read` into a caller's buffer. -/
structure FileByteSource where
  file : IfStream

namespace FileByteSource

/-- A freshly opened source over a file's contents. -/
def onFile (contents : Bytes) (script : Nat → ReadOutcome) : FileByteSource where
  file := { rest := contents, script }

/-- Fill `dst` from the front; return how many bytes were delivered, the buffer
after the writes, and the source. -/
def read (source : FileByteSource) (dst : Bytes) :
    Nat × Bytes × FileByteSource :=
  let (bytes, file) := source.file.read dst.length
  (file.gcount, bytes ++ dst.drop bytes.length, ⟨file⟩)

/-- Bytes of the file not delivered yet. -/
def rest (source : FileByteSource) : Bytes := source.file.rest

/-- How many bytes a read of a given size delivers. -/
def count (source : FileByteSource) (size : Nat) : Nat :=
  (source.file.read size).2.gcount

/-- The source after a read of a given size. -/
def after (source : FileByteSource) (size : Nat) : FileByteSource :=
  ⟨(source.file.read size).2⟩

/-- A buffer after a read into it. -/
def filled (source : FileByteSource) (dst : Bytes) : Bytes :=
  (source.read dst).2.1

@[simp] theorem rest_onFile (contents : Bytes) (script : Nat → ReadOutcome) :
    (onFile contents script).rest = contents := rfl

variable {source : FileByteSource}

theorem count_le_size (source : FileByteSource) (size : Nat) :
    source.count size ≤ size :=
  (source.file.read_eq size).2.1

theorem count_le_rest (source : FileByteSource) (size : Nat) :
    source.count size ≤ source.rest.length :=
  (source.file.read_eq size).2.2.1

@[simp] theorem count_zero (source : FileByteSource) : source.count 0 = 0 :=
  Nat.le_zero.mp (source.count_le_size 0)

theorem read_eq (source : FileByteSource) (dst : Bytes) :
    source.read dst =
      (source.count dst.length, source.filled dst, source.after dst.length) := by
  simp only [filled, read, count, after]

theorem take_filled (source : FileByteSource) (dst : Bytes) :
    (source.filled dst).take (source.count dst.length) =
      source.rest.take (source.count dst.length) := by
  obtain ⟨_, _, _, front, covered, _⟩ := source.file.read_eq dst.length
  exact (List.take_append_of_le_length covered).trans front

@[simp] theorem length_filled (source : FileByteSource) (dst : Bytes) :
    (source.filled dst).length = dst.length := by
  have fits : (source.file.read dst.length).1.length ≤ dst.length :=
    (source.file.read_eq dst.length).2.2.2.2.2
  simp only [filled, read, List.length_append, List.length_drop]
  omega

/-- While no read fails, the buffer is left alone behind what was delivered. -/
theorem drop_filled {dst : Bytes}
    (clean : (source.after dst.length).file.badbit = false) :
    (source.filled dst).drop (source.count dst.length) =
      dst.drop (source.count dst.length) := by
  have length := List.length_take_of_le (source.count_le_rest dst.length)
  simp only [count, rest] at length
  simp only [filled, read, count, IfStream.read_clean clean, length]
  exact List.drop_left' length

theorem rest_after (source : FileByteSource) (size : Nat) :
    (source.after size).rest = source.rest.drop (source.count size) :=
  (source.file.read_eq size).1

theorem count_after_of_zero {size : Nat} (spent : source.count size = 0) :
    (source.after size).count size = 0 :=
  IfStream.read_spent spent

/-! ## Sources without device errors -/

/-- No read still to come fails, and the source is not yet at its end bit while
bytes are left. -/
structure Faultless (source : FileByteSource) : Prop where
  script : ∀ call, ∃ count, source.file.script call = .bytes count
  ended : source.file.good = false → source.rest = []

theorem faultless_onFile (contents : Bytes) (schedule : Nat → Nat) :
    (onFile contents (shortReads schedule)).Faultless where
  script call := ⟨schedule call, rfl⟩
  ended := by simp [onFile, IfStream.good]

/-- While bytes are left, a read of at least one byte delivers at least one. -/
theorem Faultless.count_pos (faultless : source.Faultless) {size : Nat}
    (sizePos : 0 < size) (left : source.rest ≠ []) : 0 < source.count size := by
  have good : source.file.good = true := by
    cases state : source.file.good with
    | true => rfl
    | false => exact (left (faultless.ended state)).elim
  obtain ⟨count, outcome⟩ := faultless.script source.file.calls
  have lengthPos : 0 < source.file.rest.length := List.length_pos_iff.mpr left
  simp only [FileByteSource.count, IfStream.read, good, outcome, if_true]
  omega

theorem Faultless.after (faultless : source.Faultless) (size : Nat) :
    (source.after size).Faultless where
  script call := by
    obtain ⟨count, outcome⟩ := faultless.script call
    refine ⟨count, ?_⟩
    rw [← outcome, FileByteSource.after, IfStream.read]
    split
    · split <;> rfl
    · rfl
  ended := by
    obtain ⟨count, outcome⟩ := faultless.script source.file.calls
    intro notGood
    rw [rest_after]
    by_cases good : source.file.good = true
    · simp only [FileByteSource.after, FileByteSource.count, IfStream.read, good,
        outcome, if_true] at notGood ⊢
      -- The state bits other than the end ones are those of a good stream.
      have cleared : source.file.badbit = false := by
        simp only [IfStream.good] at good
        cases bad : source.file.badbit <;> simp_all
      simp only [IfStream.good, cleared, Bool.or_false, Bool.or_self,
        Bool.not_eq_false', decide_eq_true_eq] at notGood
      exact List.drop_eq_nil_of_le (Nat.le_of_eq notGood.2.symm)
    · rw [faultless.ended (by simpa using good), List.drop_nil]

/-! ## What a source will still deliver -/

/-- Everything that reads of one size deliver before the first that delivers
nothing. -/
def supply (source : FileByteSource) (size : Nat) : Bytes :=
  if _spent : source.count size = 0 then []
  else source.rest.take (source.count size) ++ (source.after size).supply size
termination_by source.rest.length
decreasing_by
  have le := source.count_le_rest size
  rw [rest_after, List.length_drop]
  omega

theorem supply_of_zero {size : Nat} (spent : source.count size = 0) :
    source.supply size = [] := by
  rw [supply, dif_pos spent]

theorem supply_of_pos {size : Nat} (delivers : source.count size ≠ 0) :
    source.supply size =
      source.rest.take (source.count size) ++
        (source.after size).supply size := by
  rw [supply, dif_neg delivers]

theorem supply_after_of_zero {size : Nat} (spent : source.count size = 0) :
    (source.after size).supply size = [] :=
  supply_of_zero (count_after_of_zero spent)

@[simp] theorem supply_size_zero (source : FileByteSource) :
    source.supply 0 = [] :=
  supply_of_zero source.count_zero

/-- What is supplied comes off the front of what is left. -/
theorem supply_prefix (source : FileByteSource) (size : Nat) :
    source.supply size <+: source.rest := by
  induction lengthEq : source.rest.length using Nat.strongRecOn
    generalizing source with
  | _ remaining ih =>
      by_cases spent : source.count size = 0
      · rw [supply_of_zero spent]
        exact List.nil_prefix
      · have le := source.count_le_rest size
        have fewer : (source.after size).rest.length < remaining := by
          rw [rest_after, List.length_drop]
          omega
        have later := ih _ fewer (source.after size) rfl
        rw [rest_after] at later
        rw [supply_of_pos spent]
        conv_rhs => rw [← List.take_append_drop (source.count size) source.rest]
        exact (List.prefix_append_right_inj _).mpr later

/-- Without device errors everything that is left is supplied. -/
theorem Faultless.supply_eq (faultless : source.Faultless) {size : Nat}
    (sizePos : 0 < size) : source.supply size = source.rest := by
  induction lengthEq : source.rest.length using Nat.strongRecOn
    generalizing source with
  | _ remaining ih =>
      by_cases spent : source.count size = 0
      · rw [supply_of_zero spent]
        by_contra missing
        have delivers := faultless.count_pos sizePos (Ne.symm missing)
        omega
      · have le := source.count_le_rest size
        have fewer : (source.after size).rest.length < remaining := by
          rw [rest_after, List.length_drop]
          omega
        rw [supply_of_pos spent, ih _ fewer (faultless.after size) rfl,
          rest_after, List.take_append_drop]

/-- The bytes of the file that reads of one size never reach. -/
def lost (source : FileByteSource) (size : Nat) : Bytes :=
  source.rest.drop (source.supply size).length

theorem supply_append_lost (source : FileByteSource) (size : Nat) :
    source.supply size ++ source.lost size = source.rest := by
  obtain ⟨behind, whole⟩ := source.supply_prefix size
  rw [lost, ← whole, List.drop_left]

theorem lost_after (source : FileByteSource) (size : Nat) :
    (source.after size).lost size = source.lost size := by
  by_cases spent : source.count size = 0
  · rw [lost, lost, supply_after_of_zero spent, supply_of_zero spent,
      rest_after, spent, List.drop_zero]
  · rw [lost, lost, supply_of_pos spent, rest_after, List.drop_drop,
      List.length_append, List.length_take_of_le (source.count_le_rest size)]

theorem Faultless.lost_eq (faultless : source.Faultless) {size : Nat}
    (sizePos : 0 < size) : source.lost size = [] := by
  rw [lost, faultless.supply_eq sizePos, List.drop_length]

end FileByteSource

end TradingSim
