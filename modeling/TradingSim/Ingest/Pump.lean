import TradingSim.Ingest.Source

/-!
# Reads of any sizes

The readers ask a source for one size only, but its surface lets a caller ask for
another each time.  Whatever the sizes, the buffers and the device, the file comes
out in order and each byte of it once; a read that fails is the last to write
anything; and over a device that serves whole reads a short read is the last that
delivers anything.
-/

namespace TradingSim

namespace FileByteSource

/-- One read: the buffer it was given, how many bytes it delivered, whether the
stream had failed by then, and the buffer afterwards. -/
structure Delivery where
  dst : Bytes
  n : Nat
  bad : Bool
  filled : Bytes
  deriving DecidableEq, Repr

/-- What a read delivered. -/
def Delivery.bytes (delivery : Delivery) : Bytes :=
  delivery.filled.take delivery.n

/-- The bytes are at the front of the buffer, which keeps its size, and unless the
read failed the rest of it is as it was. -/
structure Delivery.Sound (delivery : Delivery) : Prop where
  fits : delivery.n ≤ delivery.dst.length
  size : delivery.filled.length = delivery.dst.length
  untouched : delivery.bad = false →
    delivery.filled.drop delivery.n = delivery.dst.drop delivery.n

/-- The read wrote nothing. -/
structure Delivery.Idle (delivery : Delivery) : Prop where
  nothing : delivery.n = 0
  same : delivery.filled = delivery.dst

/-- Read into one buffer after the other. -/
def readAll : List Bytes → FileByteSource → List Delivery × FileByteSource
  | [], source => ([], source)
  | dst :: rest, source =>
      let (n, filled, source) := source.read dst
      let (deliveries, last) := readAll rest source
      (⟨dst, n, source.file.badbit, filled⟩ :: deliveries, last)

/-- Reads are served whole, or fail. -/
structure Ordinary (source : FileByteSource) : Prop where
  script : ∀ call,
    (∃ count spill, source.file.script call = .ioError count spill) ∨
    ∃ count, source.file.script call = .bytes count ∧
      source.rest.length ≤ count

variable {source : FileByteSource}

/-- The delivery of a read. -/
def delivery (source : FileByteSource) (dst : Bytes) : Delivery where
  dst := dst
  n := source.count dst.length
  bad := (source.after dst.length).file.badbit
  filled := source.filled dst

theorem readAll_cons (source : FileByteSource) (dst : Bytes)
    (rest : List Bytes) :
    readAll (dst :: rest) source =
      (source.delivery dst :: (readAll rest (source.after dst.length)).1,
        (readAll rest (source.after dst.length)).2) := rfl

theorem bytes_delivery (source : FileByteSource) (dst : Bytes) :
    (source.delivery dst).bytes =
      source.rest.take (source.count dst.length) :=
  source.take_filled dst

theorem sound_delivery (source : FileByteSource) (dst : Bytes) :
    (source.delivery dst).Sound where
  fits := source.count_le_size dst.length
  size := source.length_filled dst
  untouched := drop_filled

/-! ## A stream that has ended -/

theorem ended_after (ended : source.file.good = false) (size : Nat) :
    source.count size = 0 ∧ (source.after size).file.good = false := by
  rw [count, after, IfStream.read_closed ended]
  exact ⟨rfl, by simp [IfStream.good]⟩

theorem idle_delivery (ended : source.file.good = false) (dst : Bytes) :
    (source.delivery dst).Idle where
  nothing := (ended_after ended dst.length).1
  same := by
    rw [delivery, filled, read, IfStream.read_closed ended]
    rfl

theorem readAll_ended (ended : source.file.good = false) (dsts : List Bytes) :
    ∀ delivery ∈ (readAll dsts source).1, delivery.Idle := by
  induction dsts generalizing source with
  | nil => simp [readAll]
  | cons dst rest ih =>
      rw [readAll_cons]
      intro delivery member
      rcases List.mem_cons.mp member with rfl | later
      · exact idle_delivery ended dst
      · exact ih (ended_after ended dst.length).2 delivery later

theorem Ordinary.after (ordinary : source.Ordinary) (size : Nat) :
    (source.after size).Ordinary where
  script call := by
    have same : (source.after size).file.script = source.file.script := by
      rw [FileByteSource.after, IfStream.read]
      split
      next => split <;> rfl
      next => rfl
    rw [same, rest_after, List.length_drop]
    rcases ordinary.script call with failed | ⟨count, served, whole⟩
    · exact .inl failed
    · exact .inr ⟨count, served, by omega⟩

/-- A read that comes up short has met the end of the file or a failure. -/
theorem Ordinary.ended_of_short (ordinary : source.Ordinary) {size : Nat}
    (short : source.count size < size) :
    (source.after size).file.good = false := by
  cases state : source.file.good with
  | false => exact (ended_after state size).2
  | true =>
      simp only [FileByteSource.count, FileByteSource.after, IfStream.read, state,
        if_true] at short ⊢
      rcases ordinary.script source.file.calls with
        ⟨count, spill, failed⟩ | ⟨count, served, whole⟩
      · simp [failed, IfStream.good]
      · rw [rest] at whole
        simp only [served] at short ⊢
        have taken : min (max 1 count) (min size source.file.rest.length) =
            source.file.rest.length := by omega
        simp only [taken] at short ⊢
        simp [IfStream.good, short]

/-! ## Any number of reads -/

/-- Whatever the sizes and the device, every buffer is filled at its front, and
what was delivered and what is left is the file. -/
theorem readAll_conserves (dsts : List Bytes) (source : FileByteSource) :
    (∀ delivery ∈ (readAll dsts source).1, delivery.Sound) ∧
      (readAll dsts source).1.map Delivery.dst = dsts ∧
      (readAll dsts source).1.flatMap Delivery.bytes ++
        (readAll dsts source).2.rest = source.rest := by
  induction dsts generalizing source with
  | nil => simp [readAll]
  | cons dst rest ih =>
      obtain ⟨sound, buffers, conserved⟩ := ih (source.after dst.length)
      rw [readAll_cons]
      refine ⟨?_, ?_, ?_⟩
      · intro delivery member
        rcases List.mem_cons.mp member with rfl | later
        · exact source.sound_delivery dst
        · exact sound delivery later
      · rw [List.map_cons, buffers]
        rfl
      · rw [List.flatMap_cons, List.append_assoc, conserved, bytes_delivery,
          rest_after, List.take_append_drop]

/-- After a read that fails no buffer is written to. -/
theorem pairwise_failed (source : FileByteSource) (dsts : List Bytes) :
    (readAll dsts source).1.Pairwise fun earlier later =>
      earlier.bad = true → later.Idle := by
  induction dsts generalizing source with
  | nil => exact .nil
  | cons dst rest ih =>
      rw [readAll_cons, List.pairwise_cons]
      refine ⟨?_, ih (source.after dst.length)⟩
      intro later member failed
      have failed : (source.after dst.length).file.badbit = true := failed
      have ended : (source.after dst.length).file.good = false := by
        simp [IfStream.good, failed]
      exact readAll_ended ended rest later member

/-- Over a device that serves whole reads, nothing is delivered after a short
read. -/
theorem Ordinary.pairwise (ordinary : source.Ordinary) (dsts : List Bytes) :
    (readAll dsts source).1.Pairwise fun earlier later =>
      earlier.n < earlier.dst.length → later.n = 0 := by
  induction dsts generalizing source with
  | nil => exact .nil
  | cons dst rest ih =>
      rw [readAll_cons, List.pairwise_cons]
      refine ⟨?_, ih (ordinary.after dst.length)⟩
      intro later member short
      have ended := ordinary.ended_of_short short
      exact (readAll_ended ended rest later member).nothing

/-- Without device errors the reads of a served file deliver as much as they ask
for and the file has. -/
theorem Ordinary.total (ordinary : source.Ordinary)
    (faultless : source.Faultless) (dsts : List Bytes) :
    ((readAll dsts source).1.flatMap Delivery.bytes).length =
      min dsts.flatten.length source.rest.length := by
  induction dsts generalizing source with
  | nil => simp [readAll]
  | cons dst rest ih =>
      have later := ih (ordinary.after dst.length) (faultless.after dst.length)
      have asked : source.count dst.length =
          min dst.length source.rest.length := by
        have fits := source.count_le_size dst.length
        have within := source.count_le_rest dst.length
        by_cases short : source.count dst.length < dst.length
        · have ended := ordinary.ended_of_short short
          have nothing := (faultless.after dst.length).ended ended
          rw [rest_after, List.drop_eq_nil_iff] at nothing
          omega
        · omega
      rw [rest_after, List.length_drop] at later
      rw [readAll_cons, List.flatMap_cons, List.length_append, later,
        bytes_delivery, List.length_take, List.flatten_cons, List.length_append,
        asked]
      omega

end FileByteSource

/-- What a source delivers over any device, into buffers of any sizes: the bytes
delivered are the file in order, each once, up to what is left, and stand at the
front of their buffers; the rest of a buffer is left alone unless its read fails,
and after a read that fails no buffer is written to.  Over a device that serves
whole reads until one fails, a read that comes up short is the last to deliver
anything; and if none fails, the reads deliver as much as they ask for and the file
has. -/
theorem FileByteSource.pumps (contents : Bytes) (script : Nat → ReadOutcome)
    (dsts : List Bytes) :
    let source := onFile contents script
    let deliveries := (readAll dsts source).1
    (∀ delivery ∈ deliveries, delivery.Sound) ∧
    deliveries.map Delivery.dst = dsts ∧
    deliveries.flatMap Delivery.bytes ++ (readAll dsts source).2.rest =
      contents ∧
    (deliveries.Pairwise fun earlier later =>
      earlier.bad = true → later.Idle) ∧
    (source.Ordinary →
      (deliveries.Pairwise fun earlier later =>
        earlier.n < earlier.dst.length → later.n = 0) ∧
      (source.Faultless → (deliveries.flatMap Delivery.bytes).length =
        min dsts.flatten.length contents.length)) := by
  intro source deliveries
  obtain ⟨sound, buffers, conserved⟩ := readAll_conserves dsts source
  refine ⟨sound, buffers, conserved, pairwise_failed source dsts, ?_⟩
  intro ordinary
  exact ⟨ordinary.pairwise dsts, fun faultless => ordinary.total faultless dsts⟩

/-- Five bytes in reads of three, three and one, of which the second fails and
leaves bytes that it does not report. -/
theorem FileByteSource.pumps_sample :
    let source := onFile [1, 2, 3, 4, 5] fun call =>
      if call = 1 then .ioError 0 [4, 5] else .bytes 5
    let dsts := [[0, 0, 0], [0, 0, 0], [0]]
    (readAll dsts source).1 = [
      ⟨[0, 0, 0], 3, false, [1, 2, 3]⟩,
      ⟨[0, 0, 0], 0, true, [4, 5, 0]⟩,
      ⟨[0], 0, true, [0]⟩] ∧
    (readAll dsts source).1.Pairwise fun earlier later =>
      earlier.n < earlier.dst.length → later.n = 0 := by
  intro source dsts
  have ordinary : source.Ordinary := by
    constructor
    intro call
    by_cases second : call = 1
    · exact .inl ⟨0, [4, 5], if_pos second⟩
    · exact .inr ⟨5, if_neg second, Nat.le_refl 5⟩
  obtain ⟨_, _, _, _, served⟩ := pumps [1, 2, 3, 4, 5] (fun call =>
    if call = 1 then .ioError 0 [4, 5] else .bytes 5) dsts
  exact ⟨by decide, (served ordinary).1⟩

end TradingSim
