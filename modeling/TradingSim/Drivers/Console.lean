import TradingSim.Ingest.Process

/-!
# Programs on a console

The two programs of the repository take a path, open readers over the file behind
it and print what they find.  What they meet is a disk, which may hold a file under
a path, delivers it in its own portions and maps it where it likes, and an allocator
that may refuse a buffer; what they leave is text on two streams and an exit code.
-/

namespace TradingSim

open Foundation

/-- What a program leaves behind. -/
structure Exit where
  stdout : String := ""
  stderr : String := ""
  code : Nat
  deriving DecidableEq, Repr

/-- What a program finds when it opens files and asks for memory. -/
structure Disk where
  platform : Platform := .posix
  contents : String → Option Bytes
  /-- How the reads of each stream come out, in the order of their opening. -/
  reads : Nat → Nat → ReadOutcome
  /-- How the system answers each constructor of a mapped file. -/
  answers : Nat → Answers
  /-- What lies in memory before anything is mapped. -/
  memory : Memory := fun _ => 0
  /-- Whether a buffer of a size is refused, and with which words. -/
  refusal : Nat → Option String := fun _ => none
  /-- The default scratch buffer can be had, and smaller ones can. -/
  granted : ∀ size, size ≤ DbnReader.defaultChunkSize → refusal size = none

/-- What the programs catch as `std::exception`. -/
inductive RuntimeError where
  /-- A file stream that does not open, and who says so. -/
  | cannotOpen (who : String)
  | unmapped (error : MapError)
  /-- A vector that is too long or cannot be allocated, in the library's words. -/
  | noBuffer (what : String)
  /-- A prologue, and the reader that refuses it. -/
  | refused (reader : String) (error : PrologueError)
  /-- `record_start` of the benchmark. -/
  | badMagic
  deriving DecidableEq, Repr

/-- The text of the exception. -/
def RuntimeError.what (path : String) : RuntimeError → String
  | .cannotOpen who => who ++ ": cannot open " ++ path
  | .unmapped error => error.what path
  | .noBuffer what => what
  | .refused reader error => error.what reader
  | .badMagic => "bench_dbn: not a DBN stream (bad magic)"

/-- `std::vector<std::byte>(size)`. -/
def Disk.buffer (disk : Disk) (size : Nat) : Checked RuntimeError Bytes :=
  match disk.refusal size with
  | none => .ok (List.replicate size 0)
  | some what => .error (.thrown (.noBuffer what))

/-- The constructor of `FileByteSource`, for the stream opened as number
`opening`. -/
def FileByteSource.openPath (disk : Disk) (opening : Nat) (path : String) :
    Checked RuntimeError FileByteSource :=
  match disk.contents path with
  | some contents => .ok (.onFile contents (disk.reads opening))
  | none => .error (.thrown (.cannotOpen "FileByteSource"))

/-- The constructor of `DbnReader`, which opens its source before it asks for its
scratch buffer. -/
def DbnReader.openPath (fuel : Nat) (disk : Disk) (opening : Nat) (path : String)
    (chunkSize : Nat := DbnReader.defaultChunkSize) :
    Checked RuntimeError DbnReader := do
  let source ← FileByteSource.openPath disk opening path
  let _ ← disk.buffer chunkSize
  (DbnReader.construct fuel source chunkSize).mapThrown (.refused "DbnReader")

/-- The constructor of `MmapDbnReader`, for the file mapped as number `mapping`: the
reader is constructed over what `bytes()` then reads through the mapping. -/
def MmapDbnReader.openPath (disk : Disk) (mapping : Nat) (path : String) :
    Checked RuntimeError MmapDbnReader :=
  match disk.contents path with
  | some contents =>
      match MemoryMappedFile.construct disk.platform (disk.answers mapping) {} with
      | .ok (map, os) => do
          let bytes ← map.liveBytes os (Process.load disk.memory map contents)
          (MmapDbnReader.construct 64 bytes).mapThrown (.refused "MmapDbnReader")
      | .error (.thrown (error, _)) => .error (.thrown (.unmapped error))
      | .error (.fault kind) => .error (.fault kind)
      | .error .outOfFuel => .error .outOfFuel
  | none => .error (.thrown (.unmapped .cannotOpen))

/-- A file under a path, none of whose reads fails, which fits into memory and can
be mapped for what it is. -/
structure Disk.Reliable (disk : Disk) (path : String) (contents : Bytes) :
    Prop where
  found : disk.contents path = some contents
  reads : ∀ opening, ∃ schedule, disk.reads opening = shortReads schedule
  fits : disk.refusal contents.length = none
  sized : ∀ mapping, (disk.answers mapping).size = some contents.length
  maps : ∀ mapping error,
    (disk.answers mapping).outcome disk.platform ≠ .refused error

variable {disk : Disk} {path : String} {contents : Bytes}

theorem Disk.buffer_granted {size : Nat} (granted : disk.refusal size = none) :
    disk.buffer size = .ok (List.replicate size 0) := by
  rw [buffer, granted]

theorem DbnReader.openPath_eq (found : disk.contents path = some contents)
    {chunkSize : Nat} (granted : disk.refusal chunkSize = none)
    (fuel opening : Nat) :
    DbnReader.openPath fuel disk opening path chunkSize =
      (DbnReader.construct fuel (.onFile contents (disk.reads opening))
        chunkSize).mapThrown (.refused "DbnReader") := by
  rw [DbnReader.openPath, FileByteSource.openPath, found, Checked.ok_bind,
    Disk.buffer_granted granted, Checked.ok_bind]

theorem DbnReader.openPath_refused (found : disk.contents path = some contents)
    {chunkSize : Nat} {what : String}
    (refused : disk.refusal chunkSize = some what) (fuel opening : Nat) :
    DbnReader.openPath fuel disk opening path chunkSize =
      .error (.thrown (.noBuffer what)) := by
  rw [DbnReader.openPath, FileByteSource.openPath, found, Checked.ok_bind,
    Disk.buffer, refused]
  rfl

/-- Over a file that is mapped for what it is, the constructor reads the file. -/
theorem MmapDbnReader.openPath_eq (reliable : disk.Reliable path contents)
    (mapping : Nat) :
    MmapDbnReader.openPath disk mapping path =
      (MmapDbnReader.construct 64 contents).mapThrown
        (.refused "MmapDbnReader") := by
  have sized := reliable.sized mapping
  rw [MmapDbnReader.openPath, reliable.found, MemoryMappedFile.construct_eq]
  cases outcome : (disk.answers mapping).outcome disk.platform with
  | refused error => exact (reliable.maps mapping error outcome).elim
  | empty =>
      rw [Answers.size_of_empty outcome, Option.some_inj] at sized
      obtain rfl := List.length_eq_zero_iff.mp sized.symm
      rfl
  | mapped address size =>
      obtain ⟨long, _, _⟩ := Answers.of_mapped outcome
      rw [long, Option.some_inj] at sized
      subst size
      have live : (Os.mapped {} address contents.length).mappings address =
          some contents.length := by
        simp [Os.mapped]
      have bytes : MemoryMappedFile.bytes
          (Region.write disk.memory address contents)
          { data := some address, size := contents.length } = contents :=
        Region.read_write disk.memory address contents
      simp only [Outcome.arrive, Process.load, MemoryMappedFile.liveBytes, live,
        if_true, bytes, Checked.ok_bind]

end TradingSim
