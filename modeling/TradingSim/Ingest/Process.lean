import Mathlib.Data.Option.Basic
import TradingSim.Foundation.Region
import TradingSim.Foundation.Service
import TradingSim.Ingest.Moving
import TradingSim.Mapping.Lifetime
import TradingSim.Mapping.Outcome

/-!
# A process with mapped readers

Any number of mapped readers come and go in one process.  They are put over files,
pulled from, moved, assigned and destroyed in any order, and between these requests
the rest of the process writes to memory as it likes, outside the mappings.  The
process keeps addresses and members; what it stands for keeps, under each name, a
reader over its whole file or nothing.  Every permitted request is answered as if
there were only the latter.
-/

namespace TradingSim

open Foundation

namespace MmapDbnReader

namespace Object

/-- An object over a mapping, with the remaining members of a reader. -/
def ofReader (map : MemoryMappedFile) (reader : MmapDbnReader) : Object where
  map := map
  cursor := reader.cursor
  version := reader.version
  failed := reader.failed
  stats := reader.stats

/-- The implicit move assignment from another object: the target, what becomes of
the source, and the system. -/
def moveAssign {ε : Type} (platform : Platform) (this other : Object) (os : Os) :
    Checked ε (Object × Object × Os) := do
  let (map, emptied, os) ← this.map.moveAssign platform other.map os
  .ok ({ map, cursor := other.cursor, version := other.version,
         failed := other.failed, stats := other.stats },
    { map := emptied, cursor := other.cursor, version := other.version,
      failed := other.failed, stats := other.stats }, os)

end Object

end MmapDbnReader

/-- `bytes()`, which has to find its mapping live. -/
def MemoryMappedFile.liveBytes {ε : Type} (os : Os) (memory : Memory)
    (file : MemoryMappedFile) : Checked ε Bytes :=
  match file.data with
  | some data =>
      if os.mappings data = some file.size then .ok (file.bytes memory)
      else .error (.fault .mapping)
  | none => .ok []

/-- The system, its memory, and the mapped readers. -/
structure Process where
  os : Os := {}
  memory : Memory := fun _ => 0
  readers : ObjectId → Option MmapDbnReader.Object := fun _ => none

/-- What a process is asked to do. -/
inductive Request where
  /-- Construct a reader over a file, with the system's answers. -/
  | construct (target : ObjectId) (file : Bytes) (answers : Answers)
  | next (target : ObjectId)
  | moveConstruct (target source : ObjectId)
  | moveAssign (target source : ObjectId)
  | destroy (target : ObjectId)
  /-- Whatever else the process does to memory. -/
  | elsewhere (memory : Memory)

inductive Reply where
  /-- The file could not be mapped. -/
  | unmapped (error : MapError)
  /-- The file was mapped, and its prologue refused. -/
  | refused (error : PrologueError)
  | opened (version : UInt8)
  | pulled (observation : Observation)
  | done
  deriving DecidableEq, Repr

namespace Process

/-- Mapping a file makes its contents appear in memory. -/
def load (memory : Memory) (map : MemoryMappedFile) (file : Bytes) : Memory :=
  match map.data with
  | some address => Region.write memory address file
  | none => memory

/-- The constructor of `MmapDbnReader`. -/
def construct (platform : Platform) (width : Nat) (process : Process)
    (target : ObjectId) (file : Bytes) (answers : Answers) :
    Ingest (Reply × Process) :=
  match MemoryMappedFile.construct platform answers process.os with
  | .ok (map, os) =>
      let memory := load process.memory map file
      match MmapDbnReader.construct width (map.bytes memory) with
      | .ok reader =>
          .ok (.opened reader.version, {
            os := os
            memory := memory
            readers := Function.update process.readers target
              (some (.ofReader map reader)) })
      -- The members that were built are destroyed before the exception leaves.
      | .error (.thrown error) => do
          let (_, os) ← map.release platform os
          .ok (.refused error, { process with os, memory })
      | .error (.fault kind) => .error (.fault kind)
      | .error .outOfFuel => .error .outOfFuel
  | .error (.thrown (error, os)) => .ok (.unmapped error, { process with os })
  | .error (.fault kind) => .error (.fault kind)
  | .error .outOfFuel => .error .outOfFuel

/-- Call `next` on a reader. -/
def next (process : Process) (target : ObjectId)
    (object : MmapDbnReader.Object) : Ingest (Reply × Process) := do
  let _ ← object.map.liveBytes process.os process.memory
  let (event, reader) ← (object.view process.memory).next
  .ok (.pulled ⟨event, reader.failed, reader.stats⟩, { process with
    readers := Function.update process.readers target
      (some (.ofReader object.map reader)) })

/-- Answer one request.  A request about an object that does not live is not one a
program can make, and does nothing. -/
def answer (platform : Platform) (width : Nat) :
    Service PrologueError Process Request Reply := fun process request =>
  match request with
  | .construct target file answers =>
      process.construct platform width target file answers
  | .next target =>
      match process.readers target with
      | some object => process.next target object
      | none => .ok (.done, process)
  | .moveConstruct target source =>
      match process.readers source with
      | some other =>
          let (this, other) := other.moveConstruct
          .ok (.done, { process with
            readers := Function.update
              (Function.update process.readers target (some this)) source
              (some other) })
      | none => .ok (.done, process)
  | .moveAssign target source =>
      if target = source then .ok (.done, process)
      else
        match process.readers target, process.readers source with
        | some this, some other => do
            let (this, other, os) ← this.moveAssign platform other process.os
            .ok (.done, { process with
              os
              readers := Function.update
                (Function.update process.readers target (some this)) source
                (some other) })
        | _, _ => .ok (.done, process)
  | .destroy target =>
      match process.readers target with
      | some this => do
          let (_, os) ← this.map.release platform process.os
          .ok (.done, { process with
            os, readers := Function.update process.readers target none })
      | none => .ok (.done, process)
  | .elsewhere memory => .ok (.done, { process with memory })

/-- The rules of object lifetime, and what the system and the rest of the process
keep to: a `size_t` can hold the size of a file, a new mapping is as long as its
file and apart from the live ones, nobody writes to a mapping, and `next` is not
called on an object that was moved from. -/
def Permits (width : Nat) (process : Process) : Request → Prop
  | .construct target file answers =>
      process.readers target = none ∧ answers.Fresh process.os ∧
      file.length < 2 ^ width ∧
      (∀ size, answers.size = some size → size = file.length) ∧
      ∀ address other length, answers.view = some address →
        process.os.mappings other = some length →
          Region.Apart address file.length other length
  | .next target =>
      ∃ object, process.readers target = some object ∧ object.map.data.isSome
  | .moveConstruct target source =>
      process.readers target = none ∧ (process.readers source).isSome
  | .moveAssign target source =>
      (process.readers target).isSome ∧ (process.readers source).isSome
  | .destroy target => (process.readers target).isSome
  | .elsewhere memory => ∀ address size,
      process.os.mappings address = some size →
        Region.read memory address size =
          Region.read process.memory address size

end Process

end TradingSim
