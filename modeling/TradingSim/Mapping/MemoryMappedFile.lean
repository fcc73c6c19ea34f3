import TradingSim.Mapping.Os

/-!
# The mapped file

`MemoryMappedFile` owns one whole-file mapping, or nothing.  The two platforms
open and map a file through different calls, close their handles at different
points and release a mapping differently; moving and destroying are the same.
An exception carries the state of the system at the throw, which the constructor
leaves behind.
-/

namespace TradingSim

open Foundation

inductive Platform where
  | posix
  | windows
  deriving DecidableEq, Repr

/-- `data` is `none` where the source has the null pointer. -/
structure MemoryMappedFile where
  data : Option Address := none
  size : Nat := 0
  deriving DecidableEq, Repr

/-- Why the constructor throws. -/
inductive MapError where
  | cannotOpen
  | cannotStat
  | cannotMmap
  | cannotSize
  | cannotMap
  | cannotView
  deriving DecidableEq, Repr

/-- The text of the exception. -/
def MapError.what (path : String) : MapError → String
  | .cannotOpen => "MemoryMappedFile: cannot open " ++ path
  | .cannotStat => "MemoryMappedFile: cannot stat " ++ path
  | .cannotMmap => "MemoryMappedFile: cannot mmap " ++ path
  | .cannotSize => "MemoryMappedFile: cannot size " ++ path
  | .cannotMap => "MemoryMappedFile: cannot map " ++ path
  | .cannotView => "MemoryMappedFile: cannot view " ++ path

namespace MemoryMappedFile

/-- Computations that may throw in some state of the system. -/
abbrev Mapped : Type → Type := Checked (MapError × Os)

def throw {α : Type} (error : MapError) (os : Os) : Mapped α :=
  .error (.thrown (error, os))

/-- The POSIX constructor. -/
def constructPosix (answers : Answers) (os : Os) :
    Mapped (MemoryMappedFile × Os) :=
  match os.openFile answers.file with
  | (none, os) => throw .cannotOpen os
  | (some fd, os) => do
      match ← os.fileSize fd answers.size with
      | none => do
          let os ← os.close fd
          throw .cannotStat os
      | some size =>
          if size = 0 then do
            let os ← os.close fd
            .ok ({}, os)
          else do
            let (addr, os) ← os.map fd size answers.view
            -- The mapping holds its own reference to the file.
            let os ← os.close fd
            match addr with
            | none => throw .cannotMmap os
            | some addr => .ok ({ data := some addr, size }, os)

/-- The Windows constructor. -/
def constructWindows (answers : Answers) (os : Os) :
    Mapped (MemoryMappedFile × Os) :=
  match os.openFile answers.file with
  | (none, os) => throw .cannotOpen os
  | (some file, os) => do
      match ← os.fileSize file answers.size with
      | none => do
          let os ← os.close file
          throw .cannotSize os
      | some size =>
          if size = 0 then do
            let os ← os.close file
            .ok ({}, os)
          else do
            let (mapping, os) ← os.createFileMapping file answers.mapping
            match mapping with
            | none => do
                let os ← os.close file
                throw .cannotMap os
            | some mapping => do
                let (view, os) ← os.map mapping size answers.view
                let os ← os.close mapping
                let os ← os.close file
                match view with
                | none => throw .cannotView os
                | some view => .ok ({ data := some view, size }, os)

/-- The constructor. -/
def construct : Platform → Answers → Os → Mapped (MemoryMappedFile × Os)
  | .posix => constructPosix
  | .windows => constructWindows

/-- Unmap, if mapped, and reset to the empty state.  Nothing is thrown. -/
def release {ε : Type} (platform : Platform) (file : MemoryMappedFile)
    (os : Os) : Checked ε (MemoryMappedFile × Os) :=
  match file.data with
  | some data => do
      let os ← match platform with
        | .posix => os.munmap data file.size
        | .windows => os.unmapViewOfFile data
      .ok ({}, os)
  | none => .ok (file, os)

/-- The move constructor: the new object, and the emptied source. -/
def moveConstruct (other : MemoryMappedFile) :
    MemoryMappedFile × MemoryMappedFile :=
  ({ data := other.data, size := other.size }, { data := none, size := 0 })

/-- Move assignment from another object: the target, the emptied source, and the
system.  The target gives up what it holds before it takes the source's. -/
def moveAssign {ε : Type} (platform : Platform) (this other : MemoryMappedFile)
    (os : Os) : Checked ε (MemoryMappedFile × MemoryMappedFile × Os) := do
  let (_, os) ← this.release platform os
  .ok ({ data := other.data, size := other.size },
    { data := none, size := 0 }, os)

/-! ## What the operations do to the system -/

/-- The mapping an object owns. -/
def region (file : MemoryMappedFile) : Option (Address × Nat) :=
  file.data.map fun address => (address, file.size)

@[simp] theorem region_empty : ({} : MemoryMappedFile).region = none := rfl

/-- Null pointers and empty sizes go together. -/
def Coherent (file : MemoryMappedFile) : Prop :=
  file.data = none ↔ file.size = 0

/-- How a constructor ends: it throws and leaves the system as it was, or
represents an empty file without touching it, or owns one mapping more. -/
inductive Constructed (answers : Answers) (os : Os) :
    Mapped (MemoryMappedFile × Os) → Prop where
  | threw (error : MapError) : Constructed answers os (throw error os)
  | empty : Constructed answers os (.ok ({}, os))
  | owns (address : Address) (size : Nat)
      (answered : answers.view = some address) (nonempty : size ≠ 0) :
      Constructed answers os
        (.ok ({ data := some address, size }, os.mapped address size))

theorem constructed_posix (answers : Answers) (os : Os) :
    Constructed answers os (constructPosix answers os) := by
  obtain ⟨file, size, mapping, view⟩ := answers
  cases file with
  | none => exact .threw .cannotOpen
  | some fd =>
      simp only [constructPosix, Os.openFile, Os.acquire_some, Os.fileSize,
        Os.useHandle_cons, Checked.ok_bind]
      cases size with
      | none =>
          simp only [Os.close_cons, Checked.ok_bind]
          exact .threw .cannotStat
      | some size =>
          dsimp only
          split
          next =>
            rw [Os.close_cons]
            exact .empty
          next nonempty =>
            cases view with
            | none =>
                simp only [Os.map, Os.useHandle_cons, Os.close_cons,
                  Checked.ok_bind]
                exact .threw .cannotMmap
            | some address =>
                simp only [Os.map, Os.useHandle_cons, Os.close_cons,
                  Checked.ok_bind]
                exact .owns address size rfl nonempty

theorem constructed_windows (answers : Answers) (os : Os) :
    Constructed answers os (constructWindows answers os) := by
  obtain ⟨file, size, mapping, view⟩ := answers
  cases file with
  | none => exact .threw .cannotOpen
  | some file =>
      simp only [constructWindows, Os.openFile, Os.acquire_some, Os.fileSize,
        Os.useHandle_cons, Checked.ok_bind]
      cases size with
      | none =>
          simp only [Os.close_cons, Checked.ok_bind]
          exact .threw .cannotSize
      | some size =>
          dsimp only
          split
          next =>
            rw [Os.close_cons]
            exact .empty
          next nonempty =>
            cases mapping with
            | none =>
                simp only [Os.createFileMapping, Os.useHandle_cons,
                  Os.acquire_none, Os.close_cons, Checked.ok_bind]
                exact .threw .cannotMap
            | some mapping =>
                simp only [Os.createFileMapping, Os.useHandle_cons,
                  Os.acquire_some, Checked.ok_bind]
                cases view with
                | none =>
                    simp only [Os.map, Os.useHandle_cons, Os.close_cons,
                      Checked.ok_bind]
                    exact .threw .cannotView
                | some address =>
                    simp only [Os.map, Os.useHandle_cons, Os.close_cons,
                      Checked.ok_bind]
                    exact .owns address size rfl nonempty

/-- Every exit of the constructor leaves the handles as it found them. -/
theorem constructed (platform : Platform) (answers : Answers) (os : Os) :
    Constructed answers os (construct platform answers os) := by
  cases platform with
  | posix => exact constructed_posix answers os
  | windows => exact constructed_windows answers os

/-- Releasing an object whose mapping is live takes down that mapping. -/
theorem release_of_owner (platform : Platform) {file : MemoryMappedFile}
    {os : Os} {address : Address} (owns : file.data = some address)
    (live : os.mappings address = some file.size) :
    (file.release platform os : Checked ε _) =
      .ok ({}, os.unmapped address) := by
  rw [release, owns]
  cases platform with
  | posix =>
      dsimp only
      rw [Os.munmap_of_live live]
      rfl
  | windows =>
      dsimp only
      rw [Os.unmapViewOfFile_of_live live]
      rfl

theorem release_of_empty (platform : Platform) {file : MemoryMappedFile}
    (empty : file.data = none) (os : Os) :
    (file.release platform os : Checked ε _) = .ok (file, os) := by
  rw [release, empty]

end MemoryMappedFile

end TradingSim
