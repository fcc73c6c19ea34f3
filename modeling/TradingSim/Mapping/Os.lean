import Mathlib.Data.Set.Insert
import Mathlib.Logic.Function.Basic
import TradingSim.Foundation.Checked

/-!
# The operating system under a mapping

As far as a mapped file is concerned, the system is its live mappings and its
open handles.  Whether a call succeeds, and with which handle, size or address,
is the system's answer; using a handle that is not open, or taking down a mapping
that is not there, is a fault of the caller.
-/

namespace TradingSim

open Foundation

/-- A file descriptor, or a file or mapping handle. -/
abbrev Handle := Nat

/-- An address other than the null pointer. -/
abbrev Address := Nat

structure Os where
  /-- The size of the live mapping at an address, if there is one. -/
  mappings : Address → Option Nat := fun _ => none
  handles : List Handle := []

/-- How the system answers the calls of one constructor; `none` is an error. -/
structure Answers where
  /-- `open`, `CreateFileW`. -/
  file : Option Handle
  /-- `fstat`, `GetFileSizeEx`. -/
  size : Option Nat
  /-- `CreateFileMappingW`. -/
  mapping : Option Handle
  /-- `mmap`, `MapViewOfFile`. -/
  view : Option Address
  deriving DecidableEq, Repr

namespace Os

variable {ε : Type}

/-- A call that hands out a handle. -/
def acquire (os : Os) (answer : Option Handle) : Option Handle × Os :=
  match answer with
  | some handle => (some handle, { os with handles := handle :: os.handles })
  | none => (none, os)

/-- A call that needs an open handle. -/
def useHandle (os : Os) (handle : Handle) : Checked ε Unit :=
  if handle ∈ os.handles then .ok () else .error (.fault .handle)

/-- `open`, `CreateFileW`. -/
def openFile (os : Os) (answer : Option Handle) : Option Handle × Os :=
  os.acquire answer

/-- `fstat`, `GetFileSizeEx`. -/
def fileSize (os : Os) (file : Handle) (answer : Option Nat) :
    Checked ε (Option Nat) := do
  os.useHandle file
  .ok answer

/-- `CreateFileMappingW`. -/
def createFileMapping (os : Os) (file : Handle) (answer : Option Handle) :
    Checked ε (Option Handle × Os) := do
  os.useHandle file
  .ok (os.acquire answer)

/-- `mmap`, `MapViewOfFile`: the system maps `size` bytes at an address. -/
def map (os : Os) (handle : Handle) (size : Nat) (answer : Option Address) :
    Checked ε (Option Address × Os) := do
  os.useHandle handle
  match answer with
  | some address =>
      .ok (some address,
        { os with mappings := Function.update os.mappings address (some size) })
  | none => .ok (none, os)

/-- `close`, `CloseHandle`. -/
def close (os : Os) (handle : Handle) : Checked ε Os := do
  os.useHandle handle
  .ok { os with handles := os.handles.erase handle }

/-- `munmap`, which is told the size of the mapping. -/
def munmap (os : Os) (address : Address) (size : Nat) : Checked ε Os :=
  if os.mappings address = some size then
    .ok { os with mappings := Function.update os.mappings address none }
  else .error (.fault .mapping)

/-- `UnmapViewOfFile`, which is not. -/
def unmapViewOfFile (os : Os) (address : Address) : Checked ε Os :=
  if (os.mappings address).isSome then
    .ok { os with mappings := Function.update os.mappings address none }
  else .error (.fault .mapping)

variable {os : Os} {handle : Handle} {address : Address} {size : Nat}

@[simp] theorem useHandle_cons (mappings : Address → Option Nat)
    (handle : Handle) (handles : List Handle) :
    (useHandle ⟨mappings, handle :: handles⟩ handle : Checked ε Unit) =
      .ok () :=
  if_pos List.mem_cons_self

@[simp] theorem close_cons (mappings : Address → Option Nat) (handle : Handle)
    (handles : List Handle) :
    (close ⟨mappings, handle :: handles⟩ handle : Checked ε Os) =
      .ok ⟨mappings, handles⟩ := by
  rw [close, useHandle_cons, Checked.ok_bind, List.erase_cons_head]

@[simp] theorem acquire_none (os : Os) : os.acquire none = (none, os) := rfl

@[simp] theorem acquire_some (os : Os) (handle : Handle) :
    os.acquire (some handle) =
      (some handle, { os with handles := handle :: os.handles }) := rfl

theorem munmap_of_live (live : os.mappings address = some size) :
    (os.munmap address size : Checked ε Os) =
      .ok { os with mappings := Function.update os.mappings address none } :=
  if_pos live

theorem unmapViewOfFile_of_live (live : os.mappings address = some size) :
    (os.unmapViewOfFile address : Checked ε Os) =
      .ok { os with mappings := Function.update os.mappings address none } :=
  if_pos (by rw [live]; rfl)

end Os

/-- The live mappings, as address and size. -/
def Os.live (os : Os) : Set (Address × Nat) :=
  { mapping | os.mappings mapping.1 = some mapping.2 }

/-- The system with one more mapping. -/
def Os.mapped (os : Os) (address : Address) (size : Nat) : Os :=
  { os with mappings := Function.update os.mappings address (some size) }

/-- The system with one mapping less. -/
def Os.unmapped (os : Os) (address : Address) : Os :=
  { os with mappings := Function.update os.mappings address none }

theorem Os.notMem_live {os : Os} {address : Address}
    (free : os.mappings address = none) (size : Nat) :
    (address, size) ∉ os.live := by
  simp [live, free]

theorem Os.live_mapped {os : Os} {address : Address}
    (fresh : os.mappings address = none) (size : Nat) :
    (os.mapped address size).live = insert (address, size) os.live := by
  ext ⟨other, length⟩
  by_cases same : other = address
  · subst other
    simp [live, mapped, fresh, eq_comm]
  · simp [live, mapped, same]

theorem Os.live_unmapped {os : Os} {address : Address} {size : Nat}
    (mapped : os.mappings address = some size) :
    (os.unmapped address).live = os.live \ {(address, size)} := by
  ext ⟨other, length⟩
  by_cases same : other = address
  · subst other
    simp [live, unmapped, mapped, eq_comm]
  · simp [live, unmapped, same]

/-- An address handed out for a new mapping has no live mapping yet. -/
def Answers.Fresh (answers : Answers) (os : Os) : Prop :=
  ∀ address, answers.view = some address → os.mappings address = none

end TradingSim
