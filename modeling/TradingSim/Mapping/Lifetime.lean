import TradingSim.Foundation.Ownership
import TradingSim.Mapping.MemoryMappedFile

/-!
# Lifetimes of mapped files

Any number of mapped files come and go: they are constructed, moved from and to,
assigned and destroyed, in any order the language allows and with any answers
from the system.  Throughout, live mappings are owned exclusively by live
objects, no handle stays open, and no operation misuses the system.
-/

namespace TradingSim

open Foundation

/-- Where an object lives. -/
abbrev ObjectId := Nat

/-- The system and the live objects. -/
structure Machine where
  os : Os := {}
  objects : ObjectId → Option MemoryMappedFile := fun _ => none

inductive Operation where
  | construct (target : ObjectId) (answers : Answers)
  | moveConstruct (target source : ObjectId)
  | moveAssign (target source : ObjectId)
  | destroy (target : ObjectId)
  deriving DecidableEq, Repr

namespace Machine

/-- The rules of object lifetime, and the freshness of a new mapping: objects are
constructed where none lives, and only live objects are used. -/
def Permits (machine : Machine) : Operation → Prop
  | .construct target answers =>
      machine.objects target = none ∧ answers.Fresh machine.os
  | .moveConstruct target source =>
      machine.objects target = none ∧ (machine.objects source).isSome
  | .moveAssign target source =>
      (machine.objects target).isSome ∧ (machine.objects source).isSome
  | .destroy target => (machine.objects target).isSome

/-- The machine with another system and an object put where it belongs. -/
def put (machine : Machine) (os : Os) (id : ObjectId)
    (object : Option MemoryMappedFile) : Machine where
  os := os
  objects := Function.update machine.objects id object

/-- Carry out one operation. -/
def apply (platform : Platform) (machine : Machine) :
    Operation → Checked Empty Machine
  | .construct target answers =>
      match MemoryMappedFile.construct platform answers machine.os with
      | .ok (file, os) => .ok (machine.put os target (some file))
      -- A constructor that throws leaves no object, whatever it did before.
      | .error (.thrown (_, os)) => .ok { machine with os }
      | .error (.fault kind) => .error (.fault kind)
      | .error .outOfFuel => .error .outOfFuel
  | .moveConstruct target source =>
      match machine.objects source with
      | some other =>
          let (this, other) := other.moveConstruct
          .ok ((machine.put machine.os target (some this)).put machine.os source
            (some other))
      | none => .ok machine
  | .moveAssign target source =>
      if target = source then .ok machine
      else
        match machine.objects target, machine.objects source with
        | some this, some other => do
            let (this, other, os) ← this.moveAssign platform other machine.os
            .ok ((machine.put os target (some this)).put os source (some other))
        | _, _ => .ok machine
  | .destroy target =>
      match machine.objects target with
      | some this => do
          let (_, os) ← this.release platform machine.os
          .ok (machine.put os target none)
      | none => .ok machine

/-- The states a run of permitted operations passes through. -/
inductive Reached (platform : Platform) : Machine → Prop where
  | start : Reached platform {}
  | step {machine next : Machine} {operation : Operation}
      (reached : Reached platform machine) (permitted : machine.Permits operation)
      (applied : machine.apply platform operation = .ok next) :
      Reached platform next

/-! ## The invariant -/

/-- The mapping an object owns. -/
def holds (machine : Machine) (id : ObjectId) : Option (Address × Nat) :=
  (machine.objects id).bind MemoryMappedFile.region

/-- Live mappings are owned exclusively, objects are coherent, and no handle is
open. -/
structure Consistent (machine : Machine) : Prop where
  exclusive : Exclusive machine.os.live machine.holds
  coherent : ∀ {id file}, machine.objects id = some file → file.Coherent
  handles : machine.os.handles = []

theorem consistent_start : Consistent {} where
  exclusive := by
    have nothing : Os.live {} = ∅ := by simp [Os.live]
    rw [nothing]
    exact .empty
  coherent := by simp
  handles := rfl

variable {machine : Machine}

@[simp] theorem holds_put (machine : Machine) (os : Os) (id : ObjectId)
    (object : Option MemoryMappedFile) :
    (machine.put os id object).holds =
      Function.update machine.holds id (object.bind MemoryMappedFile.region) := by
  funext other
  by_cases same : other = id
  · subst other
    simp [holds, put]
  · simp [holds, put, same]

theorem holds_of_owner {id : ObjectId} {file : MemoryMappedFile}
    {address : Address} (lives : machine.objects id = some file)
    (owns : file.data = some address) :
    machine.holds id = some (address, file.size) := by
  simp [holds, lives, MemoryMappedFile.region, owns]

theorem holds_of_empty {id : ObjectId} {file : MemoryMappedFile}
    (lives : machine.objects id = some file) (empty : file.data = none) :
    machine.holds id = none := by
  simp [holds, lives, MemoryMappedFile.region, empty]

theorem Consistent.coherent_put (consistent : Consistent machine) (os : Os)
    (target : ObjectId) {object : Option MemoryMappedFile}
    (coherent : ∀ file, object = some file → file.Coherent) {id : ObjectId}
    {file : MemoryMappedFile}
    (lives : (machine.put os target object).objects id = some file) :
    file.Coherent := by
  simp only [put, Function.update_apply] at lives
  split at lives
  next => exact coherent file lives
  next => exact consistent.coherent lives

/-! ## Each operation -/

/-- Releasing a live object never misuses the system, and leaves the object empty
and the others exclusive owners. -/
theorem Consistent.releases (consistent : Consistent machine)
    (platform : Platform) {id : ObjectId} {file : MemoryMappedFile}
    (lives : machine.objects id = some file) :
    ∃ os, (file.release platform machine.os : Checked Empty _) = .ok ({}, os) ∧
      Exclusive os.live (Function.update machine.holds id none) ∧
      os.handles = [] := by
  have coherent := consistent.coherent lives
  cases data : file.data with
  | some address =>
      have holding := holds_of_owner lives data
      have live : machine.os.mappings address = some file.size :=
        consistent.exclusive.held holding
      refine ⟨machine.os.unmapped address, ?_, ?_, consistent.handles⟩
      · exact MemoryMappedFile.release_of_owner platform data live
      · rw [Os.live_unmapped live]
        exact consistent.exclusive.release holding
  | none =>
      have empty : file = {} := by
        have size := coherent.mp data
        cases file
        simp_all
      refine ⟨machine.os, ?_, ?_, consistent.handles⟩
      · rw [MemoryMappedFile.release_of_empty platform data, empty]
      · rw [Function.update_eq_self_iff.mpr (holds_of_empty lives data).symm]
        exact consistent.exclusive

theorem Consistent.construct (consistent : Consistent machine)
    (platform : Platform) {target : ObjectId} {answers : Answers}
    (permitted : machine.Permits (.construct target answers)) :
    ∃ next, machine.apply platform (.construct target answers) = .ok next ∧
      Consistent next ∧ (next.objects target = none → next = machine) := by
  obtain ⟨vacant, fresh⟩ := permitted
  have idle : machine.holds target = none := by simp [holds, vacant]
  simp only [apply]
  have ends := MemoryMappedFile.constructed platform answers machine.os
  generalize MemoryMappedFile.construct platform answers machine.os = outcome
    at ends ⊢
  cases ends with
  | threw error => exact ⟨machine, rfl, consistent, fun _ => rfl⟩
  | empty =>
      refine ⟨_, rfl, ?_, by simp [put]⟩
      exact {
        exclusive := by
          rw [holds_put, Option.bind_some, MemoryMappedFile.region_empty,
            Function.update_eq_self_iff.mpr idle.symm]
          exact consistent.exclusive
        coherent := by
          apply consistent.coherent_put
          rintro file ⟨⟩
          simp [MemoryMappedFile.Coherent]
        handles := consistent.handles }
  | owns address size answered nonempty =>
      have free := fresh _ answered
      refine ⟨_, rfl, ?_, by simp [put]⟩
      exact {
        exclusive := by
          rw [holds_put]
          simp only [put, Os.live_mapped free]
          exact consistent.exclusive.acquire idle (Os.notMem_live free size)
        coherent := by
          apply consistent.coherent_put
          rintro file ⟨⟩
          simp [MemoryMappedFile.Coherent, nonempty]
        handles := consistent.handles }

theorem Consistent.moves {os : Os} {target source : ObjectId}
    {holds : ObjectId → Option (Address × Nat)}
    (exclusive : Exclusive os.live holds) (handles : os.handles = [])
    (coherent : ∀ {id file}, machine.objects id = some file → file.Coherent)
    (same : ∀ id, id ≠ target → holds id = machine.holds id)
    (idle : holds target = none) {other : MemoryMappedFile}
    (lives : machine.objects source = some other) (differ : source ≠ target) :
    Consistent ((machine.put os target (some other)).put os source
      (some {})) where
  exclusive := by
    have moved := exclusive.transfer idle differ
    have region : holds source = other.region := by
      rw [same source differ, Machine.holds, lives]
      rfl
    rw [region] at moved
    have equal : Function.update (Function.update holds target other.region)
        source none = ((machine.put os target (some other)).put os source
          (some {})).holds := by
      rw [holds_put, holds_put]
      funext id
      by_cases atTarget : id = target
      · simp [Function.update_apply, atTarget]
      · simp [Function.update_apply, atTarget, same id atTarget]
    rw [← equal]
    exact moved
  coherent := by
    intro id file found
    simp only [put, Function.update_apply] at found
    split at found
    next =>
      cases found
      simp [MemoryMappedFile.Coherent]
    next =>
      split at found
      next =>
        cases found
        exact coherent lives
      next => exact coherent found
  handles := handles

theorem Consistent.moveConstruct (consistent : Consistent machine)
    (platform : Platform) {target source : ObjectId}
    (permitted : machine.Permits (.moveConstruct target source)) :
    ∃ next, machine.apply platform (.moveConstruct target source) = .ok next ∧
      Consistent next := by
  obtain ⟨vacant, lives⟩ := permitted
  obtain ⟨other, lives⟩ := Option.isSome_iff_exists.mp lives
  have differ : source ≠ target := by
    rintro rfl
    rw [vacant] at lives
    cases lives
  refine ⟨_, by simp only [apply, lives]; rfl, ?_⟩
  apply moves consistent.exclusive consistent.handles consistent.coherent _ _
    lives differ
  · intro id _
    rfl
  · simp [holds, vacant]

theorem Consistent.moveAssign (consistent : Consistent machine)
    (platform : Platform) {target source : ObjectId}
    (permitted : machine.Permits (.moveAssign target source)) :
    ∃ next, machine.apply platform (.moveAssign target source) = .ok next ∧
      Consistent next := by
  obtain ⟨targetLives, sourceLives⟩ := permitted
  obtain ⟨this, targetLives⟩ := Option.isSome_iff_exists.mp targetLives
  obtain ⟨other, sourceLives⟩ := Option.isSome_iff_exists.mp sourceLives
  by_cases self : target = source
  · exact ⟨machine, by simp only [apply, if_pos self], consistent⟩
  · obtain ⟨os, released, exclusive, handles⟩ :=
      consistent.releases platform targetLives
    refine ⟨(machine.put os target (some other)).put os source (some {}), ?_, ?_⟩
    · simp only [apply, if_neg self, targetLives, sourceLives,
        MemoryMappedFile.moveAssign, released, Checked.ok_bind]
    · apply moves exclusive handles consistent.coherent _ _ sourceLives
        (Ne.symm self)
      · intro id other
        rw [Function.update_of_ne other]
      · rw [Function.update_self]

theorem Consistent.destroy (consistent : Consistent machine)
    (platform : Platform) {target : ObjectId}
    (permitted : machine.Permits (.destroy target)) :
    ∃ next, machine.apply platform (.destroy target) = .ok next ∧
      Consistent next := by
  obtain ⟨this, lives⟩ := Option.isSome_iff_exists.mp permitted
  obtain ⟨os, released, exclusive, handles⟩ :=
    consistent.releases platform lives
  refine ⟨machine.put os target none, ?_, ?_⟩
  · simp only [apply, lives, released, Checked.ok_bind]
  · exact {
      exclusive := by
        rw [holds_put]
        exact exclusive
      coherent := consistent.coherent_put os target (by simp)
      handles := handles }

/-! ## Every run -/

/-- No permitted operation misuses the system, and the machine stays
consistent. -/
theorem Consistent.apply (consistent : Consistent machine)
    (platform : Platform) {operation : Operation}
    (permitted : machine.Permits operation) :
    ∃ next, machine.apply platform operation = .ok next ∧ Consistent next := by
  cases operation with
  | construct target answers =>
      obtain ⟨next, applied, kept, _⟩ := consistent.construct platform permitted
      exact ⟨next, applied, kept⟩
  | moveConstruct target source =>
      exact consistent.moveConstruct platform permitted
  | moveAssign target source => exact consistent.moveAssign platform permitted
  | destroy target => exact consistent.destroy platform permitted

theorem Reached.consistent {platform : Platform}
    (reached : Reached platform machine) : Consistent machine := by
  induction reached with
  | start => exact consistent_start
  | step _ permitted applied ih =>
      obtain ⟨next, result, kept⟩ := ih.apply platform permitted
      rw [result] at applied
      cases applied
      exact kept

/-- In every state a run reaches, each live mapping belongs to exactly one
object, whose address and size are those of the mapping; no handle is open; no
permitted operation misuses the system; a constructor that throws leaves the
machine as it was; and when no object is left, no mapping is. -/
theorem mappings_released_once {platform : Platform} {machine : Machine}
    (reached : Reached platform machine) :
    (∀ address size, machine.os.mappings address = some size →
      ∃! id, machine.objects id = some { data := some address, size }) ∧
    (∀ id address size,
      machine.objects id = some { data := some address, size } →
        machine.os.mappings address = some size) ∧
    (∀ id file, machine.objects id = some file →
      (file.data = none ↔ file.size = 0)) ∧
    machine.os.handles = [] ∧
    (∀ operation, machine.Permits operation →
      ∃ next, machine.apply platform operation = .ok next) ∧
    (∀ target answers next, machine.Permits (.construct target answers) →
      machine.apply platform (.construct target answers) = .ok next →
        next.os.handles = [] ∧
        (next.objects target = none → next = machine)) ∧
    ((∀ id, machine.objects id = none) →
      ∀ address, machine.os.mappings address = none) := by
  have consistent := reached.consistent
  have exclusive := consistent.exclusive
  have owner : ∀ id address size, machine.holds id = some (address, size) ↔
      machine.objects id = some { data := some address, size } := by
    intro id address size
    cases lives : machine.objects id with
    | none => simp [holds, lives]
    | some file =>
        obtain ⟨data, length⟩ := file
        cases data <;> simp [holds, lives, MemoryMappedFile.region]
  refine ⟨?_, ?_, ?_, consistent.handles, ?_, ?_, ?_⟩
  · intro address size live
    have member : (address, size) ∈ machine.os.live := live
    have unique := exclusive.existsUnique member
    simpa only [owner] using unique
  · intro id address size lives
    exact exclusive.held ((owner id address size).mpr lives)
  · intro id file lives
    exact consistent.coherent lives
  · intro operation permitted
    obtain ⟨next, applied, _⟩ := consistent.apply platform permitted
    exact ⟨next, applied⟩
  · intro target answers next permitted applied
    obtain ⟨same, result, kept, threw⟩ :=
      consistent.construct platform permitted
    rw [result] at applied
    cases applied
    exact ⟨kept.handles, threw⟩
  · intro none address
    have idle : ∀ id, machine.holds id = Option.none := by
      intro id
      simp [holds, none id]
    have empty := exclusive.eq_empty idle
    cases mapped : machine.os.mappings address with
    | none => rfl
    | some size =>
        have member : (address, size) ∈ machine.os.live := mapped
        rw [empty] at member
        exact member.elim

/-- A file of 128 bytes, mapped on Windows and moved to another object. -/
theorem mappings_released_once_sample :
    ∃ machine, Reached .windows machine ∧
      machine.objects 0 = some {} ∧
      ∃! id, machine.objects id = some { data := some 4096, size := 128 } := by
  let answers : Answers :=
    { file := some 3, size := some 128, mapping := some 4, view := some 4096 }
  have opened : Reached .windows _ :=
    .step .start (show Permits {} (.construct 0 answers) from
      ⟨rfl, fun _ _ => rfl⟩) rfl
  have moved : Reached .windows _ :=
    .step opened (show Permits _ (.moveConstruct 1 0) from ⟨rfl, rfl⟩) rfl
  exact ⟨_, moved, rfl, (mappings_released_once moved).1 4096 128 rfl⟩

end Machine

end TradingSim
