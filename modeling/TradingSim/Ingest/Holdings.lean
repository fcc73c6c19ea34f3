import TradingSim.Ingest.Process

/-!
# What a process stands for

Under each name a process keeps addresses and members; what it stands for is a
reader over its whole file, or nothing.  Every permitted request to the process is
answered as if there were only the latter: no access leaves a live mapping, and
nothing that happens to one reader or to the rest of memory is seen by another.
-/

namespace TradingSim

open Foundation

/-- What an object is worth: a reader over its whole file, or nothing. -/
inductive Holding where
  | live (reader : MmapDbnReader)
  | movedFrom
  deriving DecidableEq, Repr

abbrev Holdings := ObjectId → Option Holding

namespace Holdings

/-- Nobody holds anything. -/
def vacant : Holdings := fun _ => none

/-- The same requests without memory, mappings or handles. -/
def answer (platform : Platform) (width : Nat) :
    Service PrologueError Holdings Request Reply := fun holdings request =>
  match request with
  | .construct target file answers =>
      match answers.outcome platform with
      | .refused error => .ok (.unmapped error, holdings)
      | _ =>
          match MmapDbnReader.construct width file with
          | .ok reader =>
              .ok (.opened reader.version,
                Function.update holdings target (some (.live reader)))
          | .error (.thrown error) => .ok (.refused error, holdings)
          | .error (.fault kind) => .error (.fault kind)
          | .error .outOfFuel => .error .outOfFuel
  | .next target =>
      match holdings target with
      | some (.live reader) => do
          let (event, reader) ← reader.next
          .ok (.pulled ⟨event, reader.failed, reader.stats⟩,
            Function.update holdings target (some (.live reader)))
      | _ => .ok (.done, holdings)
  | .moveConstruct target source =>
      .ok (.done, Function.update
        (Function.update holdings target (holdings source)) source
        (some .movedFrom))
  | .moveAssign target source =>
      if target = source then .ok (.done, holdings)
      else
        .ok (.done, Function.update
          (Function.update holdings target (holdings source)) source
          (some .movedFrom))
  | .destroy target => .ok (.done, Function.update holdings target none)
  | .elsewhere _ => .ok (.done, holdings)

end Holdings

namespace MmapDbnReader

theorem construct_map {width : Nat} {file : Bytes} {reader : MmapDbnReader}
    (opened : construct width file = .ok reader) : reader.map = file := by
  rw [construct, skipPrologue] at opened
  dsimp only at opened
  split at opened
  next => cases opened
  next =>
    obtain ⟨⟨version, metadataLen⟩, _, later⟩ := Checked.bind_eq_ok.mp opened
    dsimp only at later
    split at later
    next => cases later
    next =>
      cases later
      rfl

namespace Object

/-- An object holds what it stands for. -/
inductive Holds (memory : Memory) (object : Object) : Holding → Prop where
  | live (mapped : object.map.data.isSome) (valid : (object.view memory).Valid) :
      Holds memory object (.live (object.view memory))
  | movedFrom (emptied : object.map = {}) : Holds memory object .movedFrom

variable {memory memory' : Memory} {object : Object} {holding : Holding}

/-- Its region is all an object reads of memory. -/
theorem Holds.congr (holds : object.Holds memory holding)
    (same : object.map.bytes memory' = object.map.bytes memory) :
    object.Holds memory' holding := by
  cases holds with
  | live mapped valid =>
      have unchanged : object.view memory' = object.view memory := by
        simp only [view, same]
      rw [← unchanged] at valid ⊢
      exact .live mapped valid
  | movedFrom emptied => exact .movedFrom emptied

theorem view_ofReader {map : MemoryMappedFile} {reader : MmapDbnReader}
    (covers : reader.map = map.bytes memory) :
    (ofReader map reader).view memory = reader := by
  simp only [view, ofReader, ← covers]

theorem holds_ofReader {map : MemoryMappedFile} {reader : MmapDbnReader}
    (covers : reader.map = map.bytes memory) (mapped : map.data.isSome)
    (valid : reader.Valid) :
    (ofReader map reader).Holds memory (.live reader) := by
  have viewed := view_ofReader covers
  rw [← viewed] at valid ⊢
  exact .live mapped valid

end Object

end MmapDbnReader

namespace Process

/-- The mapped files of the readers, without the readers. -/
def machine (process : Process) : Machine where
  os := process.os
  objects := fun id => (process.readers id).map MmapDbnReader.Object.map

/-- A process stands for holdings: its mappings are owned exclusively and do not
overlap, and every object holds what it stands for. -/
structure Represents (process : Process) (holdings : Holdings) : Prop where
  consistent : process.machine.Consistent
  apart : ∀ {address size other length},
    process.os.mappings address = some size →
    process.os.mappings other = some length → address ≠ other →
      Region.Apart address size other length
  held : ∀ id, Option.Rel (MmapDbnReader.Object.Holds process.memory)
    (process.readers id) (holdings id)

theorem represents_start : Represents {} Holdings.vacant where
  consistent := Machine.consistent_start
  apart := by simp
  held := fun _ => .none

theorem machine_update (process : Process) (os : Os) (memory : Memory)
    (id : ObjectId) (object : Option MmapDbnReader.Object) :
    machine ⟨os, memory, Function.update process.readers id object⟩ =
      process.machine.put os id (object.map MmapDbnReader.Object.map) := by
  rw [machine, Machine.put]
  congr 1
  funext other
  by_cases same : other = id
  · subst other
    simp
  · simp [same, machine]

variable {process : Process} {holdings : Holdings}

theorem Represents.holds (represents : Represents process holdings)
    {id : ObjectId} {object : MmapDbnReader.Object}
    (lives : process.readers id = some object) :
    ∃ holding, holdings id = some holding ∧
      object.Holds process.memory holding := by
  have held := represents.held id
  rw [lives] at held
  generalize holdings id = other at held ⊢
  cases held with
  | some holds => exact ⟨_, rfl, holds⟩

theorem Represents.vacant (represents : Represents process holdings)
    {id : ObjectId} (none : process.readers id = none) : holdings id = .none := by
  have held := represents.held id
  rw [none] at held
  generalize holdings id = other at held ⊢
  cases held
  rfl

theorem Represents.mapped (represents : Represents process holdings)
    {id : ObjectId} {object : MmapDbnReader.Object} {address : Address}
    (lives : process.readers id = some object)
    (owns : object.map.data = some address) :
    process.os.mappings address = some object.map.size := by
  have file : process.machine.objects id = some object.map := by
    simp [machine, lives]
  exact represents.consistent.exclusive.held (Machine.holds_of_owner file owns)

theorem held_update {memory : Memory}
    {readers : ObjectId → Option MmapDbnReader.Object}
    (held : ∀ id, Option.Rel (MmapDbnReader.Object.Holds memory) (readers id)
      (holdings id)) {id : ObjectId} {object : Option MmapDbnReader.Object}
    {holding : Option Holding}
    (holds : Option.Rel (MmapDbnReader.Object.Holds memory) object holding)
    (other : ObjectId) :
    Option.Rel (MmapDbnReader.Object.Holds memory)
      (Function.update readers id object other)
      (Function.update holdings id holding other) := by
  by_cases same : other = id
  · subst other
    simpa using holds
  · simpa [same] using held other

/-- An object reads the same wherever the memory of the live mappings is. -/
theorem Represents.bytes_congr (represents : Represents process holdings)
    {memory : Memory}
    (same : ∀ address size, process.os.mappings address = some size →
      Region.read memory address size =
        Region.read process.memory address size)
    {id : ObjectId} {object : MmapDbnReader.Object}
    (lives : process.readers id = some object) :
    object.map.bytes memory = object.map.bytes process.memory := by
  cases owns : object.map.data with
  | none => simp only [MemoryMappedFile.bytes, owns]
  | some address =>
      simp only [MemoryMappedFile.bytes, owns]
      exact same address _ (represents.mapped lives owns)

/-- Memory may change wherever nothing is mapped. -/
theorem Represents.remembered (represents : Represents process holdings)
    {memory : Memory}
    (same : ∀ address size, process.os.mappings address = some size →
      Region.read memory address size =
        Region.read process.memory address size) :
    Represents { process with memory } holdings where
  consistent := represents.consistent
  apart := represents.apart
  held id := by
    cases lives : process.readers id with
    | none =>
        rw [represents.vacant lives]
        exact .none
    | some object =>
        obtain ⟨holding, holdingEq, holds⟩ := represents.holds lives
        rw [holdingEq]
        exact .some (holds.congr (represents.bytes_congr same lives))

/-! ## Each request -/

theorem Represents.releases (represents : Represents process holdings)
    (platform : Platform) {id : ObjectId} {object : MmapDbnReader.Object}
    (lives : process.readers id = some object) :
    ∃ os, (object.map.release platform process.os : Ingest _) = .ok ({}, os) ∧
      Exclusive os.live (Function.update process.machine.holds id none) ∧
      os.handles = [] ∧
      ∀ address size, os.mappings address = some size →
        process.os.mappings address = some size := by
  have file : process.machine.objects id = some object.map := by
    simp [machine, lives]
  have exclusive := represents.consistent.exclusive
  cases owns : object.map.data with
  | some address =>
      have live := represents.mapped lives owns
      have holding := Machine.holds_of_owner file owns
      refine ⟨process.os.unmapped address, ?_, ?_, ?_, ?_⟩
      · exact MemoryMappedFile.release_of_owner platform owns live
      · rw [Os.live_unmapped live]
        exact exclusive.release holding
      · exact represents.consistent.handles
      · intro other size still
        have member : (other, size) ∈ (process.os.unmapped address).live := still
        rw [Os.live_unmapped live] at member
        exact member.1
  | none =>
      have empty : object.map = {} := by
        have size := (represents.consistent.coherent file).mp owns
        cases map : object.map with
        | mk data length =>
            rw [map] at owns size
            cases owns
            cases size
            rfl
      refine ⟨process.os, ?_, ?_, represents.consistent.handles, ?_⟩
      · rw [MemoryMappedFile.release_of_empty platform owns, empty]
      · have idle := Machine.holds_of_empty file owns
        rw [Function.update_eq_self_iff.mpr idle.symm]
        exact exclusive
      · exact fun _ _ live => live

theorem Represents.destroy (represents : Represents process holdings)
    (platform : Platform) (width : Nat) {target : ObjectId}
    (permitted : process.Permits width (.destroy target)) :
    ∃ next, answer platform width process (.destroy target) =
        .ok (.done, next) ∧
      Represents next (Function.update holdings target none) := by
  obtain ⟨this, lives⟩ := Option.isSome_iff_exists.mp permitted
  obtain ⟨os, released, exclusive, handles, fewer⟩ :=
    represents.releases platform lives
  refine ⟨⟨os, process.memory, Function.update process.readers target none⟩,
    ?_, ?_⟩
  · simp only [answer, lives, released, Checked.ok_bind]
  · exact {
      consistent := by
        rw [machine_update]
        exact {
          exclusive := by
            rw [Machine.holds_put]
            exact exclusive
          coherent := represents.consistent.coherent_put os target (by simp)
          handles := handles }
      apart := fun left right differ =>
        represents.apart (fewer _ _ left) (fewer _ _ right) differ
      held := held_update represents.held .none }

/-- A reader moves into a place that owns nothing. -/
theorem Represents.moves (represents : Represents process holdings) {os : Os}
    {target source : ObjectId} {holds : ObjectId → Option (Address × Nat)}
    (exclusive : Exclusive os.live holds) (handles : os.handles = [])
    (fewer : ∀ address size, os.mappings address = some size →
      process.os.mappings address = some size)
    (same : ∀ id, id ≠ target → holds id = process.machine.holds id)
    (idle : holds target = none) {this other : MmapDbnReader.Object}
    (lives : process.readers source = some this) (differ : source ≠ target)
    (emptied : other.map = {}) :
    Represents ⟨os, process.memory, Function.update
        (Function.update process.readers target (some this)) source
        (some other)⟩
      (Function.update (Function.update holdings target (holdings source)) source
        (some .movedFrom)) where
  consistent := by
    have file : process.machine.objects source = some this.map := by
      simp [machine, lives]
    have moved := Machine.Consistent.moves exclusive handles
      represents.consistent.coherent same idle file differ
    have put := machine_update ⟨os, process.memory,
      Function.update process.readers target (some this)⟩ os process.memory
      source (some other)
    rw [put, machine_update process os, Option.map_some, Option.map_some,
      emptied]
    exact moved
  apart left right differ :=
    represents.apart (fewer _ _ left) (fewer _ _ right) differ
  held := by
    have held := represents.held source
    rw [lives] at held
    exact held_update (held_update represents.held held)
      (.some (.movedFrom emptied))

theorem Represents.moveConstruct (represents : Represents process holdings)
    (platform : Platform) (width : Nat) {target source : ObjectId}
    (permitted : process.Permits width (.moveConstruct target source)) :
    ∃ next, answer platform width process (.moveConstruct target source) =
        .ok (.done, next) ∧
      Represents next (Function.update
        (Function.update holdings target (holdings source)) source
        (some .movedFrom)) := by
  obtain ⟨vacant, lives⟩ := permitted
  obtain ⟨other, lives⟩ := Option.isSome_iff_exists.mp lives
  have differ : source ≠ target := by
    rintro rfl
    rw [vacant] at lives
    cases lives
  refine ⟨_, by simp only [answer, lives]; rfl, ?_⟩
  apply represents.moves represents.consistent.exclusive
    represents.consistent.handles (fun _ _ live => live) (fun _ _ => rfl) _ lives
    differ rfl
  simp [Machine.holds, machine, vacant]

theorem Represents.moveAssign (represents : Represents process holdings)
    (platform : Platform) (width : Nat) {target source : ObjectId}
    (permitted : process.Permits width (.moveAssign target source))
    (differ : source ≠ target) :
    ∃ next, answer platform width process (.moveAssign target source) =
        .ok (.done, next) ∧
      Represents next (Function.update
        (Function.update holdings target (holdings source)) source
        (some .movedFrom)) := by
  obtain ⟨targetLives, sourceLives⟩ := permitted
  obtain ⟨this, targetLives⟩ := Option.isSome_iff_exists.mp targetLives
  obtain ⟨other, sourceLives⟩ := Option.isSome_iff_exists.mp sourceLives
  obtain ⟨os, released, exclusive, handles, fewer⟩ :=
    represents.releases platform targetLives
  refine ⟨⟨os, process.memory, Function.update (Function.update process.readers
    target (some other)) source (some { other with map := {} })⟩, ?_, ?_⟩
  · simp only [answer, if_neg (Ne.symm differ), targetLives, sourceLives,
      MmapDbnReader.Object.moveAssign, MemoryMappedFile.moveAssign, released,
      Checked.ok_bind]
  · apply represents.moves exclusive handles fewer _ _ sourceLives differ rfl
    · intro id elsewhere
      rw [Function.update_of_ne elsewhere]
    · rw [Function.update_self]

/-- A reader is pulled from. -/
theorem Represents.next (represents : Represents process holdings)
    (platform : Platform) (width : Nat) {target : ObjectId}
    (permitted : process.Permits width (.next target)) :
    ∃ reply next after, answer platform width process (.next target) =
        .ok (reply, next) ∧
      Holdings.answer platform width holdings (.next target) =
        .ok (reply, after) ∧
      Represents next after := by
  obtain ⟨object, lives, mapped⟩ := permitted
  obtain ⟨holding, holdingEq, holds⟩ := represents.holds lives
  cases holds with
  | movedFrom emptied => simp [emptied] at mapped
  | live mapped valid =>
      obtain ⟨address, owns⟩ := Option.isSome_iff_exists.mp mapped
      have live := represents.mapped lives owns
      have checked : (object.map.liveBytes process.os process.memory : Ingest _) =
          .ok (object.map.bytes process.memory) := by
        rw [MemoryMappedFile.liveBytes, owns]
        exact if_pos live
      obtain ⟨⟨event, reader⟩, called, replays⟩ :=
        MmapDbnReader.next_replays valid
      have covers : reader.map = object.map.bytes process.memory := replays.map
      have file : process.machine.objects target = some object.map := by
        simp [machine, lives]
      refine ⟨.pulled ⟨event, reader.failed, reader.stats⟩,
        ⟨process.os, process.memory, Function.update process.readers target
          (some (.ofReader object.map reader))⟩,
        Function.update holdings target (some (.live reader)), ?_, ?_, ?_⟩
      · simp only [answer, lives, Process.next, checked, called, Checked.ok_bind]
      · simp only [Holdings.answer, holdingEq, called, Checked.ok_bind]
      · exact {
          consistent := by
            have same : Function.update process.machine.objects target
                (some object.map) = process.machine.objects :=
              Function.update_eq_self_iff.mpr file.symm
            rw [machine_update, Machine.put]
            dsimp only [Option.map_some, MmapDbnReader.Object.ofReader]
            rw [same]
            exact represents.consistent
          apart := represents.apart
          held := held_update represents.held (.some
            (MmapDbnReader.Object.holds_ofReader covers mapped replays.valid)) }

/-- How constructing a reader ends: as the holdings say, with everything but memory
as it was when no reader comes of it. -/
structure Constructs (platform : Platform) (width : Nat) (process : Process)
    (holdings : Holdings) (target : ObjectId) (file : Bytes) (answers : Answers)
    (reply : Reply) (next : Process) : Prop where
  answered : process.construct platform width target file answers =
    .ok (reply, next)
  specified : ∃ after,
    Holdings.answer platform width holdings (.construct target file answers) =
      .ok (reply, after) ∧ Represents next after
  untouched : next.readers target = none →
    next.os = process.os ∧ next.readers = process.readers ∧
      ∀ id object, process.readers id = some object →
        object.map.bytes next.memory = object.map.bytes process.memory

theorem Represents.construct_unmapped (represents : Represents process holdings)
    {platform : Platform} (width : Nat) (target : ObjectId) (file : Bytes)
    {answers : Answers} {error : MapError}
    (outcome : answers.outcome platform = .refused error) :
    Constructs platform width process holdings target file answers
      (.unmapped error) process where
  answered := by
    rw [construct, MemoryMappedFile.construct_eq, outcome]
    rfl
  specified := ⟨holdings, by rw [Holdings.answer, outcome], represents⟩
  untouched := fun _ => ⟨rfl, rfl, fun _ _ _ => rfl⟩

theorem Represents.construct_empty (represents : Represents process holdings)
    {platform : Platform} (width : Nat) (target : ObjectId) {answers : Answers}
    (outcome : answers.outcome platform = .empty) :
    Constructs platform width process holdings target [] answers
      (.refused .truncatedHeader) process where
  answered := by
    rw [construct, MemoryMappedFile.construct_eq, outcome]
    rfl
  specified := by
    refine ⟨holdings, ?_, represents⟩
    rw [Holdings.answer, outcome]
    rfl
  untouched := fun _ => ⟨rfl, rfl, fun _ _ _ => rfl⟩

/-- Memory with a file put where nothing is mapped. -/
theorem Represents.loaded (represents : Represents process holdings)
    {address : Address} {file : Bytes}
    (apart : ∀ other length, process.os.mappings other = some length →
      Region.Apart address file.length other length) :
    Represents { process with memory := Region.write process.memory address file }
      holdings := by
  apply represents.remembered
  intro other length live
  exact Region.read_write_apart (apart other length live)

/-- A file that is mapped and refused is unmapped again. -/
theorem Represents.construct_refused (represents : Represents process holdings)
    {platform : Platform} {width : Nat} {target : ObjectId} {file : Bytes}
    {answers : Answers} {address : Address}
    (outcome : answers.outcome platform = .mapped address file.length)
    (free : process.os.mappings address = none)
    (apart : ∀ other length, process.os.mappings other = some length →
      Region.Apart address file.length other length)
    {error : PrologueError}
    (refused : MmapDbnReader.construct width file = Ingest.throw error) :
    Constructs platform width process holdings target file answers
      (.refused error)
      { process with memory := Region.write process.memory address file } where
  answered := by
    have live : (process.os.mapped address file.length).mappings address =
        some file.length := by
      simp [Os.mapped]
    have bytes : MemoryMappedFile.bytes (Region.write process.memory address file)
        { data := some address, size := file.length } = file :=
      Region.read_write process.memory address file
    have released : (MemoryMappedFile.release platform
        { data := some address, size := file.length }
        (process.os.mapped address file.length) : Ingest _) =
        .ok ({}, process.os) := by
      rw [MemoryMappedFile.release_of_owner platform rfl live,
        Os.unmapped_mapped free]
    rw [construct, MemoryMappedFile.construct_eq, outcome]
    simp only [Outcome.arrive, load, bytes, refused, Ingest.throw, released,
      Checked.ok_bind]
  specified := by
    refine ⟨holdings, ?_, represents.loaded apart⟩
    rw [Holdings.answer, outcome]
    simp only [refused, Ingest.throw]
  untouched := by
    intro _
    refine ⟨rfl, rfl, fun id object lives => ?_⟩
    apply represents.bytes_congr _ lives
    intro other length live
    exact Region.read_write_apart (apart other length live)

/-- A file that is mapped and accepted is the new reader's. -/
theorem Represents.construct_opened (represents : Represents process holdings)
    {platform : Platform} {width : Nat} {target : ObjectId} {file : Bytes}
    {answers : Answers} {address : Address}
    (permitted : process.Permits width (.construct target file answers))
    (outcome : answers.outcome platform = .mapped address file.length)
    {reader : MmapDbnReader}
    (opened : MmapDbnReader.construct width file = .ok reader)
    (valid : reader.Valid) (covers : reader.map = file) :
    Constructs platform width process holdings target file answers
      (.opened reader.version) {
        os := process.os.mapped address file.length
        memory := Region.write process.memory address file
        readers := Function.update process.readers target
          (some (.ofReader { data := some address, size := file.length }
            reader)) } := by
  obtain ⟨vacant, fresh, _, _, apart⟩ := permitted
  obtain ⟨_, answered, _⟩ := Answers.of_mapped outcome
  have free := fresh address answered
  have away := fun other length => apart address other length answered
  have bytes : MemoryMappedFile.bytes (Region.write process.memory address file)
      { data := some address, size := file.length } = file :=
    Region.read_write process.memory address file
  have machinePermits : process.machine.Permits (.construct target answers) := by
    refine ⟨?_, fresh⟩
    simp [machine, vacant]
  obtain ⟨machine, applied, consistent, _⟩ :=
    represents.consistent.construct platform machinePermits
  have put : process.machine.put (process.os.mapped address file.length) target
      (some { data := some address, size := file.length }) = machine := by
    simp only [Machine.apply, MemoryMappedFile.construct_eq, outcome,
      Outcome.arrive] at applied
    exact Except.ok.inj applied
  refine {
    answered := ?_
    specified := ⟨Function.update holdings target (some (.live reader)), ?_, ?_⟩
    untouched := ?_ }
  · rw [construct, MemoryMappedFile.construct_eq, outcome]
    simp only [Outcome.arrive, load, bytes, opened]
  · rw [Holdings.answer, outcome]
    simp only [opened]
  · exact {
      consistent := by
        rw [machine_update]
        dsimp only [Option.map_some, MmapDbnReader.Object.ofReader]
        rw [put]
        exact consistent
      apart := by
        intro left size right length leftLive rightLive differ
        simp only [Os.mapped, Function.update_apply] at leftLive rightLive
        split at leftLive
        next isLeft =>
          rw [if_neg (fun same => differ (isLeft.trans same.symm))] at rightLive
          cases leftLive
          rw [isLeft]
          exact away right length rightLive
        next =>
          split at rightLive
          next isRight =>
            cases rightLive
            rw [isRight]
            exact (away left size leftLive).symm
          next => exact represents.apart leftLive rightLive differ
      held := by
        apply held_update (represents.loaded away).held
        apply Option.Rel.some
        apply MmapDbnReader.Object.holds_ofReader _ rfl valid
        rw [covers, bytes] }
  · intro nothing
    simp at nothing

theorem Represents.construct (represents : Represents process holdings)
    (platform : Platform) (width : Nat) {target : ObjectId} {file : Bytes}
    {answers : Answers}
    (permitted : process.Permits width (.construct target file answers)) :
    ∃ reply next,
      Constructs platform width process holdings target file answers reply
        next := by
  obtain ⟨_, fresh, _, whole, apart⟩ := id permitted
  cases outcome : answers.outcome platform with
  | refused error =>
      exact ⟨_, _, represents.construct_unmapped width target file outcome⟩
  | empty =>
      have length := whole 0 (Answers.size_of_empty outcome)
      obtain rfl := List.length_eq_zero_iff.mp length.symm
      exact ⟨_, _, represents.construct_empty width target outcome⟩
  | mapped address size =>
      obtain ⟨sized, answered, _⟩ := Answers.of_mapped outcome
      obtain rfl := whole size sized
      rcases MmapDbnReader.construct_safe width file with
        ⟨error, refused⟩ | ⟨reader, opened, valid⟩
      · exact ⟨_, _, represents.construct_refused outcome (fresh address answered)
          (fun other length => apart address other length answered) refused⟩
      · exact ⟨_, _, represents.construct_opened permitted outcome opened valid
          (MmapDbnReader.construct_map opened)⟩

/-! ## Every run -/

/-- Every permitted request is answered as the holdings answer it. -/
theorem simulates (platform : Platform) (width : Nat) :
    Service.Simulates (answer platform width) (Holdings.answer platform width)
      (Permits width) Represents := by
  intro process holdings request represents permitted
  cases request with
  | construct target file answers =>
      obtain ⟨reply, next, constructs⟩ :=
        represents.construct platform width permitted
      obtain ⟨after, specified, kept⟩ := constructs.specified
      exact ⟨reply, next, after, constructs.answered, specified, kept⟩
  | next target => exact represents.next platform width permitted
  | moveConstruct target source =>
      obtain ⟨next, answered, kept⟩ :=
        represents.moveConstruct platform width permitted
      exact ⟨.done, next, _, answered, rfl, kept⟩
  | moveAssign target source =>
      by_cases same : target = source
      · exact ⟨.done, process, holdings, if_pos same, if_pos same, represents⟩
      · obtain ⟨next, answered, kept⟩ :=
          represents.moveAssign platform width permitted (Ne.symm same)
        exact ⟨.done, next, _, answered, if_neg same, kept⟩
  | destroy target =>
      obtain ⟨next, answered, kept⟩ :=
        represents.destroy platform width permitted
      exact ⟨.done, next, _, answered, rfl, kept⟩
  | elsewhere memory =>
      exact ⟨.done, _, holdings, rfl, rfl, represents.remembered permitted⟩

variable {platform : Platform} {width : Nat} {requests : List Request}
  {replies : List Reply}

/-- What a process that began empty stands for. -/
theorem represents_of_runs
    (ran : Service.Runs (answer platform width) (Permits width) {} requests replies
      process) :
    ∃ holdings, Service.run (Holdings.answer platform width) requests
        Holdings.vacant = .ok (replies, holdings) ∧
      Represents process holdings :=
  (simulates platform width).runs represents_start ran

/-- The file with one frame is opened, pulled from and moved. -/
def sampleRequests : List Request :=
  [.construct 0 Setup.oneFrameFile
      { file := some 3, size := some 12, mapping := none, view := some 16 },
    .next 0, .moveConstruct 1 0, .next 1]

def sampleReplies : List Reply :=
  [.opened 1, .pulled ⟨none, false, { records := 1, skippedNonMbo := 1 }⟩,
    .done, .pulled ⟨none, false, { records := 1, skippedNonMbo := 1 }⟩]

theorem sample_runs : ∃ process,
    Service.Runs (answer .posix 64) (Permits 64) {} sampleRequests sampleReplies
      process := by
  refine ⟨_, .cons ?_ rfl (.cons ?_ rfl (.cons ?_ rfl (.cons ?_ rfl (.nil _))))⟩
  · refine ⟨rfl, fun _ _ => rfl, by decide, ?_, ?_⟩
    · rintro size ⟨⟩
      rfl
    · simp
  · exact ⟨_, rfl, rfl⟩
  · exact ⟨rfl, rfl⟩
  · exact ⟨_, rfl, rfl⟩

/-- Whatever is asked of a process in whatever order, every reply is the one that
readers over whole files would give, without memory, mappings or handles; every
object holds the reader it then has, or nothing; and every further request is
answered, without a step outside a live mapping. -/
theorem served_as_holdings
    (ran : Service.Runs (answer platform width) (Permits width) {} requests replies
      process) :
    (∃ holdings, Service.run (Holdings.answer platform width) requests
        Holdings.vacant = .ok (replies, holdings) ∧
      ∀ id, Option.Rel (MmapDbnReader.Object.Holds process.memory)
        (process.readers id) (holdings id)) ∧
    ∀ request, process.Permits width request → ∃ reply next,
      answer platform width process request = .ok (reply, next) := by
  obtain ⟨holdings, specified, represents⟩ := represents_of_runs ran
  refine ⟨⟨holdings, specified, represents.held⟩, ?_⟩
  intro request permitted
  obtain ⟨reply, next, _, answered, _⟩ :=
    simulates platform width process holdings request represents permitted
  exact ⟨reply, next, answered⟩

/-- The sample is served as by one reader that is moved once. -/
theorem served_as_holdings_sample : ∃ holdings,
    Service.run (Holdings.answer .posix 64) sampleRequests Holdings.vacant =
      .ok (sampleReplies, holdings) := by
  obtain ⟨process, ran⟩ := sample_runs
  obtain ⟨⟨holdings, specified, _⟩, _⟩ := served_as_holdings ran
  exact ⟨holdings, specified⟩

/-- Nothing leaks, whatever is asked of a process in whatever order.  Every live
mapping belongs to one reader and overlaps no other; no handle is open; a
constructor that throws, for want of a mapping or over the prologue, leaves the
system, the readers and what they read as they were; and when every reader that
is left was moved from, nothing is mapped. -/
theorem nothing_leaks
    (ran : Service.Runs (answer platform width) (Permits width) {} requests replies
      process) :
    process.os.handles = [] ∧
    (∀ address size, process.os.mappings address = some size →
      ∃! id, ∃ object, process.readers id = some object ∧
        object.map = { data := some address, size }) ∧
    (∀ address size other length, process.os.mappings address = some size →
      process.os.mappings other = some length → address ≠ other →
        Region.Apart address size other length) ∧
    (∀ target file answers reply next,
      process.Permits width (.construct target file answers) →
      answer platform width process (.construct target file answers) =
        .ok (reply, next) → next.readers target = none →
        next.os = process.os ∧ next.readers = process.readers ∧
        ∀ id object, process.readers id = some object →
          object.map.bytes next.memory = object.map.bytes process.memory) ∧
    ((∀ id object, process.readers id = some object → object.map.data = none) →
      ∀ address, process.os.mappings address = none) := by
  obtain ⟨holdings, _, represents⟩ := represents_of_runs ran
  have exclusive := represents.consistent.exclusive
  refine ⟨represents.consistent.handles, ?_, ?_, ?_, ?_⟩
  · intro address size live
    have member : (address, size) ∈ process.os.live := live
    have owner : ∀ id, process.machine.holds id = some (address, size) ↔
        ∃ object, process.readers id = some object ∧
          object.map = { data := some address, size } := by
      intro id
      cases lives : process.readers id with
      | none => simp [Machine.holds, machine, lives]
      | some object =>
          cases map : object.map with
          | mk data length =>
              cases data <;>
                simp [Machine.holds, machine, lives, MemoryMappedFile.region, map]
    simpa only [owner] using exclusive.existsUnique member
  · exact fun _ _ _ _ => represents.apart
  · intro target file answers reply next permitted answered nothing
    obtain ⟨expected, after, constructs⟩ :=
      represents.construct platform width permitted
    have same : process.construct platform width target file answers =
        .ok (reply, next) := answered
    rw [constructs.answered] at same
    cases same
    exact constructs.untouched nothing
  · intro idle address
    have nobody : ∀ id, process.machine.holds id = none := by
      intro id
      cases lives : process.readers id with
      | none => simp [Machine.holds, machine, lives]
      | some object =>
          simp [Machine.holds, machine, lives, MemoryMappedFile.region,
            idle id object lives]
    have empty : process.os.live = ∅ := exclusive.eq_empty nobody
    cases mapped : process.os.mappings address with
    | none => rfl
    | some size =>
        have member : (address, size) ∈ process.os.live := mapped
        rw [empty] at member
        exact member.elim

/-- The sample leaves no handle open and every mapping with one owner. -/
theorem nothing_leaks_sample : ∃ process : Process,
    process.os.handles = [] ∧
    ∀ address size, process.os.mappings address = some size →
      ∃! id, ∃ object, process.readers id = some object ∧
        object.map = { data := some address, size } := by
  obtain ⟨process, ran⟩ := sample_runs
  obtain ⟨handles, owned, _⟩ := nothing_leaks ran
  exact ⟨process, handles, owned⟩

end Process

end TradingSim
