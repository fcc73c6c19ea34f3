import TradingSim.Ingest.Holdings

/-!
# One reader among many

A reader is followed through a process by what becomes of it: it stays under its
name, moves to another, or is destroyed.  What is pulled from it on the way is the
replay of the file it was opened over, whatever other readers are opened, pulled
from, moved or destroyed in between and whatever the rest of memory goes through.
-/

namespace TradingSim

open Foundation

/-- Where the reader under a name is after a request; nowhere, once destroyed. -/
def Request.follow (id : ObjectId) : Request → Option ObjectId
  | .moveConstruct target source => if source = id then some target else some id
  | .moveAssign target source =>
      if target = source then some id
      else if source = id then some target
      else if target = id then none
      else some id
  | .destroy target => if target = id then none else some id
  | .construct _ _ _ | .next _ | .elsewhere _ => some id

/-- What a request pulls from the reader under a name. -/
def Request.pulledBy (id : ObjectId) : Request → Reply → List Observation
  | .next target, .pulled observation =>
      if target = id then [observation] else []
  | _, _ => []

/-- What a number of requests pull from a reader, wherever it moves. -/
def observed : Option ObjectId → List Request → List Reply → List Observation
  | some id, request :: requests, reply :: replies =>
      request.pulledBy id reply ++ observed (request.follow id) requests replies
  | _, _, _ => []

@[simp] theorem observed_none (requests : List Request) (replies : List Reply) :
    observed none requests replies = [] := by
  simp [observed]

theorem MmapDbnReader.construct_returned_of_wider {width : Nat}
    (wider : 32 < width) {file : Bytes} {reader : MmapDbnReader}
    (returned : construct width file = .ok reader) :
    parsePrologue file = .ok reader.version ∧ Fresh file reader := by
  apply construct_returned
  rw [construct_eq (prologue_lt_of_wider wider file)] at returned
  rw [construct_eq (prologue_lt file), returned]

namespace Process

/-- What becomes of a reader in one request: it is pulled from, it stays or moves
as it is, or it is destroyed. -/
inductive Follows (reader : MmapDbnReader) (id : ObjectId) (request : Request)
    (reply : Reply) (after : Holdings) : Prop where
  | pulled {event : Option Event} {next : MmapDbnReader}
      (called : reader.next = .ok (event, next))
      (pulls : request.pulledBy id reply =
        [⟨event, next.failed, next.stats⟩])
      (stays : request.follow id = some id)
      (held : after id = some (.live next))
  | kept {other : ObjectId} (pulls : request.pulledBy id reply = [])
      (moves : request.follow id = some other)
      (held : after other = some (.live reader))
  | gone (pulls : request.pulledBy id reply = [])
      (moves : request.follow id = none)

variable {process : Process} {holdings after : Holdings} {platform : Platform}
  {width : Nat} {id : ObjectId} {reader : MmapDbnReader} {reply : Reply}

theorem Follows.untouched {request : Request}
    (pulls : request.pulledBy id reply = [])
    (stays : request.follow id = some id)
    (live : holdings id = some (.live reader)) {target : ObjectId}
    {holding : Option Holding} (differ : id ≠ target) :
    Follows reader id request reply (Function.update holdings target holding) :=
  .kept pulls stays (by rw [Function.update_of_ne differ, live])

/-- A move takes the reader of its source along and leaves every other. -/
theorem Follows.of_move {request : Request} {target source : ObjectId}
    (pulls : request.pulledBy id reply = [])
    (live : holdings id = some (.live reader)) (differ : target ≠ source)
    (taken : source = id → request.follow id = some target)
    (left : source ≠ id → target ≠ id → request.follow id = some id)
    (replaced : source ≠ id → target = id → request.follow id = none) :
    Follows reader id request reply (Function.update
      (Function.update holdings target (holdings source)) source
      (some .movedFrom)) := by
  by_cases isSource : source = id
  · subst source
    apply Follows.kept pulls (taken rfl)
    rw [Function.update_of_ne differ, Function.update_self, live]
  · by_cases isTarget : target = id
    · exact .gone pulls (replaced isSource isTarget)
    · apply Follows.kept pulls (left isSource isTarget)
      rw [Function.update_of_ne (Ne.symm isSource),
        Function.update_of_ne (Ne.symm isTarget), live]

/-- Every permitted request does one of these to a live reader. -/
theorem Represents.follows (represents : Represents process holdings)
    {request : Request} (permitted : process.Permits width request)
    (specified : Holdings.answer platform width holdings request =
      .ok (reply, after))
    (live : holdings id = some (.live reader)) :
    Follows reader id request reply after := by
  have occupied : ∀ target, process.readers target = none → id ≠ target := by
    rintro target vacant rfl
    rw [represents.vacant vacant] at live
    cases live
  cases request with
  | construct target file answers =>
      have differ := occupied target permitted.1
      simp only [Holdings.answer] at specified
      split at specified
      next =>
        cases specified
        exact .kept rfl rfl live
      next =>
        split at specified
        next =>
          cases specified
          exact .untouched rfl rfl live differ
        next =>
          cases specified
          exact .kept rfl rfl live
        next => cases specified
        next => cases specified
  | next target =>
      simp only [Holdings.answer] at specified
      split at specified
      next other held =>
        obtain ⟨⟨event, next⟩, called, result⟩ := Checked.bind_eq_ok.mp specified
        cases result
        by_cases same : target = id
        · subst target
          rw [live] at held
          cases held
          exact .pulled called (if_pos rfl) rfl (Function.update_self ..)
        · apply Follows.untouched _ rfl live (Ne.symm same)
          simp [Request.pulledBy, same]
      next =>
        cases specified
        exact .kept rfl rfl live
  | moveConstruct target source =>
      cases specified
      have differ := occupied target permitted.1
      by_cases isSource : source = id
      · subst source
        apply Follows.of_move rfl live (Ne.symm differ) <;> simp [Request.follow]
      · have apart : target ≠ source := by
          rintro rfl
          have lives := permitted.2
          rw [permitted.1] at lives
          cases lives
        apply Follows.of_move rfl live apart
        · exact fun same => (isSource same).elim
        · simp [Request.follow, isSource]
        · exact fun _ same => (differ same.symm).elim
  | moveAssign target source =>
      by_cases self : target = source
      · simp only [Holdings.answer, if_pos self] at specified
        cases specified
        apply Follows.kept rfl _ live
        simp [Request.follow, self]
      · simp only [Holdings.answer, if_neg self] at specified
        cases specified
        apply Follows.of_move rfl live self
        · intro isSource
          rw [Request.follow, if_neg self, if_pos isSource]
        · intro notSource notTarget
          rw [Request.follow, if_neg self, if_neg notSource, if_neg notTarget]
        · intro notSource isTarget
          rw [Request.follow, if_neg self, if_neg notSource, if_pos isTarget]
  | destroy target =>
      cases specified
      by_cases same : target = id
      · apply Follows.gone rfl
        simp [Request.follow, same]
      · apply Follows.untouched rfl _ live (Ne.symm same)
        simp [Request.follow, same]
  | elsewhere memory =>
      cases specified
      exact .kept rfl rfl live

variable {requests : List Request} {replies : List Reply} {last : Process}

/-- What requests pull from a live reader is what the reader alone hands back. -/
theorem Represents.observed (represents : Represents process holdings)
    (ran : Service.Runs (answer platform width) (Permits width) process requests
      replies last) (live : holdings id = some (.live reader)) :
    ∃ after, (Reader.mapped reader).calls
        (observed (some id) requests replies).length =
      .ok (observed (some id) requests replies, after) := by
  induction ran generalizing holdings id reader with
  | nil process => exact ⟨.mapped reader, rfl⟩
  | @cons process middle last request requests reply replies permitted answered
      later ih =>
      obtain ⟨after, specified, kept⟩ :=
        (simulates platform width).answered represents permitted answered
      cases represents.follows permitted specified live with
      | @pulled event next called pulls stays held =>
          obtain ⟨stop, rest⟩ := ih kept held
          have first : (Reader.mapped reader).next = .ok (event, .mapped next) := by
            rw [Reader.next, called]
            rfl
          refine ⟨stop, ?_⟩
          rw [TradingSim.observed, pulls, stays]
          exact Iterator.calls_cons first rest
      | @kept other pulls moves held =>
          obtain ⟨stop, rest⟩ := ih kept held
          refine ⟨stop, ?_⟩
          rw [TradingSim.observed, pulls, moves]
          exact rest
      | gone pulls moves =>
          refine ⟨.mapped reader, ?_⟩
          rw [TradingSim.observed, pulls, moves, observed_none]
          rfl

/-- A constructor that succeeds leaves a reader of its file under its name. -/
theorem Represents.opened (represents : Represents process holdings)
    {target : ObjectId} {file : Bytes} {answers : Answers} {version : UInt8}
    {next : Process}
    (permitted : process.Permits width (.construct target file answers))
    (opened : answer platform width process (.construct target file answers) =
      .ok (.opened version, next)) :
    ∃ reader after, MmapDbnReader.construct width file = .ok reader ∧
      reader.version = version ∧ Represents next after ∧
      after target = some (.live reader) := by
  obtain ⟨after, specified, kept⟩ :=
    (simulates platform width).answered represents permitted opened
  simp only [Holdings.answer] at specified
  split at specified
  next => cases specified
  next =>
    split at specified
    next reader built =>
      cases specified
      exact ⟨reader, _, built, rfl, kept, Function.update_self ..⟩
    next => cases specified
    next => cases specified
    next => cases specified

/-- A reader is undisturbed.  Whatever a process went through before a reader is
opened over a file, and whatever is asked of it afterwards, what is pulled from
that reader, under the names it moves through and until it is destroyed, is the
replay of the record region of its file. -/
theorem reader_undisturbed (wider : 32 < width) {before : List Request}
    {answered : List Reply}
    (ran : Service.Runs (answer platform width) (Permits width) {} before answered
      process)
    {target : ObjectId} {file : Bytes} {answers : Answers} {version : UInt8}
    {next : Process}
    (permitted : process.Permits width (.construct target file answers))
    (opened : answer platform width process (.construct target file answers) =
      .ok (.opened version, next))
    (later : Service.Runs (answer platform width) (Permits width) next requests
      replies last) :
    parsePrologue file = .ok version ∧
    ∃ after, Iterator.calls (Iterator.total Replay.next :
        Iterator PrologueError Replay Event) Replay.observe
        (observed (some target) requests replies).length
        (.ofStream (recordRegion file) false {}) =
      .ok (observed (some target) requests replies, after) := by
  obtain ⟨holdings, _, represents⟩ := represents_of_runs ran
  obtain ⟨reader, after, built, rfl, kept, live⟩ :=
    represents.opened permitted opened
  obtain ⟨accepted, fresh⟩ :=
    MmapDbnReader.construct_returned_of_wider wider built
  refine ⟨accepted, ?_⟩
  have valid : (Reader.mapped reader).Valid := fresh.valid
  obtain ⟨stop, called⟩ := kept.observed later live
  obtain ⟨observations, stopped, calls, _, replayed⟩ :=
    (Reader.refines _ _).calls Reader.observe_replay
      (observed (some target) requests replies).length valid.running
  have start : (Reader.mapped reader).replay =
      .ofStream (recordRegion file) false {} := by
    rw [Reader.replay, ← fresh.unread, ← fresh.failed, ← fresh.stats]
    rfl
  rw [start] at replayed
  rw [Reader.calls, calls] at called
  cases called
  exact ⟨_, replayed⟩

/-- In the sample the one record is skipped, before the move and after it. -/
theorem reader_undisturbed_sample : ∃ after,
    Iterator.calls (Iterator.total Replay.next :
        Iterator PrologueError Replay Event) Replay.observe 2
        (.ofStream (recordRegion Setup.oneFrameFile) false {}) =
      .ok ([⟨none, false, { records := 1, skippedNonMbo := 1 }⟩,
        ⟨none, false, { records := 1, skippedNonMbo := 1 }⟩], after) := by
  obtain ⟨last, ran⟩ := sample_runs
  cases ran with
  | cons permitted opened later =>
      exact (reader_undisturbed (by decide) (.nil _) permitted opened later).2

end Process

end TradingSim
