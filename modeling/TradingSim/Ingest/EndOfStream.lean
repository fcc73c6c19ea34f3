import TradingSim.Ingest.Accounting

/-!
# The end of the stream

Neither reader looks at its failure flag before it frames, and neither remembers
that it has stopped.  That it stays stopped follows from the bytes: what ended the
stream is still in front of the reader, and the reads that could change it have
run dry.
-/

namespace TradingSim

open Foundation

/-! ## The end of a replay -/

namespace Replay

variable {replay after : Replay}

@[simp] theorem failedAt_failedAt (tail : Bytes) (failed : Bool) :
    failedAt tail (failedAt tail failed) = failedAt tail failed := by
  simp [failedAt]

/-- Nothing is left but the tail, and the flag says what it is. -/
structure Ended (replay : Replay) : Prop where
  framesEq : replay.frames = []
  failedEq : failedAt replay.tail replay.failed = replay.failed

theorem Ended.next_eq (ended : replay.Ended) : replay.next = (none, replay) := by
  obtain ⟨frames, tail, failed, stats⟩ := replay
  have nothing : frames = [] := ended.framesEq
  have settled : failedAt tail failed = failed := ended.failedEq
  rw [next, nothing, nextFrom, settled]

/-- A replay without an event to hand back has ended. -/
theorem ended_of_stop
    (framed : ∀ record ∈ replay.frames, dbnFramer.IsFrame record)
    (stopped : replay.next = (none, after)) : after.Ended := by
  obtain ⟨used, consumed, _, ended⟩ := next_consumed replay framed
  rw [stopped] at consumed ended
  obtain ⟨nothing, failed⟩ := ended rfl
  exact {
    framesEq := nothing
    failedEq := by rw [failed, consumed.tailEq, failedAt_failedAt] }

/-- A failure is a corruption with no frame left in front of it. -/
def FailsAtCorruption (replay : Replay) : Prop :=
  replay.failed = true →
    replay.frames = [] ∧ frameVerdict replay.tail = .corrupt

theorem FailsAtCorruption.running {event : Event}
    (atCorruption : replay.FailsAtCorruption)
    (framed : ∀ record ∈ replay.frames, dbnFramer.IsFrame record)
    (called : replay.next = (some event, after)) : replay.failed = false := by
  obtain ⟨used, consumed, _, _⟩ := next_consumed replay framed
  rw [called] at consumed
  by_contra fails
  rw [Bool.not_eq_false] at fails
  have nothing := consumed.framesEq
  rw [(atCorruption fails).1] at nothing
  have unused := (List.append_eq_nil_iff.mp nothing.symm).1
  have events := consumed.eventsEq
  rw [unused] at events
  cases events

/-- A call keeps that, keeps a failure, and hands back events only while there
is none. -/
theorem FailsAtCorruption.next {event : Option Event}
    (atCorruption : replay.FailsAtCorruption)
    (framed : ∀ record ∈ replay.frames, dbnFramer.IsFrame record)
    (called : replay.next = (event, after)) :
    after.FailsAtCorruption ∧ (replay.failed = true → after.failed = true) ∧
      (event.isSome → after.failed = false) := by
  obtain ⟨used, consumed, more, ended⟩ := next_consumed replay framed
  rw [called] at consumed more ended
  cases event with
  | none =>
      obtain ⟨nothing, failed⟩ := ended rfl
      rw [failedAt] at failed
      refine ⟨?_, ?_, by simp⟩
      · intro fails
        refine ⟨nothing, ?_⟩
        rw [consumed.tailEq]
        rw [failed, Bool.or_eq_true, decide_eq_true_eq] at fails
        rcases fails with before | corrupt
        · exact (atCorruption before).2
        · exact corrupt
      · intro fails
        rw [failed, fails, Bool.true_or]
  | some event =>
      have running := atCorruption.running framed called
      have same : after.failed = false := (more rfl).trans running
      refine ⟨?_, ?_, fun _ => same⟩
      · intro fails
        exact absurd (same.symm.trans fails) Bool.false_ne_true
      · intro fails
        exact absurd (running.symm.trans fails) Bool.false_ne_true

end Replay

namespace Reader

variable {version : UInt8} {lost : Bytes} {reader : Reader}

/-! ## Runs up to the end -/

/-- Failures along any number of calls: they are corruptions, and there is none
while every call hands back an event. -/
theorem Running.failsAtCorruption {count : Nat} {last : Reader}
    {observations : List Observation} (running : Running version lost reader)
    (atCorruption : reader.replay.FailsAtCorruption)
    (called : reader.calls count = .ok (observations, last)) :
    last.replay.FailsAtCorruption ∧
      (reader.failed = false →
        (∀ observation ∈ observations, observation.event.isSome) →
        last.failed = false) := by
  induction count generalizing reader observations with
  | zero =>
      cases called
      exact ⟨atCorruption, fun clean _ => clean⟩
  | succ count ih =>
      obtain ⟨event, middle, rest, first, others, rfl⟩ :=
        Iterator.calls_uncons called
      obtain ⟨kept, answered⟩ := running.next first
      obtain ⟨stays, _, clean⟩ := atCorruption.next
        (Replay.framed_ofStream _ _ _) answered
      obtain ⟨later, cleanLater⟩ := ih kept stays others
      refine ⟨later, ?_⟩
      intro _ all
      have some : event.isSome := all (observe event middle) (by simp)
      apply cleanLater (clean some)
      intro observation member
      exact all observation (List.mem_cons_of_mem _ member)

/-- Whatever was consumed of the record region are its first frames. -/
theorem Accounts.beginning {file : Bytes} {used : List Bytes}
    (accounts : Accounts file reader used) :
    dbnFramer.frames (recordRegion file) =
      used ++ dbnFramer.frames (reader.unread ++ reader.lost) := by
  rw [accounts.region, List.append_assoc, held_append_pending,
    Framer.frames_flatten_append accounts.framed]

/-- A failed reader has consumed every frame in front of the corruption. -/
theorem Accounts.of_failed {file : Bytes} {used : List Bytes}
    (accounts : Accounts file reader used)
    (atCorruption : reader.replay.FailsAtCorruption)
    (fails : reader.failed = true) :
    used = dbnFramer.frames (recordRegion file) ∧
      frameVerdict (reader.held ++ reader.pending) = .corrupt := by
  obtain ⟨nothing, corrupt⟩ := atCorruption fails
  have frames : dbnFramer.frames reader.unread = [] := nothing
  have corrupt : dbnFramer.verdict (dbnFramer.tail reader.unread) = .corrupt :=
    corrupt
  have unread : dbnFramer.tail reader.unread = reader.unread := by
    have whole := Framer.flatten_frames_append_tail dbnFramer reader.unread
    rw [frames, List.flatten_nil, List.nil_append] at whole
    exact whole
  constructor
  · rw [accounts.beginning, Framer.frames_extend_of_corrupt corrupt, frames,
      List.append_nil]
  · rw [unread] at corrupt
    rw [held_append_pending]
    exact dbnFramer.corrupt_append corrupt _

/-! ## Behind the end -/

/-- However often it is called, a reader hands back no event, and nothing a
consumer can see of it changes, nor the place it has got to in its file. -/
def Absorbing (reader : Reader) : Prop :=
  ∀ count, ∃ last,
    reader.calls count =
      .ok (List.replicate count (observe none reader), last) ∧
    last.version = reader.version ∧ last.failed = reader.failed ∧
    last.stats = reader.stats ∧
    last.held ++ last.pending = reader.held ++ reader.pending

/-- A reader in the middle of an ended replay is absorbing. -/
theorem Running.absorbing (running : Running version lost reader)
    (ended : reader.replay.Ended) : reader.Absorbing := by
  intro count
  obtain ⟨last, called, kept, same⟩ :=
    (refines version lost).calls_of_fixed observe_replay running ended.next_eq
      count
  have frames : dbnFramer.frames last.unread = dbnFramer.frames reader.unread :=
    congrArg Replay.frames same
  have tail : dbnFramer.tail last.unread = dbnFramer.tail reader.unread :=
    congrArg Replay.tail same
  have unread : last.unread = reader.unread := by
    rw [← Framer.flatten_frames_append_tail dbnFramer last.unread, frames, tail,
      Framer.flatten_frames_append_tail]
  refine ⟨last, called, ?_, congrArg Replay.failed same,
    congrArg Replay.stats same, ?_⟩
  · rw [kept.versionEq, running.versionEq]
  · rw [held_append_pending, held_append_pending, unread, kept.lostEq,
      running.lostEq]

/-- After any number of calls: what was consumed are frames from the beginning of
the record region, all of them when the reader has failed, and then it is in front
of a corruption; while every call hands back an event there is no failure; and a
further call never takes a failure back and, if it hands back no event, is the
last to change anything. -/
theorem end_absorbing {setup : Setup} {file : Bytes}
    (opens : setup.Opens file reader) (count : Nat) :
    ∃ observations middle used,
      reader.calls count = .ok (observations, middle) ∧
      ((∀ observation ∈ observations, observation.event.isSome) →
        middle.failed = false) ∧
      Accounts file middle used ∧
      used <+: dbnFramer.frames (recordRegion file) ∧
      (middle.failed = true →
        used = dbnFramer.frames (recordRegion file) ∧
        frameVerdict (middle.held ++ middle.pending) = .corrupt) ∧
      ∀ event after, middle.next = .ok (event, after) →
        (middle.failed = true → after.failed = true) ∧
        (event = none → after.Absorbing) := by
  have opened := opens.opened
  have running := opened.valid.running
  have atCorruption : reader.replay.FailsAtCorruption := by
    intro fails
    have clean : reader.replay.failed = false := opened.failed
    rw [clean] at fails
    cases fails
  obtain ⟨observations, middle, called, kept, _⟩ :=
    (refines reader.version reader.lost).calls observe_replay count running
  obtain ⟨used, accounts, _⟩ := (accounts_opened opens).calls running called
  rw [List.nil_append] at accounts
  obtain ⟨stays, clean⟩ := running.failsAtCorruption atCorruption called
  refine ⟨observations, middle, used, called, clean opened.failed, accounts,
    ?_, accounts.of_failed stays, ?_⟩
  · rw [accounts.beginning]
    exact List.prefix_append _ _
  · intro event after next
    have framed := Replay.framed_ofStream middle.unread middle.failed middle.stats
    obtain ⟨afterKept, answered⟩ := kept.next next
    refine ⟨(stays.next framed answered).2.1, ?_⟩
    rintro rfl
    exact afterKept.absorbing (Replay.ended_of_stop framed answered)

/-- The sample file, which ends in a corruption, streamed a few bytes at a time. -/
theorem end_absorbing_sample :
    ∃ reader, (Setup.streaming 5 (shortReads fun call => call)).Opens sampleFile
        reader ∧
      ∃ observations middle used,
        reader.calls 3 = .ok (observations, middle) ∧
        ((∀ observation ∈ observations, observation.event.isSome) →
          middle.failed = false) ∧
        Accounts sampleFile middle used ∧
        used <+: dbnFramer.frames (recordRegion sampleFile) ∧
        (middle.failed = true →
          used = dbnFramer.frames (recordRegion sampleFile) ∧
          frameVerdict (middle.held ++ middle.pending) = .corrupt) ∧
        ∀ event after, middle.next = .ok (event, after) →
          (middle.failed = true → after.failed = true) ∧
          (event = none → after.Absorbing) := by
  have clean : (Setup.streaming 5 (shortReads fun call => call)).Clean :=
    ⟨by decide, _, rfl⟩
  obtain ⟨reader, opens⟩ := clean.opens_sampleFile
  exact ⟨reader, opens, end_absorbing opens 3⟩

end Reader

end TradingSim
