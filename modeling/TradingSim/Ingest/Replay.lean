import TradingSim.Foundation.Iterator
import TradingSim.Ingest.Route

/-!
# Replaying a record stream

What a reader is for, without buffers, cursors or reads: the frames of the
record stream one after the other, each counted and emitted or skipped, and then
the end of the stream, which is a failure exactly when the tail is a corruption.
Both readers are shown to be this replay.
-/

namespace TradingSim

open Foundation

/-- A record stream in the middle of being replayed. -/
structure Replay where
  frames : List Bytes
  tail : Bytes
  failed : Bool
  stats : IngestStats
  deriving DecidableEq, Repr

/-- What a consumer can see of a reader after one call of `next`. -/
structure Observation where
  event : Option Event
  failed : Bool
  stats : IngestStats
  deriving DecidableEq, Repr

namespace Replay

/-- The replay of a stream not yet framed. -/
def ofStream (unread : Bytes) (failed : Bool) (stats : IngestStats) : Replay where
  frames := dbnFramer.frames unread
  tail := dbnFramer.tail unread
  failed := failed
  stats := stats

/-- The failure flag at the end of a stream with a given tail. -/
def failedAt (tail : Bytes) (failed : Bool) : Bool :=
  failed || decide (frameVerdict tail = .corrupt)

/-- Consume frames up to the first that is emitted. -/
def nextFrom (tail : Bytes) (failed : Bool) :
    List Bytes → IngestStats → Option Event × Replay
  | [], stats => (none, ⟨[], tail, failedAt tail failed, stats⟩)
  | record :: rest, stats =>
      match tally stats (route record) with
      | (some event, stats) => (some event, ⟨rest, tail, failed, stats⟩)
      | (none, stats) => nextFrom tail failed rest stats

def next (replay : Replay) : Option Event × Replay :=
  nextFrom replay.tail replay.failed replay.frames replay.stats

/-- What a call comes to once its first frame is counted. -/
def resume (event : Option Event) (replay : Replay) : Option Event × Replay :=
  match event with
  | some event => (some event, replay)
  | none => replay.next

/-- What a consumer sees of a call. -/
def observe (event : Option Event) (replay : Replay) : Observation :=
  ⟨event, replay.failed, replay.stats⟩

theorem next_of_isTail {unread : Bytes} (isTail : dbnFramer.IsTail unread)
    (failed : Bool) (stats : IngestStats) :
    (ofStream unread failed stats).next =
      (none, ofStream unread (failedAt unread failed) stats) := by
  simp only [next, ofStream, Framer.frames_of_isTail isTail,
    Framer.tail_of_isTail isTail, nextFrom]

theorem next_of_frame {unread : Bytes} {size : Nat}
    (verdict : frameVerdict unread = .frame size) (failed : Bool)
    (stats : IngestStats) :
    (ofStream unread failed stats).next =
      resume (tally stats (route (unread.take size))).1
        (ofStream (unread.drop size) failed
          (tally stats (route (unread.take size))).2) := by
  have framed : dbnFramer.IsFrame (unread.take size) :=
    Framer.isFrame_take verdict
  have frames := Framer.frames_append framed (unread.drop size)
  have tail := Framer.tail_append framed (unread.drop size)
  rw [List.take_append_drop] at frames tail
  simp only [next, ofStream, frames, tail, nextFrom]
  cases tally stats (route (unread.take size)) with
  | mk event stats => cases event <;> rfl

/-! ## Counting frames -/

/-- The counters after a list of frames. -/
def count (stats : IngestStats) (frames : List Bytes) : IngestStats :=
  frames.foldl (fun stats record => (tally stats (route record)).2) stats

@[simp] theorem count_nil (stats : IngestStats) : count stats [] = stats := rfl

theorem count_cons (stats : IngestStats) (record : Bytes) (rest : List Bytes) :
    count stats (record :: rest) =
      count (tally stats (route record)).2 rest := rfl

theorem count_append (stats : IngestStats) (left right : List Bytes) :
    count stats (left ++ right) = count (count stats left) right := by
  simp [count]

/-- What calls that hand back `events` consume: a stretch of frames that
contributes exactly those events. -/
structure Consumed (before : Replay) (events : List Event) (used : List Bytes)
    (after : Replay) : Prop where
  framesEq : before.frames = used ++ after.frames
  tailEq : after.tail = before.tail
  statsEq : after.stats = count before.stats used
  eventsEq : used.filterMap emitted = events

theorem Consumed.refl (replay : Replay) : Consumed replay [] [] replay where
  framesEq := rfl
  tailEq := rfl
  statsEq := rfl
  eventsEq := rfl

theorem Consumed.trans {before middle after : Replay}
    {events later : List Event} {used more : List Bytes}
    (first : Consumed before events used middle)
    (second : Consumed middle later more after) :
    Consumed before (events ++ later) (used ++ more) after where
  framesEq := by rw [first.framesEq, second.framesEq, List.append_assoc]
  tailEq := second.tailEq.trans first.tailEq
  statsEq := by rw [second.statsEq, first.statsEq, count_append]
  eventsEq := by rw [List.filterMap_append, first.eventsEq, second.eventsEq]

/-- One call consumes up to the first frame that is emitted, and everything
there is when nothing is emitted. -/
theorem next_consumed (replay : Replay)
    (framed : ∀ record ∈ replay.frames, dbnFramer.IsFrame record) :
    ∃ used, Consumed replay replay.next.1.toList used replay.next.2 ∧
      (replay.next.1.isSome → replay.next.2.failed = replay.failed) ∧
      (replay.next.1 = none → replay.next.2.frames = [] ∧
        replay.next.2.failed = failedAt replay.tail replay.failed) := by
  obtain ⟨frames, tail, failed, stats⟩ := replay
  simp only [next] at framed ⊢
  induction frames generalizing stats with
  | nil =>
      refine ⟨[], ?_, by simp [nextFrom], fun _ => ⟨rfl, rfl⟩⟩
      exact {
        framesEq := rfl
        tailEq := rfl
        statsEq := rfl
        eventsEq := rfl }
  | cons record rest ih =>
      have long := frame_length_ge_two (framed record (by simp))
      have contributes := tally_fst long stats
      cases counted : tally stats (route record) with
      | mk event stats' =>
          rw [counted] at contributes
          cases event with
          | some event =>
              have result : nextFrom tail failed (record :: rest) stats =
                  (some event, ⟨rest, tail, failed, stats'⟩) := by
                simp [nextFrom, counted]
              rw [result]
              refine ⟨[record], ?_, fun _ => rfl, by simp⟩
              exact {
                framesEq := rfl
                tailEq := rfl
                statsEq := by simp [count_cons, counted]
                eventsEq := by simp [← contributes] }
          | none =>
              have result : nextFrom tail failed (record :: rest) stats =
                  nextFrom tail failed rest stats' := by
                simp [nextFrom, counted]
              rw [result]
              obtain ⟨used, consumed, more, ended⟩ := ih stats'
                fun other member => framed other (by simp [member])
              refine ⟨record :: used, ?_, more, ended⟩
              exact {
                framesEq := by simpa using consumed.framesEq
                tailEq := consumed.tailEq
                statsEq := by rw [count_cons, counted, consumed.statsEq]
                eventsEq := by simpa [← contributes] using consumed.eventsEq }

theorem framed_ofStream (unread : Bytes) (failed : Bool) (stats : IngestStats) :
    ∀ record ∈ (ofStream unread failed stats).frames,
      dbnFramer.IsFrame record :=
  fun _ member => Framer.isFrame_of_mem_frames member

/-! ## Runs -/

/-- The replay at the end of its stream. -/
def finished (replay : Replay) : Replay where
  frames := []
  tail := replay.tail
  failed := failedAt replay.tail replay.failed
  stats := count replay.stats replay.frames

/-- Draining a replay hands back the events of its frames, in order, and leaves
nothing but the tail. -/
theorem drains (replay : Replay)
    (framed : ∀ record ∈ replay.frames, dbnFramer.IsFrame record) :
    Iterator.Drains (Iterator.total next : Iterator PrologueError Replay Event)
      replay (replay.frames.filterMap emitted) replay.finished := by
  induction size : replay.frames.length using Nat.strongRecOn
    generalizing replay with
  | _ total ih =>
      obtain ⟨used, consumed, more, ended⟩ := next_consumed replay framed
      have frames := consumed.framesEq
      have events := consumed.eventsEq
      cases called : replay.next with
      | mk event after =>
          simp only [called] at frames events consumed more ended
          cases event with
          | none =>
              obtain ⟨nothing, failed⟩ := ended rfl
              rw [nothing, List.append_nil] at frames
              have last : replay.finished = after := by
                rw [finished, ← failed, frames, ← consumed.statsEq,
                  ← consumed.tailEq, ← nothing]
              rw [frames, events, last]
              exact .finished (by rw [Iterator.total, called])
          | some event =>
              have usedSome : used ≠ [] := by
                rintro rfl
                simp at events
              have fewer : after.frames.length < total := by
                rw [← size, frames, List.length_append]
                have := List.length_pos_iff.mpr usedSome
                omega
              have last : replay.finished = after.finished := by
                rw [finished, finished, frames, count_append, consumed.tailEq,
                  consumed.statsEq, more rfl]
              have rest := ih _ fewer after
                (fun record member => framed record (by simp [frames, member]))
                rfl
              rw [frames, List.filterMap_append, events, last]
              exact .item (by rw [Iterator.total, called]) rest

/-- A reader that refines the replay of a stream hands back the events of the
frames of that stream, in order. -/
theorem drains_of_refines {σ : Type} {reads : Iterator PrologueError σ Event}
    {invariant : σ → Prop} {abstraction : σ → Replay}
    (refines : Iterator.Refines reads next invariant abstraction)
    {reader : σ} (holds : invariant reader) {unread : Bytes} {failed : Bool}
    {stats : IngestStats}
    (stream : abstraction reader = ofStream unread failed stats) :
    ∃ last,
      Iterator.Drains reads reader
        ((dbnFramer.frames unread).filterMap emitted) last ∧
      invariant last ∧ abstraction last = (abstraction reader).finished := by
  apply refines.drains holds
  rw [stream]
  exact drains _ (framed_ofStream unread failed stats)

end Replay

end TradingSim
