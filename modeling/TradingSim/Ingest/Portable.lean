import TradingSim.Ingest.Holdings

/-!
# One process on two systems

The system decides where a mapping is placed, with which handles, and whether a
file can be mapped at all; the rest of memory is anybody's.  Of all this only the
refusals reach a client: two processes that are asked the same, on whichever
platforms, answer alike as long as the same files can be mapped.
-/

namespace TradingSim

open Foundation

/-- Both systems let the constructor have its file, or neither does. -/
def Answers.Alike (platform platform' : Platform) (answers answers' : Answers) :
    Prop :=
  (∃ error, answers.outcome platform = .refused error) ↔
    ∃ error, answers'.outcome platform' = .refused error

/-- The same request of two processes, whatever their systems answer and whatever
they do to the rest of memory. -/
inductive Request.Alike (platform platform' : Platform) :
    Request → Request → Prop where
  | construct (target : ObjectId) (file : Bytes) {answers answers' : Answers}
      (alike : Answers.Alike platform platform' answers answers') :
      Alike platform platform' (.construct target file answers)
        (.construct target file answers')
  | next (target : ObjectId) :
      Alike platform platform' (.next target) (.next target)
  | moveConstruct (target source : ObjectId) :
      Alike platform platform' (.moveConstruct target source)
        (.moveConstruct target source)
  | moveAssign (target source : ObjectId) :
      Alike platform platform' (.moveAssign target source)
        (.moveAssign target source)
  | destroy (target : ObjectId) :
      Alike platform platform' (.destroy target) (.destroy target)
  | elsewhere (memory memory' : Memory) :
      Alike platform platform' (.elsewhere memory) (.elsewhere memory')

/-- The same reply, but for which call of the system failed. -/
inductive Reply.Alike : Reply → Reply → Prop where
  | unmapped (error error' : MapError) : Alike (.unmapped error) (.unmapped error')
  | same (reply : Reply) : Alike reply reply

variable {platform platform' : Platform} {width : Nat}

namespace Holdings

theorem answer_refused {answers : Answers} {error : MapError}
    (refused : answers.outcome platform = .refused error) (target : ObjectId)
    (file : Bytes) (holdings : Holdings) :
    answer platform width holdings (.construct target file answers) =
      .ok (.unmapped error, holdings) := by
  simp only [answer, refused]

theorem answer_granted {answers answers' : Answers}
    (granted : ¬ ∃ error, answers.outcome platform = .refused error)
    (granted' : ¬ ∃ error, answers'.outcome platform' = .refused error)
    (target : ObjectId) (file : Bytes) (holdings : Holdings) :
    answer platform width holdings (.construct target file answers) =
      answer platform' width holdings (.construct target file answers') := by
  cases outcome : answers.outcome platform with
  | refused error => exact (granted ⟨error, outcome⟩).elim
  | empty =>
      cases outcome' : answers'.outcome platform' with
      | refused error => exact (granted' ⟨error, outcome'⟩).elim
      | empty => simp only [answer, outcome, outcome']
      | mapped address size => simp only [answer, outcome, outcome']
  | mapped address size =>
      cases outcome' : answers'.outcome platform' with
      | refused error => exact (granted' ⟨error, outcome'⟩).elim
      | empty => simp only [answer, outcome, outcome']
      | mapped address' size' => simp only [answer, outcome, outcome']

/-- Readers over whole files know nothing of the system but its refusals. -/
theorem answer_agrees (platform platform' : Platform) (width : Nat) :
    Service.Agrees (answer platform width) (answer platform' width) Eq
      (Request.Alike platform platform') Reply.Alike := by
  intro holdings holdings' request request' reply reply' next next' same matched
    answered answered'
  subst same
  have equal : answer platform width holdings request =
      answer platform' width holdings request' →
      reply.Alike reply' ∧ next = next' := by
    intro both
    rw [both, answered'] at answered
    cases answered
    exact ⟨.same _, rfl⟩
  cases matched with
  | @construct target file answers answers' alike =>
      by_cases refused : ∃ error, answers.outcome platform = .refused error
      · obtain ⟨error, refuses⟩ := refused
        obtain ⟨error', refuses'⟩ := alike.mp ⟨error, refuses⟩
        rw [answer_refused refuses] at answered
        rw [answer_refused refuses'] at answered'
        cases answered
        cases answered'
        exact ⟨.unmapped error error', rfl⟩
      · have granted := fun other => refused (alike.mpr other)
        exact equal (answer_granted refused granted target file holdings)
  | next target => exact equal rfl
  | moveConstruct target source => exact equal rfl
  | moveAssign target source => exact equal rfl
  | destroy target => exact equal rfl
  | elsewhere memory memory' => exact equal rfl

end Holdings

namespace Process

/-- Two processes that are asked the same, each on its platform and with whatever
addresses, handles and memory, reply alike as long as the same files can be mapped,
and under each name they hold the same reader. -/
theorem portable {requests requests' : List Request}
    {replies replies' : List Reply} {process process' : Process}
    (alike : List.Forall₂ (Request.Alike platform platform') requests requests')
    (ran : Service.Runs (answer platform width) (Permits width) {} requests replies
      process)
    (ran' : Service.Runs (answer platform' width) (Permits width) {} requests'
      replies' process') :
    List.Forall₂ Reply.Alike replies replies' ∧
    ∃ holdings : Holdings,
      (∀ id, Option.Rel (MmapDbnReader.Object.Holds process.memory)
        (process.readers id) (holdings id)) ∧
      ∀ id, Option.Rel (MmapDbnReader.Object.Holds process'.memory)
        (process'.readers id) (holdings id) := by
  obtain ⟨holdings, specified, represents⟩ := represents_of_runs ran
  obtain ⟨holdings', specified', represents'⟩ := represents_of_runs ran'
  obtain ⟨replied, rfl⟩ := (Holdings.answer_agrees platform platform' width).run
    rfl alike specified specified'
  exact ⟨replied, holdings, represents.held, represents'.held⟩

/-- The sample, asked of a process whose system maps the file elsewhere. -/
def sampleElsewhere : List Request :=
  [.construct 0 Setup.oneFrameFile
      { file := some 1, size := some 12, mapping := some 2, view := some 64 },
    .next 0, .moveConstruct 1 0, .next 1]

theorem sampleElsewhere_runs : ∃ process,
    Service.Runs (answer .windows 64) (Permits 64) {} sampleElsewhere sampleReplies
      process := by
  refine ⟨_, .cons ?_ rfl (.cons ?_ rfl (.cons ?_ rfl (.cons ?_ rfl (.nil _))))⟩
  · refine ⟨rfl, fun _ _ => rfl, by decide, ?_, ?_⟩
    · rintro size ⟨⟩
      rfl
    · simp
  · exact ⟨_, rfl, rfl⟩
  · exact ⟨rfl, rfl⟩
  · exact ⟨_, rfl, rfl⟩

/-- The two samples end with the same readers under the same names. -/
theorem portable_sample : ∃ (process process' : Process) (holdings : Holdings),
    (∀ id, Option.Rel (MmapDbnReader.Object.Holds process.memory)
      (process.readers id) (holdings id)) ∧
    ∀ id, Option.Rel (MmapDbnReader.Object.Holds process'.memory)
      (process'.readers id) (holdings id) := by
  obtain ⟨process, ran⟩ := sample_runs
  obtain ⟨process', ran'⟩ := sampleElsewhere_runs
  have granted : Answers.Alike .posix .windows
      { file := some 3, size := some 12, mapping := none, view := some 16 }
      { file := some 1, size := some 12, mapping := some 2, view := some 64 } := by
    simp [Answers.Alike, Answers.outcome, Answers.outcomePosix,
      Answers.outcomeWindows]
  have alike : List.Forall₂ (Request.Alike .posix .windows) sampleRequests
      sampleElsewhere :=
    .cons (.construct 0 _ granted) <| .cons (.next 0) <|
    .cons (.moveConstruct 1 0) <| .cons (.next 1) .nil
  obtain ⟨_, holdings, held, held'⟩ := portable alike ran ran'
  exact ⟨process, process', holdings, held, held'⟩

end Process

end TradingSim
