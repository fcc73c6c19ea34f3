import TradingSim.Ingest.Construction
import TradingSim.Ingest.MmapDbnReader

/-!
# Either reader

The two readers have one surface: construction over a file, `next`, `version`,
`failed` and `stats`.  A setup says which of them is put over a file and what
its environment does.  Opening a file does what the prologue of the file
demands, and from there on either reader is the replay of the record region.
-/

namespace TradingSim

open Foundation

/-! ## How much budget a constructor is given -/

namespace DbnReader

theorem construct_mono {fuel more chunkSize : Nat} {source : FileByteSource}
    (le : fuel ≤ more)
    (ended : construct fuel source chunkSize ≠ .error .outOfFuel) :
    construct more source chunkSize = construct fuel source chunkSize := by
  simp only [construct, skipPrologue] at ended ⊢
  cases reads : readFully source (List.replicate 8 0) with
  | error failure => rfl
  | ok header =>
      simp only [reads, Checked.ok_bind] at ended ⊢
      split
      next => rfl
      next whole =>
        rw [if_neg whole] at ended
        cases checked : checkHeader header.dst with
        | error failure => rfl
        | ok answer =>
            simp only [checked, Checked.ok_bind] at ended ⊢
            rw [Loop.run_mono le]
            intro spent
            rw [spent] at ended
            exact ended rfl

end DbnReader

/-! ## The common surface -/

inductive Reader where
  | streaming (reader : DbnReader)
  | mapped (reader : MmapDbnReader)

namespace Reader

def next : Iterator PrologueError Reader Event
  | .streaming reader => do
      let (event, reader) ← reader.next
      .ok (event, .streaming reader)
  | .mapped reader => do
      let (event, reader) ← reader.next
      .ok (event, .mapped reader)

def version : Reader → UInt8
  | .streaming reader => reader.version
  | .mapped reader => reader.version

def failed : Reader → Bool
  | .streaming reader => reader.failed
  | .mapped reader => reader.failed

def stats : Reader → IngestStats
  | .streaming reader => reader.stats
  | .mapped reader => reader.stats

/-- What a consumer sees of a call. -/
def observe (event : Option Event) (reader : Reader) : Observation :=
  ⟨event, reader.failed, reader.stats⟩

/-- Call `next` a number of times. -/
def calls (count : Nat) (reader : Reader) :
    Ingest (List Observation × Reader) :=
  Iterator.calls next observe count reader

/-- Call `next` until it has no event to hand back. -/
def Drains : Reader → List Event → Reader → Prop := Iterator.Drains next

/-! ### Where the bytes are -/

/-- Record bytes delivered to the reader and not consumed yet. -/
def held : Reader → Bytes
  | .streaming reader => reader.assembler.unconsumed
  | .mapped _ => []

/-- Record bytes the reader has not looked at yet. -/
def pending : Reader → Bytes
  | .streaming reader => reader.source.rest
  | .mapped reader => reader.unread

/-- Record bytes the reader will still see. -/
def unread : Reader → Bytes
  | .streaming reader => reader.unread
  | .mapped reader => reader.unread

/-- Record bytes the reader will never see. -/
def lost : Reader → Bytes
  | .streaming reader => reader.lost
  | .mapped _ => []

theorem held_append_pending (reader : Reader) :
    reader.held ++ reader.pending = reader.unread ++ reader.lost := by
  cases reader with
  | streaming reader =>
      have whole := reader.source.supply_append_lost reader.scratch.length
      simp only [held, pending, unread, lost, DbnReader.unread, DbnReader.lost,
        List.append_assoc, whole]
  | mapped reader => simp [held, pending, unread, lost]

/-! ### Refinement of the replay -/

/-- The class invariant of either reader. -/
def Valid : Reader → Prop
  | .streaming reader => reader.Valid
  | .mapped reader => reader.Valid

/-- The replay a reader is in the middle of. -/
def replay (reader : Reader) : Replay :=
  .ofStream reader.unread reader.failed reader.stats

theorem observe_replay (event : Option Event) (reader : Reader) :
    observe event reader = Replay.observe event reader.replay := rfl

/-- A reader in the middle of its file: what every call of `next` keeps. -/
structure Running (version : UInt8) (lost : Bytes) (reader : Reader) :
    Prop where
  valid : reader.Valid
  versionEq : reader.version = version
  lostEq : reader.lost = lost

/-- Every call of `next` returns, and returns what the replay does. -/
theorem refines (version : UInt8) (lost : Bytes) :
    Iterator.Refines next Replay.next (Running version lost) replay := by
  intro reader running
  have valid := running.valid
  cases reader with
  | streaming reader =>
      obtain ⟨⟨event, after⟩, called, replays⟩ :=
        DbnReader.next_replays valid
      refine ⟨event, .streaming after, ?_, ?_, replays.replay⟩
      · simp [next, called]
      · exact {
          valid := replays.valid
          versionEq := replays.version.trans running.versionEq
          lostEq := replays.lost.trans running.lostEq }
  | mapped reader =>
      obtain ⟨⟨event, after⟩, called, replays⟩ :=
        MmapDbnReader.next_replays valid
      refine ⟨event, .mapped after, ?_, ?_, replays.replay⟩
      · simp [next, called]
      · exact {
          valid := replays.valid
          versionEq := replays.version.trans running.versionEq
          lostEq := running.lostEq }

variable {version : UInt8} {lost : Bytes} {reader : Reader}

theorem Valid.running (valid : reader.Valid) :
    Running reader.version reader.lost reader where
  valid := valid
  versionEq := rfl
  lostEq := rfl

/-- A call that ended well kept the reader running and did what the replay
does. -/
theorem Running.next {after : Reader} {event : Option Event}
    (running : Running version lost reader)
    (called : reader.next = .ok (event, after)) :
    Running version lost after ∧ reader.replay.next = (event, after.replay) := by
  obtain ⟨item, stop, answers, kept, answered⟩ :=
    refines version lost reader running
  rw [answers] at called
  cases called
  exact ⟨kept, answered⟩

/-- Calls that ended well kept it running too, and together consumed the frames
that contribute the events they hand back. -/
theorem Running.calls {count : Nat} {observations : List Observation}
    {last : Reader} (running : Running version lost reader)
    (called : reader.calls count = .ok (observations, last)) :
    Running version lost last ∧ ∃ used,
      Replay.Consumed reader.replay (observations.filterMap Observation.event)
        used last.replay := by
  induction count generalizing reader observations with
  | zero =>
      cases called
      exact ⟨running, [], .refl _⟩
  | succ count ih =>
      obtain ⟨event, middle, rest, first, others, rfl⟩ :=
        Iterator.calls_uncons called
      obtain ⟨kept, answered⟩ := running.next first
      obtain ⟨stays, more, later⟩ := ih kept others
      obtain ⟨used, consumed, _⟩ := Replay.next_consumed reader.replay
        (Replay.framed_ofStream _ _ _)
      rw [answered] at consumed
      refine ⟨stays, used ++ more, ?_⟩
      have both := consumed.trans later
      cases event with
      | none => simpa [observe] using both
      | some event => simpa [observe] using both

/-- Draining hands back the events of the frames still to be seen, in order. -/
theorem drains_frames (running : Running version lost reader) :
    ∃ last,
      Drains reader ((dbnFramer.frames reader.unread).filterMap emitted) last ∧
      Running version lost last ∧ last.replay = reader.replay.finished := by
  exact Replay.drains_of_refines (refines version lost) running rfl

end Reader

/-! ### Each of the readers by itself -/

/-- The streaming reader is the replay of what it will still see. -/
theorem DbnReader.refines (version : UInt8) :
    Iterator.Refines DbnReader.next Replay.next
      (fun reader => reader.Valid ∧ reader.version = version)
      DbnReader.replay := by
  rintro reader ⟨valid, same⟩
  obtain ⟨⟨event, after⟩, called, replays⟩ := DbnReader.next_replays valid
  exact ⟨event, after, called, ⟨replays.valid, replays.version.trans same⟩,
    replays.replay⟩

theorem MmapDbnReader.refines (version : UInt8) :
    Iterator.Refines MmapDbnReader.next Replay.next
      (fun reader => reader.Valid ∧ reader.version = version)
      MmapDbnReader.replay := by
  rintro reader ⟨valid, same⟩
  obtain ⟨⟨event, after⟩, called, replays⟩ := MmapDbnReader.next_replays valid
  exact ⟨event, after, called, ⟨replays.valid, replays.version.trans same⟩,
    replays.replay⟩

/-! ## Opening a file -/

/-- How a reader is put over a file. -/
inductive Setup where
  | streaming (chunkSize : Nat) (script : Nat → ReadOutcome)
  | mapped

namespace Setup

/-- The constructors, the mapped one with a 64-bit `size_t`. -/
def construct (fuel : Nat) (file : Bytes) : Setup → Ingest Reader
  | .streaming chunkSize script => do
      let reader ← DbnReader.construct fuel (.onFile file script) chunkSize
      .ok (.streaming reader)
  | .mapped => do
      let reader ← MmapDbnReader.construct 64 file
      .ok (.mapped reader)

/-- Construction ends with a reader. -/
def Opens (setup : Setup) (file : Bytes) (reader : Reader) : Prop :=
  ∃ fuel, setup.construct fuel file = .ok reader

/-- Construction ends with an exception. -/
def Throws (setup : Setup) (file : Bytes) (error : PrologueError) : Prop :=
  ∃ fuel, setup.construct fuel file = Ingest.throw error

/-- The scratch buffer has room, and no read fails. -/
def Clean : Setup → Prop
  | .streaming chunkSize script =>
      0 < chunkSize ∧ ∃ schedule, script = shortReads schedule
  | .mapped => True

variable {setup : Setup} {file : Bytes}

theorem construct_mono {fuel more : Nat} (le : fuel ≤ more)
    (ended : setup.construct fuel file ≠ .error .outOfFuel) :
    setup.construct more file = setup.construct fuel file := by
  cases setup with
  | streaming chunkSize script =>
      rw [construct, construct, DbnReader.construct_mono le]
      intro spent
      rw [construct, spent] at ended
      exact ended rfl
  | mapped => rfl

/-- Two budgets that both let construction end let it end alike. -/
theorem construct_unique {fuel fuel' : Nat} {outcome outcome' : Ingest Reader}
    (built : setup.construct fuel file = outcome)
    (built' : setup.construct fuel' file = outcome')
    (ended : outcome ≠ .error .outOfFuel)
    (ended' : outcome' ≠ .error .outOfFuel) : outcome = outcome' := by
  subst built built'
  rcases Nat.le_total fuel fuel' with le | le
  · exact (construct_mono le ended).symm
  · exact construct_mono le ended'

theorem Opens.unique {reader reader' : Reader}
    (opens : setup.Opens file reader) (opens' : setup.Opens file reader') :
    reader = reader' := by
  obtain ⟨fuel, built⟩ := opens
  obtain ⟨fuel', built'⟩ := opens'
  have same := construct_unique built built' (by simp) (by simp)
  exact Except.ok.inj same

theorem Opens.not_throws {reader : Reader} (opens : setup.Opens file reader)
    (error : PrologueError) : ¬ setup.Throws file error := by
  rintro ⟨fuel', threw⟩
  obtain ⟨fuel, built⟩ := opens
  have same := construct_unique built threw (by simp) (by simp [Ingest.throw])
  cases same

/-- A reader as its constructor leaves it. -/
structure Opened (setup : Setup) (file : Bytes) (reader : Reader) : Prop where
  accepted : parsePrologue file = .ok reader.version
  valid : reader.Valid
  region : reader.unread ++ reader.lost = recordRegion file
  held : reader.held = []
  failed : reader.failed = false
  stats : reader.stats = {}
  whole : setup.Clean → reader.lost = []

theorem Opens.opened {reader : Reader} (opens : setup.Opens file reader) :
    Opened setup file reader := by
  obtain ⟨fuel, built⟩ := opens
  cases setup with
  | streaming chunkSize script =>
      obtain ⟨inner, returned, wrapped⟩ := Checked.bind_eq_ok.mp built
      cases wrapped
      obtain ⟨accepted, fresh, clean⟩ :=
        DbnReader.construct_returned returned
      rw [FileByteSource.rest_onFile] at accepted fresh
      have empty : (Reader.streaming inner).held = [] := by
        simp [Reader.held, fresh.assembler]
      exact {
        accepted := accepted
        valid := by
          simp [Reader.Valid, DbnReader.Valid, fresh.assembler,
            RecordAssembler.Valid]
        region := by
          rw [← Reader.held_append_pending, empty]
          exact fresh.rest
        held := empty
        failed := fresh.failed
        stats := fresh.stats
        whole := by
          rintro ⟨room, schedule, rfl⟩
          have faultless := clean (FileByteSource.faultless_onFile file schedule)
          exact faultless.lost_eq (fresh.chunk ▸ room) }
  | mapped =>
      obtain ⟨inner, returned, wrapped⟩ := Checked.bind_eq_ok.mp built
      cases wrapped
      obtain ⟨accepted, fresh⟩ := MmapDbnReader.construct_returned returned
      exact {
        accepted := accepted
        valid := fresh.valid
        region := by simpa [Reader.lost, Reader.unread] using fresh.unread
        held := rfl
        failed := fresh.failed
        stats := fresh.stats
        whole := fun _ => rfl }

/-- Opening a file without device errors ends, as the prologue demands. -/
theorem Clean.outcome (clean : setup.Clean) (file : Bytes) :
    match parsePrologue file with
    | .error error => setup.Throws file error
    | .ok _ => ∃ reader, setup.Opens file reader := by
  cases setup with
  | streaming chunkSize script =>
      obtain ⟨room, schedule, rfl⟩ := clean
      have outcome := DbnReader.construct_faultless
        (FileByteSource.faultless_onFile file schedule) room
        (Nat.lt_succ_self (metadataLen file))
      rw [FileByteSource.rest_onFile] at outcome
      cases parsed : parsePrologue file with
      | error error =>
          simp only [parsed] at outcome
          refine ⟨(metadataLen file).succ, ?_⟩
          rw [construct, outcome]
          rfl
      | ok version =>
          simp only [parsed] at outcome
          obtain ⟨reader, returned⟩ := outcome
          refine ⟨.streaming reader, (metadataLen file).succ, ?_⟩
          rw [construct, returned]
          rfl
  | mapped =>
      have outcome := MmapDbnReader.construct_eq (MmapDbnReader.prologue_lt file)
      cases parsed : parsePrologue file with
      | error error =>
          simp only [parsed] at outcome
          refine ⟨0, ?_⟩
          rw [construct, outcome]
          rfl
      | ok version =>
          simp only [parsed] at outcome
          refine ⟨.mapped { map := file, cursor := 8 + metadataLen file, version },
            0, ?_⟩
          rw [construct, outcome]
          rfl

/-- A clean setup opens exactly the files whose prologue is accepted. -/
theorem Clean.opens_iff (clean : setup.Clean) :
    (∃ reader, setup.Opens file reader) ↔
      ∃ version, parsePrologue file = .ok version := by
  have outcome := clean.outcome file
  constructor
  · rintro ⟨reader, opens⟩
    exact ⟨_, opens.opened.accepted⟩
  · rintro ⟨version, accepted⟩
    simpa only [accepted] using outcome

/-- What a cleanly opened reader is going to replay. -/
theorem Opens.replay_eq (clean : setup.Clean) {reader : Reader}
    (opens : setup.Opens file reader) :
    reader.unread = recordRegion file ∧
      reader.replay = .ofStream (recordRegion file) false {} := by
  have opened := opens.opened
  have unread : reader.unread = recordRegion file := by
    rw [← opened.region, opened.whole clean, List.append_nil]
  exact ⟨unread, by rw [Reader.replay, unread, opened.failed, opened.stats]⟩

/-- A cleanly opened reader drains to the events of the frames of the record
region, has counted exactly those frames, and has failed when their tail is a
corruption. -/
theorem Opens.drains (clean : setup.Clean) {reader : Reader}
    (opens : setup.Opens file reader) :
    ∃ last,
      reader.Drains
        ((dbnFramer.frames (recordRegion file)).filterMap emitted) last ∧
      last.stats = Replay.count {} (dbnFramer.frames (recordRegion file)) ∧
      (last.failed = true ↔
        frameVerdict (dbnFramer.tail (recordRegion file)) = .corrupt) := by
  obtain ⟨unread, replay⟩ := opens.replay_eq clean
  have running := opens.opened.valid.running
  obtain ⟨last, drains, _, finished⟩ := Reader.drains_frames running
  rw [unread] at drains
  rw [replay] at finished
  have stats : last.stats = last.replay.stats := rfl
  have failed : last.failed = last.replay.failed := rfl
  refine ⟨last, drains, ?_, ?_⟩
  · rw [stats, finished]
    rfl
  · rw [failed, finished]
    simp only [Replay.finished, Replay.failedAt, Replay.ofStream,
      Bool.false_or]
    exact decide_eq_true_iff

end Setup

/-! ## Small files -/

/-- A file with one frame and no metadata. -/
def Setup.oneFrameFile : Bytes :=
  [0x44, 0x42, 0x4E, 1, 0, 0, 0, 0, 1, 0x20, 0, 0]

/-- A market-by-order record that adds a bid. -/
def sampleRecord : Bytes :=
  [14, 0xA0, 1, 0, 7, 0, 0, 0] ++ List.replicate 24 3 ++
    [5, 0, 0, 0, 128, 0, 0x41, 0x42] ++ List.replicate 16 2

/-- Two metadata bytes, a market-by-order record, a record of another type, the
market-by-order record with a bad side, and a corruption. -/
def sampleFile : Bytes :=
  [0x44, 0x42, 0x4E, 1, 2, 0, 0, 0, 9, 9] ++ sampleRecord ++ [1, 0x20, 0, 0] ++
    sampleRecord.set 39 0 ++ [0, 0xA0]

theorem parsePrologue_sampleFile : parsePrologue sampleFile = .ok 1 := by
  decide +kernel

theorem Setup.Clean.opens_sampleFile {setup : Setup} (clean : setup.Clean) :
    ∃ reader, setup.Opens sampleFile reader :=
  clean.opens_iff.mpr ⟨1, parsePrologue_sampleFile⟩

end TradingSim
