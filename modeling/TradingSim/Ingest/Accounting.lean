import TradingSim.Ingest.Reader

/-!
# The ingest counters

The counters of a reader are machine words, bumped once for every frame the
reader's loop consumes.  Since a frame is at least four bytes long, no counter
ever wraps, and after any number of calls the counters are the exact account of
the frames consumed so far.
-/

namespace TradingSim

open Foundation

namespace IngestStats

/-- No counter of the first exceeds that of the second. -/
instance : LE IngestStats where
  le earlier later :=
    earlier.records ≤ later.records ∧ earlier.events ≤ later.events ∧
      earlier.skippedNonMbo ≤ later.skippedNonMbo ∧
      earlier.skippedMalformed ≤ later.skippedMalformed

end IngestStats

/-- How many of some records are routed in a given way. -/
def routedAs (outcome : Routed) (records : List Bytes) : Nat :=
  records.countP fun record => decide (routeRecord record = .ok outcome)

@[simp] theorem routedAs_nil (outcome : Routed) : routedAs outcome [] = 0 := rfl

theorem routedAs_append (outcome : Routed) (left right : List Bytes) :
    routedAs outcome (left ++ right) =
      routedAs outcome left + routedAs outcome right :=
  List.countP_append

theorem routedAs_cons {record : Bytes} (framed : 2 ≤ record.length)
    (outcome : Routed) (rest : List Bytes) :
    routedAs outcome (record :: rest) =
      routedAs outcome rest + if route record = outcome then 1 else 0 := by
  simp [routedAs, List.countP_cons, routeRecord_eq framed]

/-- Every record is routed in one of three ways. -/
theorem length_eq_routed {records : List Bytes}
    (framed : ∀ record ∈ records, dbnFramer.IsFrame record) :
    records.length = (records.filterMap emitted).length +
      routedAs .skipNonMbo records + routedAs .skipMalformed records := by
  induction records with
  | nil => rfl
  | cons record rest ih =>
      have first := frame_length_ge_two (framed record (by simp))
      have others := ih fun other member => framed other (by simp [member])
      rw [routedAs_cons first, routedAs_cons first, List.filterMap_cons,
        emitted_eq first, List.length_cons, others]
      cases route record with
      | emit event =>
          simp only [List.length_cons, reduceCtorEq, if_false]
          omega
      | skipNonMbo =>
          simp only [reduceCtorEq, if_true, if_false]
          omega
      | skipMalformed =>
          simp only [reduceCtorEq, if_true, if_false]
          omega

/-! ## Counting in machine words -/

namespace Replay

/-- The counters a list of records comes to. -/
def account (records : List Bytes) : IngestStats where
  records := .ofNat records.length
  events := .ofNat (records.filterMap emitted).length
  skippedNonMbo := .ofNat (routedAs .skipNonMbo records)
  skippedMalformed := .ofNat (routedAs .skipMalformed records)

theorem account_concat {record : Bytes} (framed : 2 ≤ record.length)
    (records : List Bytes) :
    account (records ++ [record]) = (tally (account records) (route record)).2 := by
  have classes : ∀ outcome, routedAs outcome (records ++ [record]) =
      routedAs outcome records + if route record = outcome then 1 else 0 := by
    intro outcome
    rw [routedAs_append, routedAs_cons framed, routedAs_nil, Nat.zero_add]
  have events := emitted_eq framed
  simp only [account, classes, List.filterMap_append, List.length_append,
    List.length_singleton, UInt64.ofNat_add]
  cases routed : route record with
  | emit event =>
      simp [tally, events, routed]
  | skipNonMbo =>
      simp [tally, events, routed]
  | skipMalformed =>
      simp [tally, events, routed]

/-- Counting from nothing is accounting. -/
theorem count_eq_account {records : List Bytes}
    (framed : ∀ record ∈ records, dbnFramer.IsFrame record) :
    count {} records = account records := by
  induction records using List.reverseRecOn with
  | nil => rfl
  | append_singleton records record ih =>
      have last := frame_length_ge_two (framed record (by simp))
      have others := ih fun other member => framed other (by simp [member])
      rw [count_append, others, account_concat last]
      rfl

/-- Counters that have room are the numbers they count. -/
structure Exact (stats : IngestStats) (frames : List Bytes) : Prop where
  records : stats.records.toNat = frames.length
  events : stats.events.toNat = (frames.filterMap emitted).length
  skippedNonMbo : stats.skippedNonMbo.toNat = routedAs .skipNonMbo frames
  skippedMalformed :
    stats.skippedMalformed.toNat = routedAs .skipMalformed frames

theorem exact_count {frames : List Bytes}
    (framed : ∀ record ∈ frames, dbnFramer.IsFrame record)
    (room : frames.length < UInt64.size) : Exact (count {} frames) frames := by
  have classes := length_eq_routed framed
  rw [count_eq_account framed]
  exact {
    records := UInt64.toNat_ofNat_of_lt' room
    events := UInt64.toNat_ofNat_of_lt' (by omega)
    skippedNonMbo := UInt64.toNat_ofNat_of_lt' (by omega)
    skippedMalformed := UInt64.toNat_ofNat_of_lt' (by omega) }

/-- More frames never have a smaller account. -/
theorem Exact.le {earlier later : IngestStats} {frames more : List Bytes}
    (first : Exact earlier frames) (second : Exact later (frames ++ more)) :
    earlier ≤ later := by
  have events := second.events
  have skippedNonMbo := second.skippedNonMbo
  have skippedMalformed := second.skippedMalformed
  rw [List.filterMap_append, List.length_append] at events
  rw [routedAs_append] at skippedNonMbo skippedMalformed
  refine ⟨?_, ?_, ?_, ?_⟩
  · rw [UInt64.le_iff_toNat_le, first.records, second.records,
      List.length_append]
    exact Nat.le_add_right _ _
  · rw [UInt64.le_iff_toNat_le, first.events, events]
    exact Nat.le_add_right _ _
  · rw [UInt64.le_iff_toNat_le, first.skippedNonMbo, skippedNonMbo]
    exact Nat.le_add_right _ _
  · rw [UInt64.le_iff_toNat_le, first.skippedMalformed, skippedMalformed]
    exact Nat.le_add_right _ _

end Replay

/-- Frames are at least four bytes long, all together. -/
theorem four_mul_length_le {frames : List Bytes}
    (framed : ∀ record ∈ frames, dbnFramer.IsFrame record) :
    4 * frames.length ≤ frames.flatten.length := by
  induction frames with
  | nil => simp
  | cons record rest ih =>
      have first := frame_length_ge (framed record (by simp))
      have others := ih fun other member => framed other (by simp [member])
      rw [List.length_cons, List.flatten_cons, List.length_append]
      omega

theorem four_mul_frames_le (stream : Bytes) :
    4 * (dbnFramer.frames stream).length ≤ stream.length :=
  (four_mul_length_le fun _ member => Framer.isFrame_of_mem_frames member).trans
    (Framer.length_flatten_frames_le dbnFramer stream)

namespace Reader

/-- What a reader opened over a file has consumed of its record region, with
everything the rest of it is made of. -/
structure Accounts (file : Bytes) (reader : Reader) (used : List Bytes) :
    Prop where
  framed : ∀ record ∈ used, dbnFramer.IsFrame record
  region : recordRegion file = used.flatten ++ reader.held ++ reader.pending
  stats : reader.stats = Replay.count {} used

theorem Accounts.four_mul_le {file : Bytes} {reader : Reader}
    {used : List Bytes} (accounts : Accounts file reader used) :
    4 * used.length + reader.pending.length ≤ (recordRegion file).length := by
  have long := four_mul_length_le accounts.framed
  rw [accounts.region, List.length_append, List.length_append]
  omega

/-- The counters are exact, since the file has no room for more frames than a
counter can count. -/
theorem Accounts.exact {file : Bytes} {reader : Reader} {used : List Bytes}
    (accounts : Accounts file reader used) (small : file.length < 2 ^ 63) :
    Replay.Exact reader.stats used := by
  have few := accounts.four_mul_le
  have region := recordRegion_length_le file
  have room : 2 ^ 63 < UInt64.size := by decide
  rw [accounts.stats]
  exact Replay.exact_count accounts.framed (by omega)

theorem accounts_opened {setup : Setup} {file : Bytes} {reader : Reader}
    (opens : setup.Opens file reader) : Accounts file reader [] where
  framed := by simp
  region := by
    rw [List.flatten_nil, List.nil_append, held_append_pending,
      opens.opened.region]
  stats := opens.opened.stats

/-- Calls account for the same frames and more, which contribute the events the
calls hand back. -/
theorem Accounts.calls {file : Bytes} {version : UInt8} {lost : Bytes}
    {reader last : Reader} {used : List Bytes} {count : Nat}
    {observations : List Observation} (accounts : Accounts file reader used)
    (running : Running version lost reader)
    (called : reader.calls count = .ok (observations, last)) :
    ∃ more, Accounts file last (used ++ more) ∧
      more.filterMap emitted = observations.filterMap Observation.event := by
  obtain ⟨kept, more, consumed⟩ := running.calls called
  have frames : dbnFramer.frames reader.unread =
      more ++ dbnFramer.frames last.unread := consumed.framesEq
  have tail : dbnFramer.tail last.unread = dbnFramer.tail reader.unread :=
    consumed.tailEq
  have stats : last.stats = Replay.count reader.stats more := consumed.statsEq
  have unread : reader.unread = more.flatten ++ last.unread := by
    rw [← Framer.flatten_frames_append_tail dbnFramer reader.unread, frames,
      ← tail, List.flatten_append, List.append_assoc,
      Framer.flatten_frames_append_tail]
  refine ⟨more, ?_, consumed.eventsEq⟩
  exact {
    framed := by
      intro record member
      rcases List.mem_append.mp member with old | new
      · exact accounts.framed record old
      · apply Framer.isFrame_of_mem_frames
        rw [frames]
        exact List.mem_append_left _ new
    region := by
      rw [accounts.region, List.append_assoc, held_append_pending, unread,
        List.append_assoc _ last.held, held_append_pending, kept.lostEq,
        running.lostEq]
      simp
    stats := by
      rw [stats, accounts.stats, Replay.count_append] }

/-- Over a file of any size a machine can hold, the counters of a reader are at
all times the exact account of the frames consumed so far; they add up, fit the
bytes delivered so far, and never fall. -/
theorem counters_exact {setup : Setup} {file : Bytes} {reader : Reader}
    (small : file.length < 2 ^ 63) (opens : setup.Opens file reader)
    (count : Nat) :
    ∃ observations last used,
      reader.calls count = .ok (observations, last) ∧
      (∀ record ∈ used, dbnFramer.IsFrame record) ∧
      recordRegion file = used.flatten ++ last.held ++ last.pending ∧
      last.stats.records.toNat = used.length ∧
      last.stats.events.toNat =
        observations.countP (fun observation => observation.event.isSome) ∧
      last.stats.skippedNonMbo.toNat = routedAs .skipNonMbo used ∧
      last.stats.skippedMalformed.toNat = routedAs .skipMalformed used ∧
      last.stats.records.toNat = last.stats.events.toNat +
        last.stats.skippedNonMbo.toNat + last.stats.skippedMalformed.toNat ∧
      4 * last.stats.records.toNat ≤
        (recordRegion file).length - last.pending.length ∧
      ∀ event after, last.next = .ok (event, after) →
        last.stats ≤ after.stats := by
  obtain ⟨observations, last, called, kept, _⟩ :=
    (refines reader.version reader.lost).calls observe_replay count
      opens.opened.valid.running
  obtain ⟨used, accounts, events⟩ :=
    (accounts_opened opens).calls opens.opened.valid.running called
  rw [List.nil_append] at accounts
  have exact := accounts.exact small
  have fits := accounts.four_mul_le
  have classes := length_eq_routed accounts.framed
  refine ⟨observations, last, used, called, accounts.framed, accounts.region,
    exact.records, ?_, exact.skippedNonMbo, exact.skippedMalformed, ?_, ?_, ?_⟩
  · rw [exact.events, events, List.length_filterMap_eq_countP]
  · rw [exact.records, exact.events, exact.skippedNonMbo,
      exact.skippedMalformed, classes]
  · rw [exact.records]
    omega
  · intro event after next
    have once : last.calls 1 = .ok ([observe event after], after) :=
      Iterator.calls_cons next rfl
    obtain ⟨more, later, _⟩ := accounts.calls kept once
    exact exact.le (later.exact small)

/-- The sample file, streamed a few bytes at a time. -/
theorem counters_exact_sample :
    ∃ reader, (Setup.streaming 5 (shortReads fun call => call)).Opens sampleFile
        reader ∧
      ∃ observations last used,
        reader.calls 3 = .ok (observations, last) ∧
        (∀ record ∈ used, dbnFramer.IsFrame record) ∧
        recordRegion sampleFile = used.flatten ++ last.held ++ last.pending ∧
        last.stats.records.toNat = used.length ∧
        last.stats.events.toNat =
          observations.countP (fun observation => observation.event.isSome) ∧
        last.stats.skippedNonMbo.toNat = routedAs .skipNonMbo used ∧
        last.stats.skippedMalformed.toNat = routedAs .skipMalformed used ∧
        last.stats.records.toNat = last.stats.events.toNat +
          last.stats.skippedNonMbo.toNat + last.stats.skippedMalformed.toNat ∧
        4 * last.stats.records.toNat ≤
          (recordRegion sampleFile).length - last.pending.length ∧
        ∀ event after, last.next = .ok (event, after) →
          last.stats ≤ after.stats := by
  have clean : (Setup.streaming 5 (shortReads fun call => call)).Clean :=
    ⟨by decide, _, rfl⟩
  obtain ⟨reader, opens⟩ := clean.opens_sampleFile
  exact ⟨reader, opens, counters_exact (by decide +kernel) opens 3⟩

end Reader

end TradingSim
