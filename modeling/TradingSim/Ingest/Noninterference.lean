import TradingSim.Ingest.Parity

/-!
# Fields that cannot matter

An event drops four of the fields of its record, and a record that is not a
market-by-order record of the right size is skipped unread.  Two files that
differ only in such bytes, or in their metadata, cannot be told apart through a
reader: what a reader does depends on how its frames are routed and on nothing
else about them.
-/

namespace TradingSim

open Foundation

/-! ## Replaying routes -/

/-- A replay of which only the routing of its frames is left. -/
structure Routes where
  routed : List Routed
  corrupt : Bool
  failed : Bool
  stats : IngestStats
  deriving DecidableEq, Repr

namespace Routes

/-- Consume routed frames up to the first that is emitted. -/
def nextFrom (corrupt failed : Bool) :
    List Routed → IngestStats → Option Event × Routes
  | [], stats => (none, ⟨[], corrupt, failed || corrupt, stats⟩)
  | outcome :: rest, stats =>
      match tally stats outcome with
      | (some event, stats) => (some event, ⟨rest, corrupt, failed, stats⟩)
      | (none, stats) => nextFrom corrupt failed rest stats

def next (routes : Routes) : Option Event × Routes :=
  nextFrom routes.corrupt routes.failed routes.routed routes.stats

/-- What a consumer sees of a call. -/
def observe (event : Option Event) (routes : Routes) : Observation :=
  ⟨event, routes.failed, routes.stats⟩

end Routes

/-- The routes of a replay. -/
def Replay.routes (replay : Replay) : Routes where
  routed := replay.frames.map route
  corrupt := decide (frameVerdict replay.tail = .corrupt)
  failed := replay.failed
  stats := replay.stats

theorem Replay.routes_ofStream (unread : Bytes) (failed : Bool)
    (stats : IngestStats) :
    (ofStream unread failed stats).routes = {
      routed := (dbnFramer.frames unread).map route
      corrupt := decide (frameVerdict (dbnFramer.tail unread) = .corrupt)
      failed
      stats } := rfl

theorem Replay.nextFrom_routes (tail : Bytes) (failed : Bool)
    (frames : List Bytes) (stats : IngestStats) :
    Routes.nextFrom (decide (frameVerdict tail = .corrupt)) failed
        (frames.map route) stats =
      ((nextFrom tail failed frames stats).1,
        (nextFrom tail failed frames stats).2.routes) := by
  induction frames generalizing stats with
  | nil => rfl
  | cons record rest ih =>
      rw [List.map_cons]
      simp only [Routes.nextFrom, nextFrom]
      cases tally stats (route record) with
      | mk event stats' =>
          cases event with
          | some event => rfl
          | none => exact ih stats'

theorem Replay.next_routes (replay : Replay) :
    replay.routes.next = (replay.next.1, replay.next.2.routes) :=
  nextFrom_routes replay.tail replay.failed replay.frames replay.stats

/-- Readers with the same routes ahead of them are observed alike. -/
theorem Reader.calls_agree_of_routes {left right : Reader}
    (leftValid : left.Valid) (rightValid : right.Valid)
    (same : left.replay.routes = right.replay.routes) (count : Nat) :
    ∃ observations leftLast rightLast,
      left.calls count = .ok (observations, leftLast) ∧
      right.calls count = .ok (observations, rightLast) := by
  have leftRefines := (Reader.refines left.version left.lost).trans
    Replay.next_routes
  have rightRefines := (Reader.refines right.version right.lost).trans
    Replay.next_routes
  have observes : ∀ event (reader : Reader), Reader.observe event reader =
      Routes.observe event reader.replay.routes := fun _ _ => rfl
  exact leftRefines.agree rightRefines observes observes leftValid.running
    rightValid.running same count

/-! ## Files that differ where it cannot matter -/

/-- The bytes of the fields an event drops: `publisher_id`, `instrument_id`,
`channel_id` and `ts_in_delta`. -/
def IsDropped (offset : Nat) : Prop :=
  (2 ≤ offset ∧ offset < 8) ∨ offset = 37 ∨ (48 ≤ offset ∧ offset < 52)

/-- Frames of one size and type that agree in their first two bytes and, when
they are market-by-order records, in every byte that is kept. -/
structure FrameAlike (left right : Bytes) : Prop where
  length : left.length = right.length
  framing : ∀ offset, offset < 2 → left[offset]? = right[offset]?
  kept : left[1]? = some kMboRtype → left.length = sizeofWireMbo →
    ∀ offset, ¬ IsDropped offset → left[offset]? = right[offset]?

theorem FrameAlike.refl (record : Bytes) : FrameAlike record record where
  length := rfl
  framing _ _ := rfl
  kept _ _ _ _ := rfl

/-- Overwriting a dropped byte leaves a frame alike. -/
theorem FrameAlike.set_dropped (record : Bytes) {offset : Nat}
    (dropped : IsDropped offset) (byte : UInt8) :
    FrameAlike record (record.set offset byte) where
  length := List.length_set.symm
  framing other front := by
    have differ : offset ≠ other := by
      unfold IsDropped at dropped
      omega
    rw [List.getElem?_set_ne differ]
  kept _ _ other keeps := by
    have differ : offset ≠ other := fun same => keeps (same ▸ dropped)
    rw [List.getElem?_set_ne differ]

theorem FrameAlike.set_skipped {record : Bytes} {offset : Nat}
    (behind : 2 ≤ offset) (byte : UInt8)
    (other : ¬ (record[1]? = some kMboRtype ∧ record.length = sizeofWireMbo)) :
    FrameAlike record (record.set offset byte) where
  length := List.length_set.symm
  framing index front := by
    have differ : offset ≠ index := by omega
    rw [List.getElem?_set_ne differ]
  kept isMbo size := (other ⟨isMbo, size⟩).elim

/-- Files of one length and header whose frames are pairwise alike, if they have
any, and whose tails are the same. -/
structure FileAlike (left right : Bytes) : Prop where
  length : left.length = right.length
  header : left.take 8 = right.take 8
  frames : parsePrologue left = .ok kSupportedDbnVersion →
    List.Forall₂ FrameAlike (dbnFramer.frames (recordRegion left))
      (dbnFramer.frames (recordRegion right))
  tail : parsePrologue left = .ok kSupportedDbnVersion →
    dbnFramer.tail (recordRegion left) = dbnFramer.tail (recordRegion right)

/-- The conversion reads kept bytes only. -/
theorem toEvent_ofBytes_congr {left right : Bytes}
    (kept : ∀ offset, ¬ IsDropped offset → left[offset]? = right[offset]?) :
    toEvent (.ofBytes left) = toEvent (.ofBytes right) := by
  have same : ∀ offset width,
      (∀ index, offset ≤ index → index < offset + width → ¬ IsDropped index) →
        field left offset width = field right offset width := by
    intro offset width outside
    apply field_congr
    intro index lower upper
    exact kept index (outside index lower upper)
  apply toEvent_congr
  · simp only [WireMbo.ofBytes, same 8 8 (by unfold IsDropped; omega)]
  · simp only [WireMbo.ofBytes, same 16 8 (by unfold IsDropped; omega)]
  · simp only [WireMbo.ofBytes, same 24 8 (by unfold IsDropped; omega)]
  · simp only [WireMbo.ofBytes, same 32 4 (by unfold IsDropped; omega)]
  · simp only [WireMbo.ofBytes, same 36 1 (by unfold IsDropped; omega)]
  · simp only [WireMbo.ofBytes, same 38 1 (by unfold IsDropped; omega)]
  · simp only [WireMbo.ofBytes, same 39 1 (by unfold IsDropped; omega)]
  · simp only [WireMbo.ofBytes, same 40 8 (by unfold IsDropped; omega)]
  · simp only [WireMbo.ofBytes, same 52 4 (by unfold IsDropped; omega)]

theorem FrameAlike.route {left right : Bytes} (alike : FrameAlike left right)
    (framed : 2 ≤ left.length) :
    TradingSim.route left = TradingSim.route right := by
  have rtype := alike.framing 1 (by decide)
  by_cases mbo : left[1]? = some kMboRtype ∧ left.length = sizeofWireMbo
  · obtain ⟨isMbo, size⟩ := mbo
    rw [route_of_mbo isMbo size,
      route_of_mbo (rtype ▸ isMbo) (alike.length ▸ size),
      toEvent_ofBytes_congr (alike.kept isMbo size)]
  · rw [route_of_other framed mbo]
    rw [rtype, alike.length] at mbo
    rw [route_of_other (alike.length ▸ framed) mbo]

theorem map_route_of_alike {left right : List Bytes}
    (alike : List.Forall₂ FrameAlike left right)
    (framed : ∀ record ∈ left, dbnFramer.IsFrame record) :
    left.map route = right.map route := by
  induction alike with
  | nil => rfl
  | cons first _ ih =>
      have long := frame_length_ge_two (framed _ List.mem_cons_self)
      rw [List.map_cons, List.map_cons, first.route long,
        ih fun record member => framed record (List.mem_cons_of_mem _ member)]

namespace Setup

variable {left right : Setup}

/-- Readers cleanly opened over alike files have the same routes ahead. -/
theorem routes_of_alike (leftClean : left.Clean) (rightClean : right.Clean)
    {file other : Bytes} (alike : FileAlike file other)
    {leftReader rightReader : Reader} (leftOpens : left.Opens file leftReader)
    (rightOpens : right.Opens other rightReader) :
    leftReader.replay.routes = rightReader.replay.routes := by
  have accepted := leftOpens.opened.accepted
  have supported :=
    (parseHeader_whole (parsePrologue_eq_ok.mp accepted).1).2
  rw [supported] at accepted
  have framed : ∀ record ∈ dbnFramer.frames (recordRegion file),
      dbnFramer.IsFrame record :=
    fun _ member => Framer.isFrame_of_mem_frames member
  have routed := map_route_of_alike (alike.frames accepted) framed
  have tail := alike.tail accepted
  rw [(leftOpens.replay_eq leftClean).2, (rightOpens.replay_eq rightClean).2]
  rw [Replay.routes_ofStream, Replay.routes_ofStream, routed, tail]

/-- Files that are alike are refused alike, or opened with readers that no
sequence of calls tells apart. -/
theorem alike_indistinguishable (leftClean : left.Clean)
    (rightClean : right.Clean) {file other : Bytes}
    (alike : FileAlike file other) :
    (∃ error, left.Throws file error ∧ right.Throws other error) ∨
    ∃ leftReader rightReader,
      left.Opens file leftReader ∧ right.Opens other rightReader ∧
      leftReader.version = rightReader.version ∧
      ∀ count, ∃ observations leftLast rightLast,
        leftReader.calls count = .ok (observations, leftLast) ∧
        rightReader.calls count = .ok (observations, rightLast) := by
  rcases leftClean.agree rightClean
    (parsePrologue_congr alike.length alike.header) with refused | opened
  · exact .inl refused
  · obtain ⟨leftReader, rightReader, leftOpens, rightOpens, version⟩ := opened
    refine .inr ⟨leftReader, rightReader, leftOpens, rightOpens, version, ?_⟩
    apply Reader.calls_agree_of_routes leftOpens.opened.valid
      rightOpens.opened.valid
    exact routes_of_alike leftClean rightClean alike leftOpens rightOpens

/-- The sample file with another instrument in its market-by-order record and
other bytes in its metadata and in the record of another type. -/
def otherSampleFile : Bytes :=
  ((sampleFile.set 8 1).set 14 200).set 68 255

/-- The two sample files cannot be told apart. -/
theorem alike_indistinguishable_sample :
    (∃ error, (streaming 9 (shortReads fun call => call)).Throws sampleFile error ∧
      mapped.Throws otherSampleFile error) ∨
    ∃ leftReader rightReader,
      (streaming 9 (shortReads fun call => call)).Opens sampleFile leftReader ∧
      mapped.Opens otherSampleFile rightReader ∧
      leftReader.version = rightReader.version ∧
      ∀ count, ∃ observations leftLast rightLast,
        leftReader.calls count = .ok (observations, leftLast) ∧
        rightReader.calls count = .ok (observations, rightLast) := by
  have clean : (streaming 9 (shortReads fun call => call)).Clean :=
    ⟨by decide, _, rfl⟩
  have mappedClean : mapped.Clean := trivial
  have frames : dbnFramer.frames (recordRegion sampleFile) =
      [sampleRecord, [1, 0x20, 0, 0], sampleRecord.set 39 0] := by
    decide +kernel
  have otherFrames : dbnFramer.frames (recordRegion otherSampleFile) =
      [sampleRecord.set 4 200, [1, 0x20, 255, 0], sampleRecord.set 39 0] := by
    decide +kernel
  apply alike_indistinguishable clean mappedClean
  exact {
    length := by decide +kernel
    header := by decide +kernel
    frames := by
      intro _
      rw [frames, otherFrames]
      have first := FrameAlike.set_dropped sampleRecord
        (show IsDropped 4 from .inl (by decide)) 200
      have second : FrameAlike [1, 0x20, 0, 0] [1, 0x20, 255, 0] :=
        FrameAlike.set_skipped (show 2 ≤ 2 by decide) 255 (by decide)
      exact .cons first (.cons second (.cons (FrameAlike.refl _) .nil))
    tail := fun _ => by decide +kernel }

end Setup

end TradingSim
