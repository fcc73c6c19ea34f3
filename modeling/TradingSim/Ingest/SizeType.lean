import TradingSim.Ingest.Safety

/-!
# The width of `size_t`

The streaming reader counts the metadata bytes down, and any `size_t` that holds
the metadata length is wide enough for that.  The mapped reader adds the header to
it first, and 32 bits do not hold every such sum.  One that wraps lands inside the
header, where it passes for the end of the prologue.
-/

namespace TradingSim

open Foundation

namespace MmapDbnReader

variable {width : Nat} {file : Bytes} {reader : MmapDbnReader}

theorem Reached.cursor_ge {bound : Nat}
    (initially : ∀ reader, construct width file = .ok reader →
      bound ≤ reader.cursor)
    (reached : Reached width file reader) : bound ≤ reader.cursor := by
  have kept : reader.Valid ∧ bound ≤ reader.cursor := by
    apply Loop.Reached.invariant _ _ _ reached
    · intro reader built
      exact ⟨Reached.valid (.start built), initially reader built⟩
    · rintro reader next ⟨valid, behind⟩ again
      refine ⟨(replays_of_again valid again).1, ?_⟩
      cases PassStep.of_pass valid again with
      | skipped _ _ => exact Nat.le_add_right_of_le behind
    · rintro reader next event ⟨valid, behind⟩ done
      refine ⟨(replays_of_done valid done).valid, ?_⟩
      cases PassStep.of_pass valid done with
      | emitted _ _ => exact Nat.le_add_right_of_le behind
      | exhausted _ => exact behind
      | stopped _ => exact behind
  exact kept.2

/-- A `size_t` that holds the end of the prologue leaves the cursor there. -/
theorem cursor_of_construct (noWrap : 8 + metadataLen file < 2 ^ width)
    (built : construct width file = .ok reader) :
    (∃ version, parsePrologue file = .ok version) ∧
      reader.cursor = 8 + metadataLen file := by
  rw [construct_eq noWrap] at built
  cases parsed : parsePrologue file with
  | error error => simp [parsed, Ingest.throw] at built
  | ok version =>
      simp only [parsed] at built
      cases built
      exact ⟨⟨version, rfl⟩, rfl⟩

/-- One that does not hold that end leaves the cursor in the header, whatever the
size of the file. -/
theorem construct_of_wrap (wide : 32 ≤ width) {version : UInt8}
    (accepted : parseHeader file = .ok version)
    (wraps : 2 ^ width ≤ 8 + metadataLen file) :
    8 + metadataLen file - 2 ^ width < 8 ∧
      construct width file = .ok {
        map := file
        cursor := 8 + metadataLen file - 2 ^ width
        version } := by
  have whole := (parseHeader_whole accepted).1
  have small := metadataLen_lt file
  have room : 2 ^ 32 ≤ 2 ^ width := Nat.pow_le_pow_right (by decide) wide
  have wrapped : (8 + metadataLen file) % 2 ^ width =
      8 + metadataLen file - 2 ^ width := by
    rw [Nat.mod_eq_sub_mod wraps, Nat.mod_eq_of_lt (by omega)]
  have number : (UInt32.ofNat (metadataLen file)).toNat = metadataLen file :=
    UInt32.toNat_ofNat_of_lt' small
  refine ⟨by omega, ?_⟩
  rw [construct, skipPrologue]
  dsimp only
  rw [if_neg (Nat.not_lt.mpr whole), checkHeader_eq whole, accepted]
  simp only [Checked.ok_bind, number, wrapped]
  rw [if_neg (by omega)]

end MmapDbnReader

/-- No byte of the prologue is taken for a record.  The mapped reader accepts a
file only if the prologue fits in it, accepts what the streaming reader accepts,
and frames behind the prologue only. -/
structure PrologueKept (width : Nat) (file : Bytes) : Prop where
  whole : ∀ reader, MmapDbnReader.construct width file = .ok reader →
    8 + metadataLen file ≤ file.length
  parity : ∀ chunkSize schedule, 0 < chunkSize →
    ((∃ reader, MmapDbnReader.construct width file = .ok reader) ↔
      ∃ reader,
        (Setup.streaming chunkSize (shortReads schedule)).Opens file reader)
  behind : ∀ reader, MmapDbnReader.Reached width file reader →
    8 + metadataLen file ≤ reader.cursor

namespace PrologueKept

variable {width : Nat} {file : Bytes}

/-- What keeps it: both constructors accept the same files, and the cursor starts
behind the prologue. -/
theorem of_construct
    (accepts : (∃ reader, MmapDbnReader.construct width file = .ok reader) ↔
      ∃ version, parsePrologue file = .ok version)
    (starts : ∀ reader, MmapDbnReader.construct width file = .ok reader →
      8 + metadataLen file ≤ reader.cursor) : PrologueKept width file where
  whole := by
    intro reader built
    obtain ⟨version, accepted⟩ := accepts.mp ⟨reader, built⟩
    exact (parsePrologue_eq_ok.mp accepted).2
  parity := by
    intro chunkSize schedule room
    have clean : (Setup.streaming chunkSize (shortReads schedule)).Clean :=
      ⟨room, schedule, rfl⟩
    rw [clean.opens_iff, accepts]
  behind := by
    intro reader reached
    exact reached.cursor_ge starts

theorem of_refused {error : PrologueError}
    (refused : parseHeader file = .error error) : PrologueKept width file := by
  have unopened : ∀ reader,
      MmapDbnReader.construct width file ≠ .ok reader := by
    intro reader built
    rw [MmapDbnReader.construct, MmapDbnReader.skipPrologue] at built
    dsimp only at built
    split at built
    next => cases built
    next long =>
      rw [checkHeader_eq (by omega), refused] at built
      cases built
  apply of_construct
  · constructor
    · rintro ⟨reader, built⟩
      exact (unopened reader built).elim
    · rintro ⟨version, accepted⟩
      rw [parsePrologue, refused] at accepted
      cases accepted
  · intro reader built
    exact (unopened reader built).elim

theorem of_noWrap (noWrap : 8 + metadataLen file < 2 ^ width) :
    PrologueKept width file := by
  apply of_construct
  · constructor
    · rintro ⟨reader, built⟩
      exact (MmapDbnReader.cursor_of_construct noWrap built).1
    · rintro ⟨version, accepted⟩
      rw [MmapDbnReader.construct_eq noWrap, accepted]
      exact ⟨_, rfl⟩
  · intro reader built
    exact (MmapDbnReader.cursor_of_construct noWrap built).2.ge

end PrologueKept

/-- Over a file that fits in memory, the prologue is kept exactly when its header
is refused or `size_t` holds the end of it; a `size_t` of more than 32 bits always
does. -/
theorem prologueKept_iff {width : Nat} (wide : 32 ≤ width) {file : Bytes}
    (fits : file.length < 2 ^ width) :
    (PrologueKept width file ↔
      (∃ error, parseHeader file = .error error) ∨
        8 + metadataLen file < 2 ^ width) ∧
    (32 < width → PrologueKept width file) := by
  refine ⟨⟨?_, ?_⟩, ?_⟩
  · intro kept
    cases header : parseHeader file with
    | error error => exact .inl ⟨error, rfl⟩
    | ok version =>
        right
        by_contra wraps
        rw [Nat.not_lt] at wraps
        have built := (MmapDbnReader.construct_of_wrap wide header wraps).2
        have whole := kept.whole _ built
        omega
  · rintro (⟨error, refused⟩ | noWrap)
    · exact .of_refused refused
    · exact .of_noWrap noWrap
  · intro wider
    exact .of_noWrap (MmapDbnReader.prologue_lt_of_wider wider file)

/-- The sample file on a machine with a 32-bit `size_t`. -/
theorem prologueKept_iff_sample :
    sampleFile.length < 2 ^ 32 ∧
      (PrologueKept 32 sampleFile ↔
        (∃ error, parseHeader sampleFile = .error error) ∨
          8 + metadataLen sampleFile < 2 ^ 32) := by
  have fits : sampleFile.length < 2 ^ 32 := by decide +kernel
  exact ⟨fits, (prologueKept_iff (Nat.le_refl 32) fits).1⟩

/-- A header that announces five bytes less than `2 ^ 32` of metadata, and nothing
behind it. -/
def wrappingFile : Bytes := [0x44, 0x42, 0x4E, 1, 0xFB, 0xFF, 0xFF, 0xFF]

/-- With a 32-bit `size_t` it is accepted, and its version byte begins the first
record. -/
theorem not_prologueKept_wrapping :
    ¬ PrologueKept 32 wrappingFile ∧
      ∃ reader after, MmapDbnReader.construct 32 wrappingFile = .ok reader ∧
        reader.cursor = 3 ∧ reader.next = .ok (none, after) ∧
        after.cursor = 7 ∧ after.stats.records = 1 := by
  constructor
  · intro kept
    have whole := kept.whole _ rfl
    exact absurd whole (by decide +kernel)
  · exact ⟨_, _, rfl, rfl, rfl, rfl, rfl⟩

end TradingSim
