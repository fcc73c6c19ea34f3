import TradingSim.Foundation.Checked
import TradingSim.Foundation.LittleEndian
import TradingSim.Wire.Event

/-!
# The stream prologue

A stream begins with a fixed 8-byte header (magic, version byte, metadata
length) followed by that many metadata bytes.  Both readers check the header in
the same way and refuse the same streams; they differ only in how they get at
the bytes and in the class name their messages begin with.
-/

namespace TradingSim

open Foundation

/-- The one version whose record layout is validated. -/
def kSupportedDbnVersion : UInt8 := 1

/-- Why a reader's constructor throws. -/
inductive PrologueError where
  | truncatedHeader
  | badMagic
  | unsupportedVersion (version : UInt8)
  | truncatedMetadata
  deriving DecidableEq, Repr

/-- The text of the exception, as thrown by the named reader class. -/
def PrologueError.what (reader : String) : PrologueError → String
  | .truncatedHeader => reader ++ ": truncated DBN header"
  | .badMagic => reader ++ ": not a DBN stream (bad magic)"
  | .unsupportedVersion version =>
      reader ++ ": unsupported DBN version " ++ toString version.toNat ++
        " (only v" ++ toString kSupportedDbnVersion.toNat ++
        " record layout is validated)"
  | .truncatedMetadata => reader ++ ": truncated DBN metadata"

/-- Computations of the ingest stack. -/
abbrev Ingest : Type → Type := Checked PrologueError

def Ingest.throw {α : Type} (error : PrologueError) : Ingest α :=
  .error (.thrown error)

/-- Magic and version checks on the header, then the metadata length. -/
def checkHeader (header : Bytes) : Ingest (UInt8 × UInt32) := do
  let magic0 ← Span.get header 0
  let magic1 ← Span.get header 1
  let magic2 ← Span.get header 2
  -- 'D', 'B', 'N'
  if magic0 ≠ 0x44 ∨ magic1 ≠ 0x42 ∨ magic2 ≠ 0x4E then
    Ingest.throw .badMagic
  else
    let version ← Span.get header 3
    if version ≠ kSupportedDbnVersion then
      Ingest.throw (.unsupportedVersion version)
    else
      let length ← Span.copy (header.drop 4) 4
      .ok (version, .ofNat (LittleEndian.value length))

/-! ## What a prologue means

The header is read off the file itself, and the record region is what lies
behind the metadata. -/

/-- The metadata length in the header of a file. -/
def metadataLen (file : Bytes) : Nat :=
  LittleEndian.value ((file.drop 4).take 4)

/-- The bytes of a file behind its prologue. -/
def recordRegion (file : Bytes) : Bytes :=
  file.drop (8 + metadataLen file)

/-- The header of a file is accepted with a version, or refused. -/
def parseHeader (file : Bytes) : Except PrologueError UInt8 :=
  if file.length < 8 then .error .truncatedHeader
  else if file.take 3 ≠ [0x44, 0x42, 0x4E] then .error .badMagic
  else if file[3]? ≠ some kSupportedDbnVersion then
    .error (.unsupportedVersion (file[3]?.getD 0))
  else .ok kSupportedDbnVersion

/-- The whole prologue of a file is accepted with a version, or refused. -/
def parsePrologue (file : Bytes) : Except PrologueError UInt8 :=
  match parseHeader file with
  | .error error => .error error
  | .ok version =>
      if file.length < 8 + metadataLen file then .error .truncatedMetadata
      else .ok version

theorem metadataLen_lt (file : Bytes) : metadataLen file < 2 ^ 32 := by
  have bound := LittleEndian.value_lt ((file.drop 4).take 4)
  have short : ((file.drop 4).take 4).length ≤ 4 := List.length_take_le 4 _
  calc metadataLen file < 256 ^ ((file.drop 4).take 4).length := bound
    _ ≤ 256 ^ 4 := Nat.pow_le_pow_right (by decide) short

theorem recordRegion_length_le (file : Bytes) :
    (recordRegion file).length ≤ file.length := by
  rw [recordRegion, List.length_drop]
  exact Nat.sub_le _ _

/-- The header's own checks, on any buffer that holds a whole header. -/
theorem checkHeader_eq {file : Bytes} (whole : 8 ≤ file.length) :
    checkHeader file = match parseHeader file with
      | .error error => Ingest.throw error
      | .ok version => .ok (version, .ofNat (metadataLen file)) := by
  match file, whole with
  | b0 :: b1 :: b2 :: b3 :: b4 :: b5 :: b6 :: b7 :: rest, whole =>
      rw [parseHeader, if_neg (Nat.not_lt.mpr whole)]
      simp only [checkHeader, Span.get, Span.copy, List.getElem?_cons_zero,
        List.getElem?_cons_succ, Checked.ok_bind, List.drop_succ_cons,
        List.drop_zero, List.length_cons, List.take_succ_cons, List.take_zero,
        Option.getD_some, metadataLen, Ingest.throw]
      by_cases magic : b0 = 0x44 ∧ b1 = 0x42 ∧ b2 = 0x4E
      · obtain ⟨rfl, rfl, rfl⟩ := magic
        by_cases version : b3 = kSupportedDbnVersion
        · subst version
          simp
        · simp [version]
      · have other : b0 ≠ 0x44 ∨ b1 ≠ 0x42 ∨ b2 ≠ 0x4E := by tauto
        have differ : ¬ [b0, b1, b2] = [0x44, 0x42, 0x4E] := by
          simpa using magic
        rw [if_pos other, if_pos differ]

/-- Only the first eight bytes of a file make up its header. -/
theorem checkHeader_take {file : Bytes} (whole : 8 ≤ file.length) :
    checkHeader (file.take 8) = checkHeader file := by
  match file, whole with
  | b0 :: b1 :: b2 :: b3 :: b4 :: b5 :: b6 :: b7 :: rest, _ =>
      simp [checkHeader, Span.get, Span.copy]

theorem parseHeader_whole {file : Bytes} {version : UInt8}
    (accepted : parseHeader file = .ok version) :
    8 ≤ file.length ∧ version = kSupportedDbnVersion := by
  unfold parseHeader at accepted
  split at accepted
  · cases accepted
  · split at accepted
    · cases accepted
    · split at accepted
      · cases accepted
      · cases accepted
        exact ⟨by omega, rfl⟩

theorem parseHeader_take_eight (file : Bytes) :
    parseHeader (file.take 8) = parseHeader file := by
  have magic : (file.take 8).take 3 = file.take 3 := by
    rw [List.take_take]
    rfl
  have version : (file.take 8)[3]? = file[3]? :=
    List.getElem?_take_of_lt (by decide)
  have short : (file.take 8).length < 8 ↔ file.length < 8 := by
    rw [List.length_take]
    omega
  simp only [parseHeader, magic, version, short]

theorem metadataLen_take_eight (file : Bytes) :
    metadataLen (file.take 8) = metadataLen file := by
  rw [metadataLen, metadataLen, List.drop_take, List.take_take]
  rfl

/-- Files with one header and one length are accepted or refused alike. -/
theorem parsePrologue_congr {left right : Bytes}
    (length : left.length = right.length) (header : left.take 8 = right.take 8) :
    parsePrologue left = parsePrologue right := by
  rw [parsePrologue, parsePrologue, ← parseHeader_take_eight left,
    ← parseHeader_take_eight right, ← metadataLen_take_eight left,
    ← metadataLen_take_eight right, header, length]

theorem parsePrologue_eq_ok {file : Bytes} {version : UInt8} :
    parsePrologue file = .ok version ↔
      parseHeader file = .ok version ∧ 8 + metadataLen file ≤ file.length := by
  unfold parsePrologue
  cases parseHeader file with
  | error error => simp
  | ok accepted =>
      dsimp only
      split
      next short =>
        have conflict : ¬ 8 + metadataLen file ≤ file.length := by omega
        simp [conflict]
      next whole =>
        have enough : 8 + metadataLen file ≤ file.length := by omega
        simp [enough]

end TradingSim
