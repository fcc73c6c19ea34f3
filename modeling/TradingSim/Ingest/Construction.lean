import TradingSim.Ingest.DbnReader

/-!
# Constructing the streaming reader

The constructor reads the header and discards the metadata through short reads.
Whenever it succeeds, the source stands exactly behind the prologue; over a
source without device errors it succeeds or throws as the prologue of the file
demands, provided the scratch buffer has any room at all.
-/

namespace TradingSim

open Foundation

namespace DbnReader

/-! ## Filling a buffer -/

/-- A buffer filled in front with the next bytes of a source. -/
structure Filled (source : FileByteSource) (dst : Bytes)
    (filling : Filling) : Prop where
  fits : filling.total ≤ dst.length
  within : filling.total ≤ source.rest.length
  length : filling.dst.length = dst.length
  front : filling.dst.take filling.total = source.rest.take filling.total
  rest : filling.source.rest = source.rest.drop filling.total
  faultless : source.Faultless → filling.source.Faultless

variable {source : FileByteSource} {dst : Bytes} {filling : Filling}

/-- A buffer that is full holds the next bytes and nothing else. -/
theorem Filled.whole (filled : Filled source dst filling)
    (full : filling.total = dst.length) :
    filling.dst = source.rest.take dst.length := by
  rw [← full, ← filled.front, full, ← filled.length, List.take_length]

theorem filled_start (source : FileByteSource) (dst : Bytes) :
    Filled source dst ⟨0, dst, source⟩ where
  fits := Nat.zero_le _
  within := Nat.zero_le _
  length := rfl
  front := rfl
  rest := rfl
  faultless := id

/-- The filling after one more read. -/
def Filling.grown (filling : Filling) : Filling :=
  let room := filling.dst.length - filling.total
  { total := filling.total + filling.source.count room
    dst := filling.dst.take filling.total ++
      filling.source.filled (filling.dst.drop filling.total)
    source := filling.source.after room }

theorem readFullyPass_eq (fits : filling.total < filling.dst.length) :
    readFullyPass filling = .ok
      (if filling.source.count (filling.dst.length - filling.total) = 0 then
        .done { filling.grown with total := filling.total }
      else .again filling.grown) := by
  rw [readFullyPass, if_pos fits, Span.subspan_of_le (by omega),
    Checked.ok_bind]
  simp only [FileByteSource.read_eq, List.length_drop]
  split
  next => rfl
  next => rfl

/-- One more read keeps the buffer filled in front. -/
theorem Filled.grown (filled : Filled source dst filling) :
    Filled source dst filling.grown := by
  have length := filled.length
  have fits := filled.fits
  have leRoom := filling.source.count_le_size
    (filling.dst.length - filling.total)
  have leRest := filling.source.count_le_rest
    (filling.dst.length - filling.total)
  rw [filled.rest, List.length_drop] at leRest
  have front := filling.source.take_filled (filling.dst.drop filling.total)
  rw [List.length_drop] at front
  exact {
    fits := by
      simp only [Filling.grown]
      omega
    within := by
      have within := filled.within
      simp only [Filling.grown]
      omega
    length := by
      simp only [Filling.grown, List.length_append,
        FileByteSource.length_filled, List.length_take, List.length_drop]
      omega
    front := by
      have taken := List.length_take_of_le (Nat.le_trans fits length.ge)
      simp only [Filling.grown]
      rw [List.take_append, taken,
        List.take_of_length_le (by rw [taken]; exact Nat.le_add_right _ _),
        Nat.add_sub_cancel_left, front, filled.front, filled.rest,
        ← List.take_add]
    rest := by
      simp only [Filling.grown]
      rw [FileByteSource.rest_after, filled.rest, List.drop_drop]
    faultless := fun faultless => (filled.faultless faultless).after _ }

theorem Filling.grown_of_spent
    (spent : filling.source.count (filling.dst.length - filling.total) = 0) :
    { filling.grown with total := filling.total } = filling.grown := by
  simp [Filling.grown, spent]

/-- What a pass of the filling loop comes to: the buffer is full, or a read
delivered nothing, or a read delivered something. -/
inductive FillStep (filling : Filling) : Ingest (Pass Filling Filling) → Prop
    where
  | full (noRoom : filling.dst.length ≤ filling.total) :
      FillStep filling (.ok (.done filling))
  | dry (room : filling.total < filling.dst.length)
      (spent : filling.source.count (filling.dst.length - filling.total) = 0) :
      FillStep filling (.ok (.done filling.grown))
  | grown (room : filling.total < filling.dst.length)
      (delivers :
        filling.source.count (filling.dst.length - filling.total) ≠ 0) :
      FillStep filling (.ok (.again filling.grown))

theorem readFullyPass_step (filling : Filling) :
    FillStep filling (readFullyPass filling) := by
  by_cases room : filling.total < filling.dst.length
  · rw [readFullyPass_eq room]
    split
    next spent =>
      rw [Filling.grown_of_spent spent]
      exact .dry room spent
    next delivers => exact .grown room delivers
  · rw [readFullyPass, if_neg room]
    exact .full (Nat.le_of_not_lt room)

theorem FillStep.of_pass {outcome : Ingest (Pass Filling Filling)}
    (passed : readFullyPass filling = outcome) : FillStep filling outcome := by
  rw [← passed]
  exact readFullyPass_step filling

/-- A read that delivers nothing into free room means that nothing is left, if no
read fails. -/
theorem Filled.total_of_dry (filled : Filled source dst filling)
    (room : filling.total < filling.dst.length)
    (spent : filling.source.count (filling.dst.length - filling.total) = 0)
    (faultless : source.Faultless) :
    filling.total = source.rest.length := by
  have within := filled.within
  have nothingLeft : filling.source.rest = [] := by
    by_contra left
    have delivers := (filled.faultless faultless).count_pos
      (Nat.sub_pos_of_lt room) left
    omega
  rw [filled.rest, List.drop_eq_nil_iff] at nothingLeft
  exact Nat.le_antisymm within nothingLeft

/-- `readFully` always returns, with the front of the buffer filled, and fills
all of it from a source without device errors that has enough left. -/
theorem readFully_eq (source : FileByteSource) (dst : Bytes) :
    ∃ filling, readFully source dst = .ok filling ∧
      Filled source dst filling ∧
      (source.Faultless →
        filling.total = min dst.length source.rest.length) := by
  apply Loop.run_returns (Filled source dst)
    (fun filling => filling.source.rest.length)
    (fun _ filling => Filled source dst filling ∧
      (source.Faultless →
        filling.total = min dst.length source.rest.length))
    _ _ _ (filled_start source dst) (Nat.lt_succ_self _)
  · intro filling _
    have step := readFullyPass_step filling
    generalize readFullyPass filling = pass at step ⊢
    cases step with
    | full => exact ⟨_, rfl⟩
    | dry => exact ⟨_, rfl⟩
    | grown => exact ⟨_, rfl⟩
  · intro filling result filled done
    have length := filled.length
    have fits := filled.fits
    have within := filled.within
    cases FillStep.of_pass done with
    | full noRoom =>
        refine ⟨filled, fun _ => ?_⟩
        omega
    | dry room spent =>
        refine ⟨filled.grown, fun faultless => ?_⟩
        have total := filled.total_of_dry room spent faultless
        simp only [Filling.grown, spent]
        omega
  · intro filling next filled again
    cases FillStep.of_pass again with
    | grown room delivers =>
        refine ⟨filled.grown, ?_, fun _ => id⟩
        have leRest := filling.source.count_le_rest
          (filling.dst.length - filling.total)
        simp only [Filling.grown]
        rw [FileByteSource.rest_after, List.length_drop]
        omega

/-! ## Skipping the metadata -/

/-- What a stretch of the metadata loop does. -/
structure Skipped (before after : Skipping) : Prop where
  le : after.remaining ≤ before.remaining
  within : before.remaining - after.remaining ≤ before.source.rest.length
  rest : after.source.rest =
    before.source.rest.drop (before.remaining - after.remaining)
  chunk : after.scratch.length = before.scratch.length
  faultless : before.source.Faultless → after.source.Faultless

theorem Skipped.refl (skipping : Skipping) : Skipped skipping skipping where
  le := Nat.le_refl _
  within := by simp
  rest := by simp
  chunk := rfl
  faultless := id

theorem Skipped.trans {before middle after : Skipping}
    (first : Skipped before middle) (second : Skipped middle after) :
    Skipped before after := by
  have firstLe := first.le
  have secondLe := second.le
  have firstWithin := first.within
  have secondWithin := second.within
  rw [first.rest, List.length_drop] at secondWithin
  exact {
    le := secondLe.trans firstLe
    within := by omega
    rest := by
      rw [second.rest, first.rest, List.drop_drop]
      congr 1
      omega
    chunk := second.chunk.trans first.chunk
    faultless := fun faultless => second.faultless (first.faultless faultless) }

variable {skipping : Skipping}

/-- What a pass of the metadata loop comes to: nothing is left to skip, or a
scratch buffer's worth was discarded, or the source could not deliver that
much. -/
inductive SkipStep (skipping : Skipping) : Ingest (Pass Skipping Skipping) → Prop
    where
  | finished (nothing : skipping.remaining = 0) :
      SkipStep skipping (.ok (.done skipping))
  | discarded {next : Skipping} (more : 0 < skipping.remaining)
      (skipped : Skipped skipping next)
      (progress : next.remaining +
        min skipping.remaining skipping.scratch.length = skipping.remaining) :
      SkipStep skipping (.ok (.again next))
  | truncated (short : skipping.source.Faultless →
        skipping.source.rest.length < skipping.remaining) :
      SkipStep skipping (.error (.thrown .truncatedMetadata))

theorem skipMetadataPass_step (skipping : Skipping) :
    SkipStep skipping (skipMetadataPass skipping) := by
  by_cases more : skipping.remaining > 0
  · obtain ⟨want, wantEq⟩ :
        ∃ want, want = min skipping.remaining skipping.scratch.length :=
      ⟨_, rfl⟩
    have roomLength : (skipping.scratch.take want).length = want := by
      rw [List.length_take]
      omega
    obtain ⟨filling, reads, filled, full⟩ :=
      readFully_eq skipping.source (skipping.scratch.take want)
    have dstLength := filled.length
    have within := filled.within
    rw [roomLength] at full dstLength
    rw [skipMetadataPass, if_pos more]
    dsimp only
    rw [← wantEq, Span.first_of_le (by omega), Checked.ok_bind, reads,
      Checked.ok_bind]
    by_cases got : filling.total = want
    · have gone : skipping.remaining - (skipping.remaining - filling.total) =
          filling.total := by omega
      rw [if_neg (by simpa using got), Span.difference_of_le (by omega),
        Checked.ok_bind]
      apply SkipStep.discarded more
      · exact {
          le := Nat.sub_le _ _
          within := by
            dsimp only
            omega
          rest := by
            dsimp only
            rw [gone, filled.rest]
          chunk := by
            rw [List.length_append, dstLength, List.length_drop]
            omega
          faultless := filled.faultless }
      · dsimp only
        omega
    · rw [if_pos got]
      apply SkipStep.truncated
      intro faultless
      have short := full faultless
      omega
  · rw [skipMetadataPass, if_neg more]
    exact .finished (Nat.eq_zero_of_not_pos more)

theorem SkipStep.of_pass {outcome : Ingest (Pass Skipping Skipping)}
    (passed : skipMetadataPass skipping = outcome) : SkipStep skipping outcome := by
  rw [← passed]
  exact skipMetadataPass_step skipping

/-- Every run of the loop that returns has skipped all of the metadata. -/
theorem skipMetadata_returned {fuel : Nat} {result : Skipping}
    (returned : Loop.run skipMetadataPass fuel skipping = .ok result) :
    Skipped skipping result ∧ result.remaining = 0 := by
  apply Loop.run_returned (fun _ => True)
    (fun skipping result => Skipped skipping result ∧ result.remaining = 0)
    _ _ trivial returned
  · intro skipping result _ done
    cases SkipStep.of_pass done with
    | finished nothing => exact ⟨.refl _, nothing⟩
  · intro skipping next _ again
    cases SkipStep.of_pass again with
    | discarded _ first _ =>
        refine ⟨trivial, ?_⟩
        intro result outcome
        exact ⟨first.trans outcome.1, outcome.2⟩

/-- The loop has no failure but the truncation it throws, and its budget's end. -/
theorem skipMetadata_failed {fuel : Nat} {failure : Failure PrologueError}
    (failed : Loop.run skipMetadataPass fuel skipping = .error failure) :
    failure = .thrown .truncatedMetadata ∨ failure = .outOfFuel := by
  apply Loop.run_failed (fun _ => True)
    (fun failure => failure = .thrown .truncatedMetadata ∨
      failure = .outOfFuel) (.inr rfl) _ (fun _ _ => trivial) trivial failed
  intro skipping failure _ fails
  cases SkipStep.of_pass fails with
  | truncated => exact .inl rfl

/-- With room in the scratch buffer and no device errors, the loop ends within
as many passes as there are metadata bytes, and throws exactly when the source
holds too few. -/
theorem skipMetadata_faultless (faultless : skipping.source.Faultless)
    (room : 0 < skipping.scratch.length) {fuel : Nat}
    (enough : skipping.remaining < fuel) :
    if skipping.remaining ≤ skipping.source.rest.length then
      ∃ result, Loop.run skipMetadataPass fuel skipping = .ok result
    else Loop.run skipMetadataPass fuel skipping =
      Ingest.throw .truncatedMetadata := by
  apply Loop.run_total
    (fun skipping => skipping.source.Faultless ∧ 0 < skipping.scratch.length)
    Skipping.remaining
    (fun skipping outcome =>
      if skipping.remaining ≤ skipping.source.rest.length then
        ∃ result, outcome = .ok result
      else outcome = Ingest.throw .truncatedMetadata)
    _ _ _ ⟨faultless, room⟩ enough
  · intro skipping failure clean fails
    cases SkipStep.of_pass fails with
    | truncated short =>
        have few := short clean.1
        rw [if_neg (Nat.not_le_of_lt few), Ingest.throw]
  · intro skipping result _ done
    cases SkipStep.of_pass done with
    | finished nothing =>
        rw [if_pos (by omega)]
        exact ⟨skipping, rfl⟩
  · intro skipping next clean again
    cases SkipStep.of_pass again with
    | discarded more skipped progress =>
        have roomy := clean.2
        have within := skipped.within
        have rest := congrArg List.length skipped.rest
        rw [List.length_drop] at rest
        have same : next.remaining ≤ next.source.rest.length ↔
            skipping.remaining ≤ skipping.source.rest.length := by omega
        refine ⟨⟨skipped.faultless clean.1, skipped.chunk ▸ roomy⟩, ?_, ?_⟩
        · omega
        · intro outcome post
          simpa only [same] using post

/-- With room in the scratch buffer the loop ends, whatever the source does. -/
theorem skipMetadata_ends (room : 0 < skipping.scratch.length) {fuel : Nat}
    (enough : skipping.remaining < fuel) :
    Loop.run skipMetadataPass fuel skipping ≠ .error .outOfFuel := by
  apply Loop.run_total (fun skipping => 0 < skipping.scratch.length)
    Skipping.remaining (fun _ outcome => outcome ≠ .error .outOfFuel)
    _ _ _ room enough
  · intro skipping failure _ fails
    cases SkipStep.of_pass fails with
    | truncated => simp
  · intro skipping result _ _
    simp
  · intro skipping next roomy again
    cases SkipStep.of_pass again with
    | discarded more skipped progress =>
        refine ⟨skipped.chunk ▸ roomy, ?_, fun _ => id⟩
        omega

/-- Without room in the scratch buffer the loop discards nothing and goes round
for ever. -/
theorem skipMetadata_diverges (noRoom : skipping.scratch.length = 0)
    (more : skipping.remaining > 0) (fuel : Nat) :
    Loop.run skipMetadataPass fuel skipping = .error .outOfFuel := by
  refine Loop.run_diverges
    (fun skipping => skipping.scratch.length = 0 ∧ skipping.remaining > 0)
    ?_ ⟨noRoom, more⟩ fuel
  rintro skipping ⟨noRoom, more⟩
  obtain ⟨filling, reads, filled, _⟩ := readFully_eq skipping.source []
  have nothing : filling.total = 0 := Nat.le_zero.mp filled.fits
  have scratch : skipping.scratch = [] := List.length_eq_zero_iff.mp noRoom
  have empty : filling.dst = [] := List.length_eq_zero_iff.mp filled.length
  refine ⟨{ skipping with source := filling.source }, ?_, noRoom, more⟩
  rw [skipMetadataPass, if_pos more, noRoom, Nat.min_zero, scratch]
  simp [reads, nothing, empty, Span.difference]

/-! ## The constructor -/

/-- A reader as the constructor leaves it. -/
structure Fresh (file : Bytes) (chunkSize : Nat) (reader : DbnReader) :
    Prop where
  assembler : reader.assembler = {}
  rest : reader.source.rest = recordRegion file
  chunk : reader.scratch.length = chunkSize
  failed : reader.failed = false
  stats : reader.stats = {}

/-- The header is read and checked first, whatever the chunk size. -/
theorem construct_eq (fuel : Nat) (source : FileByteSource) (chunkSize : Nat) :
    ((source.Faultless → source.rest.length < 8) ∧
      construct fuel source chunkSize = Ingest.throw .truncatedHeader) ∨
    (∃ header : Filling,
      8 ≤ source.rest.length ∧ header.source.rest = source.rest.drop 8 ∧
      (source.Faultless → header.source.Faultless) ∧
      construct fuel source chunkSize =
        match parseHeader source.rest with
        | .error error => Ingest.throw error
        | .ok version =>
            Loop.run skipMetadataPass fuel
              ⟨metadataLen source.rest, List.replicate chunkSize 0,
                header.source⟩ >>= fun skipped =>
              .ok {
                source := skipped.source
                scratch := skipped.scratch
                version }) := by
  obtain ⟨header, reads, filled, full⟩ :=
    readFully_eq source (List.replicate 8 0)
  have length : header.dst.length = 8 := by
    rw [filled.length, List.length_replicate]
  rw [List.length_replicate] at full
  have fits : header.total ≤ 8 := by
    simpa using filled.fits
  by_cases got : header.total = 8
  · right
    have whole : 8 ≤ source.rest.length := got ▸ filled.within
    have dst : header.dst = source.rest.take 8 := filled.whole got
    have lenFits := metadataLen_lt source.rest
    refine ⟨header, whole, by rw [filled.rest, got], filled.faultless, ?_⟩
    simp only [construct, skipPrologue, reads, Checked.ok_bind, length, got]
    rw [if_neg (by simp), dst, checkHeader_take whole, checkHeader_eq whole]
    cases parseHeader source.rest with
    | error error => rfl
    | ok version =>
        have number : (UInt32.ofNat (metadataLen source.rest)).toNat =
            metadataLen source.rest :=
          UInt32.toNat_ofNat_of_lt' lenFits
        simp only [Checked.ok_bind, number]
  · left
    refine ⟨fun faultless => ?_, ?_⟩
    · have short := full faultless
      omega
    · simp only [construct, skipPrologue, reads, Checked.ok_bind, length]
      rw [if_pos got]

/-- A constructor that returns has accepted the prologue and stands behind it,
whatever the chunk size and the reads. -/
theorem construct_returned {fuel chunkSize : Nat} {reader : DbnReader}
    (returned : construct fuel source chunkSize = .ok reader) :
    parsePrologue source.rest = .ok reader.version ∧
      Fresh source.rest chunkSize reader ∧
      (source.Faultless → reader.source.Faultless) := by
  rcases construct_eq fuel source chunkSize with
    ⟨_, throws⟩ | ⟨header, whole, rest, faultless, equal⟩
  · simp [throws, Ingest.throw] at returned
  · rw [equal] at returned
    cases accepted : parseHeader source.rest with
    | error error => simp [accepted, Ingest.throw] at returned
    | ok version =>
        simp only [accepted] at returned
        obtain ⟨skippedEnd, skips, result⟩ := Checked.bind_eq_ok.mp returned
        cases result
        obtain ⟨skipped, finished⟩ := skipMetadata_returned skips
        have within := skipped.within
        rw [finished, rest, List.length_drop] at within
        refine ⟨parsePrologue_eq_ok.mpr ⟨accepted, ?_⟩, ?_, ?_⟩
        · dsimp only at within
          omega
        · exact {
            assembler := rfl
            rest := by
              rw [skipped.rest, finished, rest, List.drop_drop, recordRegion]
              simp
            chunk := by
              rw [skipped.chunk, List.length_replicate]
            failed := rfl
            stats := rfl }
        · exact fun clean => skipped.faultless (faultless clean)

/-- The constructor fails only by throwing or by never ending. -/
theorem construct_failed {fuel chunkSize : Nat}
    {failure : Failure PrologueError}
    (failed : construct fuel source chunkSize = .error failure) :
    (∃ error, failure = .thrown error) ∨ failure = .outOfFuel := by
  rcases construct_eq fuel source chunkSize with
    ⟨_, throws⟩ | ⟨header, _, _, _, equal⟩
  · rw [throws] at failed
    cases failed
    exact .inl ⟨_, rfl⟩
  · rw [equal] at failed
    cases accepted : parseHeader source.rest with
    | error error =>
        simp only [accepted] at failed
        cases failed
        exact .inl ⟨_, rfl⟩
    | ok version =>
        simp only [accepted] at failed
        rcases Checked.bind_eq_error.mp failed with fails | ⟨_, _, fails⟩
        · rcases skipMetadata_failed fails with thrown | outOfFuel
          · exact .inl ⟨_, thrown⟩
          · exact .inr outOfFuel
        · cases fails

theorem construct_ends {chunkSize fuel : Nat} (room : 0 < chunkSize)
    (enough : metadataLen source.rest < fuel) :
    construct fuel source chunkSize ≠ .error .outOfFuel := by
  rcases construct_eq fuel source chunkSize with
    ⟨_, throws⟩ | ⟨header, _, _, _, equal⟩
  · simp [throws, Ingest.throw]
  · rw [equal]
    cases parseHeader source.rest with
    | error error => simp [Ingest.throw]
    | ok version =>
        intro spent
        rcases Checked.bind_eq_error.mp spent with fails | ⟨_, _, fails⟩
        · exact skipMetadata_ends (by simpa using room) enough fails
        · cases fails

/-- Over a source without device errors and with room in the scratch buffer,
construction ends and does what the prologue of the file demands. -/
theorem construct_faultless (faultless : source.Faultless) {chunkSize : Nat}
    (room : 0 < chunkSize) {fuel : Nat}
    (enough : metadataLen source.rest < fuel) :
    match parsePrologue source.rest with
    | .error error => construct fuel source chunkSize = Ingest.throw error
    | .ok _ => ∃ reader, construct fuel source chunkSize = .ok reader := by
  rcases construct_eq fuel source chunkSize with
    ⟨short, throws⟩ | ⟨header, whole, rest, clean, equal⟩
  · simpa [parsePrologue, parseHeader, short faultless] using throws
  · rw [equal, parsePrologue]
    cases accepted : parseHeader source.rest with
    | error error => rfl
    | ok version =>
        dsimp only
        let start : Skipping :=
          ⟨metadataLen source.rest, List.replicate chunkSize 0, header.source⟩
        have roomy : 0 < start.scratch.length := by simpa [start] using room
        have outcome := skipMetadata_faultless (clean faultless) roomy enough
        have left : header.source.rest.length = source.rest.length - 8 := by
          rw [rest, List.length_drop]
        by_cases truncated : source.rest.length < 8 + metadataLen source.rest
        · rw [if_neg (by simp only [start]; omega)] at outcome
          rw [if_pos truncated, outcome]
          rfl
        · rw [if_pos (by simp only [start]; omega)] at outcome
          obtain ⟨result, returned⟩ := outcome
          rw [if_neg truncated, returned]
          exact ⟨_, rfl⟩

end DbnReader

end TradingSim
