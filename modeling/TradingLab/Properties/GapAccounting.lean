import TradingLab.Collect.Backfill
import TradingLab.Machine.Run
import Mathlib.Data.List.Nodup

/-!
# Every minute is accounted for

Up to the last stored candle, every minute is stored or lies in a recorded gap with its session, in
every run of calls, whichever of them fail. What a call records begins at its cursor or later, so it
overwrites no gap that an earlier minute relies on.
-/
namespace TradingLab.Collect

open Machine

/-! ### Gaps -/

theorem mem_minutes {start stop ts : Int} :
    ts ∈ minutes start stop ↔ start ≤ ts ∧ ts < stop ∧ (ts - start) % 60 = 0 := by
  simp only [minutes, List.mem_map, List.mem_range]
  constructor
  · rintro ⟨i, below, rfl⟩
    omega
  · intro within
    exact ⟨((ts - start) / 60).toNat, by omega, by omega⟩

theorem nodup_minutes (start stop : Int) : (minutes start stop).Nodup := by
  refine List.Nodup.map (fun i j same => ?_) List.nodup_range
  omega

theorem minutes_concat {start stop : Int} (later : start ≤ stop)
    (aligned : (stop - start) % 60 = 0) :
    minutes start (stop + 60) = minutes start stop ++ [stop] := by
  obtain ⟨k, rfl⟩ : ∃ k : Nat, stop = start + 60 * k := ⟨((stop - start) / 60).toNat, by omega⟩
  have more : ((start + 60 * k + 60 - start + 59) / 60).toNat = k + 1 := by omega
  have less : ((start + 60 * k - start + 59) / 60).toNat = k := by omega
  simp only [minutes, more, less, List.range_succ, List.map_append, List.map_singleton]

def GapRecord.minutes (gap : GapRecord) : List Int := Collect.minutes gap.fromTs gap.toTs

/-- The gaps, one after the other, are these minutes. -/
structure Splits (asset : String) (gaps : List GapRecord) (missing : List Int) : Prop where
  whole : gaps.flatMap GapRecord.minutes = missing
  labelled : ∀ gap ∈ gaps, gap.fromTs < gap.toTs ∧
    ∀ ts ∈ gap.minutes, inSession asset ts = gap.inSession

namespace Splits

variable {asset : String} {gaps : List GapRecord} {missing : List Int} {start previous : Int}
  {detectedAt : Int} {flag : Bool}

theorem push (splits : Splits asset gaps missing) (ts detectedAt : Int) :
    Splits asset (gaps ++ [⟨ts, ts + 60, detectedAt, inSession asset ts, false⟩])
      (missing ++ [ts]) := by
  have only : Collect.minutes ts (ts + 60) = [ts] := by
    rw [minutes_concat le_rfl (by simp)]
    simp [Collect.minutes]
  constructor
  · simp [splits.whole, GapRecord.minutes, only]
  · simp only [List.mem_append, List.mem_singleton]
    rintro gap (old | rfl)
    · exact splits.labelled gap old
    · simp [GapRecord.minutes, only]

theorem extend (aligned : (previous - start) % 60 = 0)
    (splits : Splits asset (gaps ++ [⟨start, previous + 60, detectedAt, flag, false⟩]) missing)
    (same : inSession asset (previous + 60) = flag) :
    Splits asset (gaps ++ [⟨start, previous + 60 + 60, detectedAt, flag, false⟩])
      (missing ++ [previous + 60]) := by
  obtain ⟨whole, labelled⟩ := splits
  obtain ⟨begun, flags⟩ := labelled _ (List.mem_append_right _ (List.mem_singleton.mpr rfl))
  simp only [GapRecord.minutes] at begun flags
  have longer := minutes_concat begun.le (by omega)
  constructor
  · simp only [← whole, List.flatMap_append, List.flatMap_singleton, GapRecord.minutes, longer,
      List.append_assoc]
  · simp only [List.mem_append, List.mem_singleton] at labelled ⊢
    rintro gap (old | rfl)
    · exact labelled gap (.inl old)
    · refine ⟨by simp only; omega, ?_⟩
      simp only [GapRecord.minutes, longer, List.mem_append, List.mem_singleton]
      rintro ts (inside | rfl)
      · exact flags ts inside
      · exact same

theorem fromTs_mem {gap : GapRecord} (splits : Splits asset gaps missing) (has : gap ∈ gaps) :
    gap.fromTs ∈ gap.minutes :=
  mem_minutes.mpr ⟨le_rfl, (splits.labelled gap has).1, by simp⟩

theorem distinct (splits : Splits asset gaps missing) (nodup : missing.Nodup) :
    (gaps.map (·.fromTs)).Nodup := by
  rw [← splits.whole, List.nodup_flatMap] at nodup
  refine List.pairwise_map.mpr (nodup.2.imp_of_mem fun hasA hasB apart same => ?_)
  exact apart (splits.fromTs_mem hasA) (same ▸ splits.fromTs_mem hasB)

end Splits

theorem gapLoop_splits {asset : String} {detectedAt : Int} (rest : List Int) :
    ∀ {result start previous flag done}, (previous - start) % 60 = 0 →
      Splits asset (result ++ [⟨start, previous + 60, detectedAt, flag, false⟩]) done →
      Splits asset (gapLoop asset detectedAt result start previous flag rest) (done ++ rest) := by
  induction rest with
  | nil =>
    intro result start previous flag done _ splits
    simpa [gapLoop] using splits
  | cons ts rest ih =>
    intro result start previous flag done aligned splits
    rw [List.append_cons]
    simp only [gapLoop]
    split_ifs with next
    · obtain ⟨rfl, same⟩ := next
      exact ih (by omega) (splits.extend aligned same)
    · exact ih (by simp) (splits.push ts detectedAt)

theorem classifyGaps_splits (asset : String) (expected presentTs : List Int) (detectedAt : Int) :
    Splits asset (classifyGaps asset expected presentTs detectedAt)
      (expected.filter fun ts => !presentTs.contains ts) := by
  unfold classifyGaps
  split
  · rename_i none
    rw [none]
    exact ⟨rfl, by simp⟩
  · rename_i start rest missing
    rw [missing]
    have first : Splits asset [] [] := ⟨rfl, by simp⟩
    exact gapLoop_splits rest (by simp) (first.push start detectedAt)

/-- **The gaps of a batch are exact**: one after the other they are the missing minutes, and a gap
    has the session of each of its minutes. -/
theorem gaps_exact (asset : String) (expected presentTs : List Int) (detectedAt : Int) :
    (classifyGaps asset expected presentTs detectedAt).flatMap GapRecord.minutes =
        expected.filter (fun ts => !presentTs.contains ts) ∧
      ∀ gap ∈ classifyGaps asset expected presentTs detectedAt, ∀ ts ∈ gap.minutes,
        gap.inSession = inSession asset ts := by
  have splits := classifyGaps_splits asset expected presentTs detectedAt
  exact ⟨splits.whole, fun gap has ts inside => ((splits.labelled gap has).2 ts inside).symm⟩

/-! ### The repository -/

namespace Repository

variable {repository : Repository} {gaps : List GapRecord} {gap : GapRecord} {ts : Int}

def Stored (repository : Repository) (ts : Int) : Prop :=
  ∃ row ∈ repository.candles, row.1.ts = ts

theorem Stored.aligned (stored : repository.Stored ts) : ts % 60 = 0 := by
  obtain ⟨row, -, rfl⟩ := stored
  have valid := row.1.valid
  simp only [CandleFields.validateCandle, Bool.and_eq_true, beq_iff_eq] at valid
  exact valid.1.2

theorem stored_upsertCandle (forceSource : Bool) (source : String) (candle : Candle) :
    (repository.upsertCandle forceSource source candle).2.Stored ts ↔
      repository.Stored ts ∨ ts = candle.ts := by
  simp only [upsertCandle]
  split_ifs with conflict
  · simp only [List.any_filter, List.any_eq_true, Bool.and_eq_true, decide_eq_true_eq] at conflict
    obtain ⟨row, listed, same, -⟩ := conflict
    exact (or_iff_left_of_imp fun eq => ⟨row, listed, same.trans eq.symm⟩).symm
  all_goals
    simp only [Stored, List.mem_cons, List.mem_filter, exists_eq_or_imp]
    grind

theorem upsertCandles_spec (forceSource : Bool) (source : String) (candles : List Candle)
    (repository : Repository) :
    (repository.upsertCandles forceSource source candles).2.gaps = repository.gaps ∧
      ∀ ts, (repository.upsertCandles forceSource source candles).2.Stored ts ↔
        repository.Stored ts ∨ ts ∈ candles.map (·.ts) := by
  unfold upsertCandles
  generalize 0 = inserted
  induction candles generalizing inserted repository with
  | nil => simp
  | cons candle rest ih =>
    obtain ⟨same, stored⟩ := ih (repository.upsertCandle forceSource source candle).2
      (inserted + (repository.upsertCandle forceSource source candle).1)
    refine ⟨same.trans ?_, fun ts => (stored ts).trans ?_⟩
    · simp only [upsertCandle]
      split_ifs <;> rfl
    · rw [stored_upsertCandle, List.map_cons, List.mem_cons, or_assoc]

/-- A gap stays that no new one begins with, and the new ones are all there. -/
theorem gaps_recordGaps (distinct : (gaps.map (·.fromTs)).Nodup)
    (has : repository.gaps gap.fromTs = some gap ∧ gap.fromTs ∉ gaps.map (·.fromTs) ∨
      gap ∈ gaps) :
    (repository.recordGaps gaps).gaps gap.fromTs = some gap := by
  unfold recordGaps
  simp only
  generalize repository.gaps = rows at has
  induction gaps generalizing rows with
  | nil => simpa using has
  | cons first rest ih =>
    rw [List.map_cons, List.nodup_cons] at distinct
    refine ih distinct.2 _ ?_
    rcases has with ⟨old, apart⟩ | new
    · simp only [List.map_cons, List.mem_cons, not_or] at apart
      exact .inl ⟨by simp [old, apart.1], apart.2⟩
    · rcases List.mem_cons.mp new with rfl | later
      · exact .inl ⟨by simp, distinct.1⟩
      · exact .inr later

/-- From the one moment to the other, every minute is stored or lies in a gap of its session. -/
def Accounted (repository : Repository) (asset : String) (firstTs cursor : Int) : Prop :=
  ∀ ts, firstTs ≤ ts → ts < cursor → ts % 60 = 0 → repository.Stored ts ∨
    ∃ gap, repository.gaps gap.fromTs = some gap ∧ ts ∈ gap.minutes ∧
      gap.inSession = inSession asset ts

/-- A call has got to the cursor. -/
structure Reached (repository : Repository) (asset : String) (firstTs cursor : Int) : Prop where
  accounted : repository.Accounted asset firstTs cursor
  below : ∀ ts, repository.Stored ts → ts < cursor

/-- Up to each stored candle the minutes are accounted for. -/
def Kept (asset : String) (firstTs : Int) (repository : Repository) : Prop :=
  ∀ ts, repository.Stored ts → repository.Accounted asset firstTs ts

end Repository

open Repository

/-! ### The calls -/

namespace BackfillCall

variable {call : BackfillCall} {asset : String} {repository : Repository}
  {firstTs cursor batchEnd : Int} {candles validated : List Candle}

theorem validateBatch_within (ok : validateBatch cursor batchEnd candles = .ok validated) :
    ∀ candle ∈ validated, cursor ≤ candle.ts ∧ candle.ts < batchEnd := by
  simp only [validateBatch] at ok
  split_ifs at ok
  · cases ok
  · obtain ⟨-, -, ok⟩ := Except.bind_ok_iff.mp ok
    obtain ⟨⟨result, seen⟩, loop, ok⟩ := Except.bind_ok_iff.mp ok
    simp only at ok
    split_ifs at ok
    · cases ok
    · cases ok
      refine Except.foldlM_invariant
        (fun state => ∀ candle ∈ state.1, cursor ≤ candle.ts ∧ candle.ts < batchEnd) ?_ loop
        (by simp)
      rintro ⟨before, seen⟩ item - ⟨after, seen'⟩ within turn
      simp only at turn
      split_ifs at turn with refused
      cases turn
      simp only [List.mem_append, List.mem_singleton]
      rintro candle (old | rfl)
      · exact within candle old
      · omega

/-- A batch takes the call to its end: what it records begins at the cursor or later. -/
theorem reached_write (aligned : cursor % 60 = 0) (further : cursor ≤ batchEnd)
    (within : ∀ candle ∈ validated, cursor ≤ candle.ts ∧ candle.ts < batchEnd)
    (reached : repository.Reached asset firstTs cursor) :
    (call.write validated (classifyGaps asset (minutes cursor batchEnd) (validated.map (·.ts))
      call.nowTs) repository).2.Reached asset firstTs batchEnd := by
  have splits := classifyGaps_splits asset (minutes cursor batchEnd) (validated.map (·.ts))
    call.nowTs
  generalize classifyGaps asset _ _ _ = gaps at splits
  have distinct := splits.distinct ((nodup_minutes cursor batchEnd).filter _)
  obtain ⟨same, stored⟩ := upsertCandles_spec call.forceSource call.source validated repository
  constructor
  · intro ts late early minute
    rcases lt_or_ge ts cursor with before | here
    · rcases reached.accounted ts late before minute with known | ⟨gap, has, covers, label⟩
      · exact .inl ((stored ts).mpr (.inl known))
      · -- The gap begins before the cursor, so no new one takes its place.
        refine .inr ⟨gap, gaps_recordGaps distinct (.inl ⟨same ▸ has, fun again => ?_⟩), covers,
          label⟩
        obtain ⟨new, hasNew, eq⟩ := List.mem_map.mp again
        have listed := List.mem_flatMap.mpr ⟨new, hasNew, splits.fromTs_mem hasNew⟩
        rw [splits.whole] at listed
        have := (mem_minutes.mp (List.mem_filter.mp listed).1).1
        have := (mem_minutes.mp covers).1
        omega
    · by_cases present : ts ∈ validated.map (·.ts)
      · exact .inl ((stored ts).mpr (.inr present))
      · have missing : ts ∈ gaps.flatMap GapRecord.minutes := by
          rw [splits.whole, List.mem_filter, mem_minutes]
          exact ⟨⟨here, early, by omega⟩, by simpa using present⟩
        obtain ⟨gap, has, covers⟩ := List.mem_flatMap.mp missing
        exact .inr ⟨gap, gaps_recordGaps distinct (.inr has), covers,
          ((splits.labelled gap has).2 ts covers).symm⟩
  · intro ts known
    rcases (stored ts).mp known with old | new
    · exact (reached.below ts old).trans_le further
    · obtain ⟨candle, has, rfl⟩ := List.mem_map.mp new
      exact (within candle has).2

/-- The loop gets somewhere, and to the end unless it raises. -/
theorem backfillLoop_reached (stores : call.dryRun = false) (aligned : cursor % 60 = 0)
    (result : BackfillResult) (reached : repository.Reached asset firstTs cursor) :
    ∃ last, (call.backfillLoop asset cursor result repository).2.Reached asset firstTs last ∧
      ∀ done, (call.backfillLoop asset cursor result repository).1 = .ok done →
        call.endExclusive ≤ last := by
  fun_induction call.backfillLoop asset cursor result repository with
  | case1 cursor => exact ⟨cursor, reached, by simp⟩
  | case2 cursor result repository going batchEnd expected validated answered gaps written next
      writes ih =>
    have within := validateBatch_within (Except.bind_ok_iff.mp answered).choose_spec.2
    have positive : (0 : Int) < maxBatch := by decide
    have closed : call.endExclusive % 60 = 0 := by
      unfold endExclusive closedCandleExclusive
      omega
    have stored : call.write validated gaps repository = (written, next) := by
      simpa [stores] using writes
    have moved : next = (call.write validated gaps repository).2 := by rw [stored]
    exact ih (by omega) (moved ▸ reached_write aligned (by omega) within reached)
  | case3 cursor => exact ⟨cursor, reached, by omega⟩

theorem backfillLoop_dryRun (dry : call.dryRun = true) (result : BackfillResult) :
    (call.backfillLoop asset cursor result repository).2 = repository := by
  fun_induction call.backfillLoop asset cursor result repository with
  | case1 => rfl
  | case2 cursor result repository going batchEnd expected validated answered gaps written next
      writes ih =>
    have same : (0, repository) = (written, next) := by simpa [dry] using writes
    rw [ih, (Prod.mk.inj same).2]
  | case3 => rfl

/-- Where a call begins, all before is accounted for. -/
theorem reached_start (first : call.firstTs ≤ firstTs) (kept : repository.Kept asset firstTs) :
    repository.Reached asset firstTs ((repository.watermark.map (· + 60)).getD call.firstTs) := by
  cases marked : repository.watermark with
  | none =>
    have empty := List.map_eq_nil_iff.mp (List.max?_eq_none_iff.mp marked)
    constructor
    · intro ts late early
      exact absurd (late.trans_lt early) first.not_gt
    · rintro ts ⟨row, listed, -⟩
      rw [empty] at listed
      cases listed
  | some last =>
    obtain ⟨listed, most⟩ := List.max?_eq_some_iff.mp marked
    have stored : repository.Stored last := List.mem_map.mp listed
    have aligned := stored.aligned
    simp only [Option.map_some, Option.getD_some]
    constructor
    · intro ts late early minute
      rcases (show ts ≤ last by omega).lt_or_eq with before | rfl
      · exact kept last stored ts late before minute
      · exact .inl stored
    · intro ts other
      have := most ts (List.mem_map.mpr other)
      omega

theorem backfillAsset_kept (first : call.firstTs ≤ firstTs)
    (kept : repository.Kept asset firstTs) :
    (call.backfillAsset asset repository).2.Kept asset firstTs ∧ (call.dryRun = false →
      ∀ done, (call.backfillAsset asset repository).1 = .ok done →
        (call.backfillAsset asset repository).2.Accounted asset firstTs call.endExclusive) := by
  unfold backfillAsset
  simp only
  split_ifs with invalid
  · exact ⟨kept, fun _ _ done => nomatch done⟩
  · cases stores : call.dryRun with
    | true =>
      rw [backfillLoop_dryRun stores]
      exact ⟨kept, fun no => nomatch no⟩
    | false =>
      obtain ⟨last, reached, ends⟩ := backfillLoop_reached stores (by omega)
        { nextWatermark := repository.watermark } (reached_start first kept)
      constructor
      · intro final stored ts late early
        exact reached.accounted ts late (early.trans (reached.below final stored))
      · intro _ done answered ts late early
        exact reached.accounted ts late (early.trans_le (ends done answered))

end BackfillCall

/-- Ten minutes of which the client has none. -/
def emptyCall : BackfillCall where
  nowTs := 600
  initialFromTs := some 0
  dryRun := false
  forceSource := false
  source := "EURUSD|iqoptionapi@1"
  fetchCandles _ _ := .ok []

end TradingLab.Collect
