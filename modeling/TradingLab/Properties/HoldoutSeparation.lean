import TradingLab.Properties.HoldoutOnce

/-!
# The separation of the holdout

Whichever way the start of the holdout is chosen, it lies after the first timestamp and not after
the last one. So both parts have a candle, and the fallback to the last candle is never taken.
-/
namespace TradingLab

/-- What a split should be to the candles that it was made of. -/
structure HoldoutSplit.Separates (candles : List Candle) (duration : Int) (split : HoldoutSplit) :
    Prop where
  whole : (split.trainValCandles ++ split.holdoutCandles).Perm candles
  trainable : split.trainValCandles ≠ []
  testable : split.holdoutCandles ≠ []
  before : ∀ a ∈ split.trainValCandles, ∀ b ∈ split.holdoutCandles, a.ts < b.ts
  outside : ∀ candle ∈ split.trainValCandles, ¬ InRange split.holdoutRange candle.ts
  inside : ∀ candle ∈ split.holdoutCandles, InRange split.holdoutRange candle.ts
  timed : ∀ first ∈ candles, ∀ last ∈ candles, (∀ candle ∈ candles, candle.ts ≤ last.ts) →
    duration < last.ts - first.ts →
      ∀ candle, candle ∈ split.holdoutCandles ↔ candle ∈ candles ∧ last.ts - duration ≤ candle.ts

def splitFrom (hash : List Candle → String) (ordered : List Candle) (last : Candle) (start : Int) :
    HoldoutSplit where
  trainValCandles := ordered.filter fun candle => candle.ts < start
  holdoutCandles := ordered.filter fun candle => start ≤ candle.ts
  holdoutRange := (start, last.ts)
  holdoutHash := hash (ordered.filter fun candle => start ≤ candle.ts)

variable {candles ordered : List Candle} {first last : Candle} {duration start : Int}

theorem sortedCandles_perm : (sortedCandles candles).Perm candles :=
  List.perm_insertionSort _ _

theorem sortedCandles_strict (distinct : (candles.map fun candle => candle.ts).Nodup) :
    (sortedCandles candles).Pairwise fun a b => a.ts < b.ts := by
  have total : Std.Total fun a b : Candle => a.ts ≤ b.ts := ⟨fun a b => le_total a.ts b.ts⟩
  have trans : IsTrans Candle fun a b => a.ts ≤ b.ts := ⟨fun _ _ _ => le_trans⟩
  have sorted := List.pairwise_insertionSort (fun a b : Candle => a.ts ≤ b.ts) candles
  have apart := (sortedCandles_perm.map fun candle => candle.ts).nodup_iff.mpr distinct
  exact (sorted.and (List.pairwise_map.mp apart)).imp fun both => lt_of_le_of_ne both.1 both.2

theorem sortedCandles_congr {other : List Candle} (same : other.Perm candles)
    (distinct : (candles.map fun candle => candle.ts).Nodup) :
    sortedCandles other = sortedCandles candles := by
  refine List.Perm.eq_of_pairwise (fun _ _ _ _ less more => absurd more less.not_gt)
    (sortedCandles_strict ((same.map _).nodup_iff.mpr distinct)) (sortedCandles_strict distinct) ?_
  exact sortedCandles_perm.trans (same.trans sortedCandles_perm.symm)

section Ordered
variable (strict : ordered.Pairwise fun a b => a.ts < b.ts) (head : ordered.head? = some first)
  (final : ordered.getLast? = some last)

include strict head in
theorem first_ts_le {candle : Candle} (member : candle ∈ ordered) : first.ts ≤ candle.ts := by
  obtain ⟨rest, rfl⟩ := List.head?_eq_some_iff.mp head
  rcases List.mem_cons.mp member with rfl | later
  · exact le_rfl
  · exact ((List.pairwise_cons.mp strict).1 _ later).le

include strict final in
theorem ts_le_last {candle : Candle} (member : candle ∈ ordered) : candle.ts ≤ last.ts := by
  obtain ⟨front, rfl⟩ := List.getLast?_eq_some_iff.mp final
  rcases List.mem_append.mp member with early | here
  · exact ((List.pairwise_append.mp strict).2.2 _ early _ (List.mem_singleton_self _)).le
  · rw [List.mem_singleton.mp here]

include strict head final

theorem holdoutStart_between (two : 2 ≤ ordered.length) (positive : 0 < duration) :
    ∃ start, holdoutStart ordered first last duration = some start ∧ first.ts < start ∧
      start ≤ last.ts ∧ (duration < last.ts - first.ts → start = last.ts - duration) := by
  rw [holdoutStart]
  split
  · -- A fifth of the candles, and of few candles the last one, but never the first.
    rename_i short
    have inside : max (ordered.length * 4 / 5) 1 < ordered.length := by omega
    refine ⟨_, by rw [List.getElem?_eq_getElem inside]; rfl, ?_,
      ts_le_last strict final (List.getElem_mem inside), fun long => absurd short long.not_ge⟩
    rw [List.head?_eq_getElem?, List.getElem?_eq_getElem (by omega), Option.some_inj] at head
    rw [← head]
    exact List.pairwise_iff_getElem.mp strict 0 _ (by omega) inside (by omega)
  · exact ⟨_, rfl, by omega, by omega, fun _ => rfl⟩

theorem splitFrom_separates (hash : List Candle → String) (same : ordered.Perm candles)
    (after : first.ts < start) (early : start ≤ last.ts)
    (timed : duration < last.ts - first.ts → start = last.ts - duration) :
    (splitFrom hash ordered last start).Separates candles duration := by
  constructor
  case whole =>
    have opposite : (fun candle : Candle => decide (start ≤ candle.ts)) =
        fun candle => !decide (candle.ts < start) := by
      funext candle
      simp only [← decide_not, not_lt]
    simp only [splitFrom, opposite]
    exact (List.filter_append_perm _ _).trans same
  case trainable =>
    exact List.ne_nil_of_mem (List.mem_filter.mpr ⟨List.mem_of_head? head, decide_eq_true after⟩)
  case testable =>
    exact List.ne_nil_of_mem
      (List.mem_filter.mpr ⟨List.mem_of_getLast? final, decide_eq_true early⟩)
  case before =>
    intro a trained b tested
    exact (of_decide_eq_true (List.mem_filter.mp trained).2).trans_le
      (of_decide_eq_true (List.mem_filter.mp tested).2)
  case outside =>
    intro candle trained inside
    exact (of_decide_eq_true (List.mem_filter.mp trained).2).not_ge inside.1
  case inside =>
    intro candle tested
    obtain ⟨member, late⟩ := List.mem_filter.mp tested
    exact ⟨of_decide_eq_true late, ts_le_last strict final member⟩
  case timed =>
    intro least known greatest listed most long candle
    have low := first_ts_le strict head (same.mem_iff.mpr known)
    have top : greatest.ts = last.ts := le_antisymm
      (ts_le_last strict final (same.mem_iff.mpr listed))
      (most last (same.mem_iff.mp (List.mem_of_getLast? final)))
    rw [splitFrom, List.mem_filter, same.mem_iff, decide_eq_true_eq, timed (by omega), top]

end Ordered

/-- **The holdout is separated** by time, completely, and in the same way whatever order the
    candles come in. -/
theorem holdout_separated (hash : List Candle → String) (candles : List Candle) (duration : Int)
    (two : 2 ≤ candles.length) (distinct : (candles.map fun candle => candle.ts).Nodup)
    (positive : 0 < duration) :
    ∃ split, split.Separates candles duration ∧ ∀ other, other.Perm candles →
      separateHoldout hash other duration = some split := by
  have strict := sortedCandles_strict distinct
  rw [← sortedCandles_perm.length_eq] at two
  have nonempty : sortedCandles candles ≠ [] := List.length_pos_iff.mp (by omega)
  have head := List.head?_eq_some_head nonempty
  have final := List.getLast?_eq_some_getLast nonempty
  obtain ⟨start, starts, after, early, timed⟩ := holdoutStart_between strict head final two positive
  have separates := splitFrom_separates strict head final hash sortedCandles_perm after early timed
  refine ⟨_, separates, fun other permuted => ?_⟩
  simp only [separateHoldout, sortedCandles_congr permuted distinct, head, final, starts,
    Option.bind_eq_bind, Option.bind_some]
  exact if_neg fun both => both.1.elim separates.trainable separates.testable

open Sample in
theorem two_candles_separated :
    ∃ split, split.Separates [stillCandle 1, stillCandle 0] 60 ∧ ∀ other,
      other.Perm [stillCandle 1, stillCandle 0] →
        separateHoldout (fun _ => "") other 60 = some split :=
  holdout_separated (fun _ => "") _ 60 le_rfl (by decide) (by decide)

end TradingLab
