import Mathlib.Tactic.Linarith
import TradingLab.Research.WalkForward

/-!
# Walk-forward windows and the trades

A test window takes in both its ends, and the train range ends where the test window starts. So a
trade at the start of a test window lies in the train range of this window, and in the window
before it.
-/
namespace TradingLab.Research

structure Partitioned (start : Int) (trades : List Trade) (windows : List WalkForwardWindow) :
    Prop where
  once : ∀ first last, windows.head? = some first → windows.getLast? = some last →
    ∀ trade ∈ trades, first.testFrom ≤ trade.ts → trade.ts < last.testTo →
      ∃! i : Nat, ∃ window, windows[i]? = some window ∧ trade ∈ window.trades
  late : ∀ window ∈ windows, ∀ trade ∈ window.trades, start ≤ trade.ts
  adjacent : ∀ (i : Nat) window next, windows[i]? = some window → windows[i + 1]? = some next →
    next.testFrom = window.testTo
  apart : ∀ window ∈ windows, ∀ trade ∈ window.trades,
    ¬ (window.trainFrom ≤ trade.ts ∧ trade.ts ≤ window.trainTo)

section Slices
variable {fromTs toTs trainDuration testDuration current : Int} {trades : List Trade} {n : Nat}
  {trade : Trade} {window : WalkForwardWindow}

def sliceAt (fromTs testDuration current : Int) (k : Nat) : Slice :=
  let testFrom := current + k * testDuration
  ⟨fromTs, testFrom, testFrom, testFrom + testDuration⟩

theorem sliceLoop_eq (positive : 0 < testDuration) (current : Int) (fuel : Nat)
    (enough : ((toTs - current) / testDuration).toNat < fuel) :
    sliceLoop fromTs toTs testDuration fuel current =
      some ((List.range ((toTs - current) / testDuration).toNat).map
        (sliceAt fromTs testDuration current)) := by
  induction fuel generalizing current with
  | zero => cases enough
  | succ fuel ih =>
    have turn : (toTs - current) / testDuration =
        (toTs - (current + testDuration)) / testDuration + 1 := by
      rw [← Int.add_mul_ediv_right _ 1 positive.ne']
      congr 1
      ring
    rw [sliceLoop]
    split
    · rename_i fits
      have left : 0 ≤ (toTs - (current + testDuration)) / testDuration :=
        Int.ediv_nonneg (by omega) positive.le
      rw [turn, Int.toNat_add left (by decide), Int.toNat_one] at enough ⊢
      rw [ih _ (by omega), List.range_succ_eq_map, List.map_cons, List.map_map, Option.map_some]
      congr 2
      · simp [sliceAt]
      · refine List.map_congr_left fun k _ => ?_
        simp only [sliceAt, Function.comp_apply, Nat.succ_eq_add_one, Slice.mk.injEq]
        push_cast
        refine ⟨trivial, ?_, ?_, ?_⟩ <;> ring
    · rename_i passed
      have none : (toTs - (current + testDuration)) / testDuration < 0 :=
        Int.ediv_neg_of_neg_of_pos (by omega) positive
      rw [show ((toTs - current) / testDuration).toNat = 0 by omega]
      rfl

theorem mem_windowOf {slice : Slice} {index : Nat} :
    trade ∈ (windowOf trades slice index).trades ↔
      trade ∈ trades ∧ slice.testFrom ≤ trade.ts ∧ trade.ts ≤ slice.testTo := by
  simp [windowOf]

theorem getElem?_windows {i : Nat} :
    (partitionTradesIntoWindows trades
      ((List.range n).map (sliceAt fromTs testDuration current)))[i]? = some window ↔
    i < n ∧ windowOf trades (sliceAt fromTs testDuration current i) i = window := by
  by_cases inside : i < n <;> simp [partitionTradesIntoWindows, inside]

theorem mem_windows :
    window ∈ partitionTradesIntoWindows trades
      ((List.range n).map (sliceAt fromTs testDuration current)) ↔
    ∃ i < n, windowOf trades (sliceAt fromTs testDuration current i) i = window := by
  simp only [List.mem_iff_getElem?, getElem?_windows]

theorem existsUnique_window (positive : 0 < testDuration) (member : trade ∈ trades)
    (after : current ≤ trade.ts) (before : trade.ts < current + n * testDuration)
    (between : ∀ k < n, trade.ts ≠ current + k * testDuration) :
    ∃! i : Nat, i < n ∧
      trade ∈ (windowOf trades (sliceAt fromTs testDuration current i) i).trades := by
  -- Past its start, a window holds the trade only if the next start is after the trade.
  have inside : ∀ i : Nat,
      (i < n ∧ trade ∈ (windowOf trades (sliceAt fromTs testDuration current i) i).trades) ↔
        (trade.ts - current) / testDuration = i := by
    intro i
    rw [mem_windowOf, Int.ediv_eq_iff_of_pos positive]
    simp only [sliceAt, member, true_and]
    constructor
    · rintro ⟨bound, lower, upper⟩
      refine ⟨by linarith, ?_⟩
      rcases Nat.lt_or_eq_of_le (Nat.succ_le_of_lt bound) with more | rfl
      · have next := between (i + 1) more
        push_cast at next ⊢
        have := lt_of_le_of_ne upper (by rwa [add_assoc, ← add_one_mul])
        linarith
      · push_cast at before ⊢
        linarith
    · rintro ⟨lower, upper⟩
      have bound : (i : Int) < n := lt_of_mul_lt_mul_right (by linarith) positive.le
      exact ⟨by exact_mod_cast bound, by linarith, by linarith⟩
  obtain ⟨i, place⟩ := Int.eq_ofNat_of_zero_le
    (Int.ediv_nonneg (sub_nonneg.mpr after) positive.le)
  refine ⟨i, (inside i).mpr place, fun j other => ?_⟩
  exact Int.ofNat.inj (((inside j).mp other).symm.trans place)

/-- The windows divide the trades exactly if no trade is at the start of a test window. The loop
    ends after the number of windows that fit. -/
theorem partitioned_iff (fromTs toTs trainDuration testDuration : Int) (trades : List Trade)
    (trains : 0 < trainDuration) (positive : 0 < testDuration) :
    ∃ slices : List Slice,
      (slices.length : Int) = max 0 ((toTs - fromTs - trainDuration) / testDuration) ∧
      (∀ fuel, slices.length < fuel →
        generateAnchoredSlices fromTs toTs trainDuration testDuration fuel = some slices) ∧
      (Partitioned (fromTs + trainDuration) trades (partitionTradesIntoWindows trades slices) ↔
        ∀ slice ∈ slices, ∀ trade ∈ trades, trade.ts ≠ slice.testFrom) := by
  have same : toTs - (fromTs + trainDuration) = toTs - fromTs - trainDuration := by ring
  refine ⟨_, ?_, fun fuel enough => sliceLoop_eq positive _ _ (by simpa using enough), ?_⟩
  · simp [same, max_comm]
  generalize ((toTs - (fromTs + trainDuration)) / testDuration).toNat = n
  generalize start : fromTs + trainDuration = current
  have later : ∀ k : Nat, current ≤ current + k * testDuration := fun k =>
    le_add_of_nonneg_right (mul_nonneg (Int.natCast_nonneg k) positive.le)
  simp only [List.forall_mem_map, List.mem_range]
  constructor
  · intro partitioned k bound trade member start
    refine partitioned.apart _ (mem_windows.mpr ⟨k, bound, rfl⟩) trade ?_ ⟨?_, start.le⟩
    · exact mem_windowOf.mpr
        ⟨member, start.ge, start.le.trans (le_add_of_nonneg_right positive.le)⟩
    · have after := later k
      simp only [windowOf, sliceAt] at start ⊢
      omega
  · intro between
    constructor
    case once =>
      intro first last starts ends trade member after before
      rw [List.head?_eq_getElem?, getElem?_windows] at starts
      rw [List.getLast?_eq_getElem?, getElem?_windows] at ends
      obtain ⟨-, rfl⟩ := starts
      obtain ⟨some_, rfl⟩ := ends
      simp only [getElem?_windows, and_assoc, exists_and_left, exists_eq_left']
      have length : (partitionTradesIntoWindows trades
          ((List.range n).map (sliceAt fromTs testDuration current))).length = n := by
        simp [partitionTradesIntoWindows]
      rw [length] at some_ before
      refine existsUnique_window positive member ?_ ?_ fun k bound => between k bound trade member
      · simpa [windowOf, sliceAt] using after
      · simp only [windowOf, sliceAt] at before
        rw [Nat.cast_sub (by omega)] at before
        push_cast at before
        linarith
    case late =>
      intro window inside trade member
      obtain ⟨k, -, rfl⟩ := mem_windows.mp inside
      exact (later k).trans (mem_windowOf.mp member).2.1
    case adjacent =>
      intro i window next here after
      obtain ⟨-, rfl⟩ := getElem?_windows.mp here
      obtain ⟨-, rfl⟩ := getElem?_windows.mp after
      simp only [windowOf, sliceAt]
      push_cast
      ring
    case apart =>
      rintro window inside trade member ⟨-, trained⟩
      obtain ⟨k, bound, rfl⟩ := mem_windows.mp inside
      obtain ⟨member, tested, -⟩ := mem_windowOf.mp member
      exact between k bound trade member (le_antisymm trained tested)

end Slices

def Sample.wonAt (ts : Int) : Trade :=
  ⟨ts, "EURUSD-OTC", .call, true, Decimal.ofInt 1, Decimal.ofInt 1, 3⟩

theorem inner_trades_partitioned : ∃ slices, generateAnchoredSlices 0 240 100 60 3 = some slices ∧
    Partitioned 100 [Sample.wonAt 120, Sample.wonAt 180]
      (partitionTradesIntoWindows [Sample.wonAt 120, Sample.wonAt 180] slices) := by
  obtain ⟨slices, count, ends, partitioned⟩ := partitioned_iff 0 240 100 60
    [Sample.wonAt 120, Sample.wonAt 180] (by decide) (by decide)
  have two : slices.length = 2 := Int.ofNat.inj (count.trans (by decide))
  have made := ends 3 (by omega)
  refine ⟨slices, made, partitioned.mpr ?_⟩
  cases made
  decide

/-- A trade at 160 ends one window and starts the next. -/
theorem boundary_trade_twice :
    generateAnchoredSlices 0 240 100 60 3 = some [⟨0, 100, 100, 160⟩, ⟨0, 160, 160, 220⟩] ∧
      ¬ Partitioned 100 [Sample.wonAt 160] (partitionTradesIntoWindows [Sample.wonAt 160]
        [⟨0, 100, 100, 160⟩, ⟨0, 160, 160, 220⟩]) := by
  refine ⟨by decide, fun partitioned => ?_⟩
  obtain ⟨i, -, only⟩ := partitioned.once _ _ rfl rfl (Sample.wonAt 160) List.mem_cons_self
    (by decide) (by decide)
  have first := only 0 ⟨_, rfl, List.mem_cons_self⟩
  have second := only 1 ⟨_, rfl, List.mem_cons_self⟩
  omega

end TradingLab.Research
