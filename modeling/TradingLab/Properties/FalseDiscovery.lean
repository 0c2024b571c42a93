import TradingLab.Numeric.BinomialTail
import TradingLab.Properties.WindowPartition
import TradingLab.Research.MultipleTesting

/-!
# Multiple testing

The step-up procedure passes what lies below some p-value that meets its own threshold. The
pipeline hands the check of every candidate the rank 1 instead, so that all of them are held to the
threshold of the smallest p-value.
-/
namespace TradingLab.Research

open Numeric.Binomial

/-! ### The binomial p-value -/

section Survival
variable {wins n : Nat} {p : ℚ}

theorem survivalTurns_eq (high : p < 1) (m : Nat) (inside : wins + m ≤ n) :
    (List.range' wins m).foldl (survivalTurn n p) (term n p wins, term n p wins) =
      (term n p (wins + m), ∑ j ∈ Finset.Icc wins (wins + m), term n p j) := by
  induction m with
  | zero => simp
  | succ m ih =>
    have next : term n p (wins + m) * (n - (wins + m) : ℕ) / (wins + m + 1 : ℕ) * p / (1 - p) =
        term n p (wins + m + 1) := term_next (by omega) (sub_pos.mpr high).ne'
    rw [List.range'_1_concat, List.foldl_append, ih (by omega), List.foldl_cons, List.foldl_nil,
      survivalTurn, ← Nat.add_assoc, Finset.sum_Icc_succ_top (by omega)]
    simp only [next]

theorem survivalTotal_eq (high : p < 1) (inside : wins ≤ n) :
    survivalTotal wins n p = tail n p wins := by
  have turns := survivalTurns_eq high (n - wins) (Nat.add_sub_cancel' inside).le
  rw [Nat.add_sub_cancel' inside] at turns
  exact congrArg Prod.snd turns

theorem survivalTotal_le_one (low : 0 < p) (high : p < 1) (inside : wins ≤ n) :
    survivalTotal wins n p ≤ 1 := by
  rw [survivalTotal_eq high inside, ← @tail_zero ℚ _ p n]
  exact tail_anti low.le high.le wins.zero_le

theorem binomialSurvivalPValue_eq (low : 0 < p) (high : p < 1) (inside : wins ≤ n) :
    binomialSurvivalPValue wins n p = tail n p wins := by
  rw [binomialSurvivalPValue]
  split
  · rename_i none
    rw [none, tail_zero]
  · rw [if_neg (by omega), if_neg low.not_ge, if_neg high.not_ge,
      min_eq_left (survivalTotal_le_one low high inside), survivalTotal_eq high inside]

/-- **The p-value is the exact tail**, with the monotonicity of a tail; the final `min` is idle. -/
theorem binomial_p_value_exact (n wins : Nat) (p : ℚ) (inside : wins ≤ n) (low : 0 < p)
    (high : p < 1) :
    binomialSurvivalPValue wins n p =
        ∑ j ∈ Finset.Icc wins n, n.choose j * p ^ j * (1 - p) ^ (n - j) ∧
      binomialSurvivalPValue 0 n p = 1 ∧
      (∀ more, wins ≤ more → more ≤ n →
        binomialSurvivalPValue more n p ≤ binomialSurvivalPValue wins n p) ∧
      (∀ q, p ≤ q → q < 1 → binomialSurvivalPValue wins n p ≤ binomialSurvivalPValue wins n q) ∧
      survivalTotal wins n p ≤ 1 := by
  refine ⟨binomialSurvivalPValue_eq low high inside, rfl, fun more le within => ?_,
    fun q le small => ?_, survivalTotal_le_one low high inside⟩
  · rw [binomialSurvivalPValue_eq low high within, binomialSurvivalPValue_eq low high inside]
    exact tail_anti low.le high.le le
  · rw [binomialSurvivalPValue_eq low high inside,
      binomialSurvivalPValue_eq (low.trans_le le) small inside]
    exact tail_mono low.le le small.le

theorem six_wins_p_value :
    binomialSurvivalPValue 6 8 (11 / 20) =
      ∑ j ∈ Finset.Icc 6 8, (Nat.choose 8 j : ℚ) * (11 / 20) ^ j * (1 - 11 / 20) ^ (8 - j) :=
  (binomial_p_value_exact 8 6 (11 / 20) (by decide) (by norm_num) (by norm_num)).1

end Survival

/-! ### The step-up procedure -/

section StepUp
variable {total k : Nat} {alpha : ℚ} {ps : List ℚ}

/-- The p-value lies below some `p_(k + 1)` that meets its threshold. -/
def PassesStepUp (total : Nat) (alpha : ℚ) (ps : List ℚ) (p : ℚ) : Prop :=
  ∃ (k : Nat) (v : ℚ), (ps.insertionSort (· ≤ ·))[k]? = some v ∧ v ≤ (k + 1) * alpha / total ∧ p ≤ v

structure StepUp (total : Nat) (alpha : ℚ) (ps : List ℚ) : Prop where
  passes : ∀ (i : Nat) p, ps[i]? = some p →
    ((benjaminiHochberg total alpha ps)[i]? = some true ↔ PassesStepUp total alpha ps p)
  /-- Equal p-values have equal flags, also in a permuted input. -/
  equivariant : ∀ qs, qs.Perm ps → ∀ i j : Nat, qs[i]? = ps[j]? →
    (benjaminiHochberg total alpha qs)[i]? = (benjaminiHochberg total alpha ps)[j]?

theorem criticalValue_succ : criticalValue total alpha (k + 1) = (k + 1) * alpha / total := by
  rw [criticalValue, Nat.cast_succ]
  ring

theorem lt_maxRank_iff {indexed : List IndexedValue} :
    k < maxRank total alpha indexed ↔
      ∃ j item, k ≤ j ∧ indexed[j]? = some item ∧ item.1 ≤ criticalValue total alpha (j + 1) := by
  -- By the last rank, which the loop looks at last and keeps if its value meets the threshold.
  induction indexed using List.reverseRecOn with
  | nil => simp [maxRank]
  | append_singleton items last ih =>
    have turn : maxRank total alpha (items ++ [last]) =
        if last.1 ≤ criticalValue total alpha (items.length + 1) then items.length + 1
        else maxRank total alpha items := by
      simp [maxRank, List.zipIdx_append, Nat.add_comm]
    rw [turn]
    split
    · rename_i meets
      refine ⟨fun below => ⟨_, last, Nat.le_of_lt_succ below, List.getElem?_concat_length, meets⟩,
        fun ⟨j, item, le, here, _⟩ => ?_⟩
      have inside := (List.getElem?_eq_some_iff.mp here).1
      rw [List.length_append, List.length_singleton] at inside
      omega
    · rename_i fails
      rw [ih]
      refine exists_congr fun j => exists_congr fun item => and_congr_right fun _ => ?_
      rcases lt_trichotomy j items.length with early | rfl | late
      · rw [List.getElem?_append_left early]
      · rw [List.getElem?_concat_length, List.getElem?_eq_none le_rfl]
        refine ⟨fun both => (nomatch both.1), fun both => ?_⟩
        cases both.1
        exact absurd both.2 fails
      · rw [List.getElem?_eq_none late.le, List.getElem?_eq_none (by simpa using late)]

theorem getElem?_flags {maxK i : Nat} (ranked : List (IndexedValue × Nat)) (flags : List Bool) :
    (ranked.foldl (fun flags item => if item.2 ≤ maxK then flags.set item.1.2 true else flags)
        flags)[i]? =
      flags[i]?.map (· || ranked.any fun item => decide (item.2 ≤ maxK ∧ item.1.2 = i)) := by
  induction ranked generalizing flags with
  | nil => simp
  | cons item rest ih =>
    rw [List.foldl_cons, ih]
    grind

theorem getElem?_benjaminiHochberg (positive : 0 < total) (i : Nat) :
    (benjaminiHochberg total alpha ps)[i]? = ps[i]?.map fun _ =>
      ((sortedValues ps).zipIdx 1).any fun item =>
        decide (item.2 ≤ maxRank total alpha (sortedValues ps) ∧ item.1.2 = i) := by
  rw [benjaminiHochberg]
  split
  · rename_i ends
    rw [ends.resolve_right positive.ne']
    rfl
  · rw [getElem?_flags]
    grind

theorem map_sortedValues : (sortedValues ps).map Prod.fst = ps.insertionSort (· ≤ ·) := by
  rw [sortedValues, List.map_insertionSort _ (· ≤ ·) _ _ fun _ _ _ _ => Iff.rfl, List.zipIdx_map_fst]

theorem mem_sortedValues {i : Nat} {p : ℚ} : (p, i) ∈ sortedValues ps ↔ ps[i]? = some p := by
  rw [sortedValues, (List.perm_insertionSort _ _).mem_iff, List.mk_mem_zipIdx_iff_getElem?]

theorem sortedValues_mono {r j : Nat} {a b : IndexedValue} (le : r ≤ j)
    (first : (sortedValues ps)[r]? = some a) (second : (sortedValues ps)[j]? = some b) :
    a.1 ≤ b.1 := by
  have total : Std.Total fun a b : IndexedValue => a.1 ≤ b.1 := ⟨fun a b => le_total a.1 b.1⟩
  have trans : IsTrans IndexedValue fun a b => a.1 ≤ b.1 := ⟨fun _ _ _ => le_trans⟩
  have sorted := List.pairwise_insertionSort (fun a b : IndexedValue => a.1 ≤ b.1) ps.zipIdx
  obtain ⟨inside, rfl⟩ := List.getElem?_eq_some_iff.mp first
  obtain ⟨within, rfl⟩ := List.getElem?_eq_some_iff.mp second
  rcases le.eq_or_lt with rfl | less
  · exact le_rfl
  · exact List.pairwise_iff_getElem.mp sorted r j inside within less

theorem flag_iff_rank (positive : 0 < total) {i : Nat} {p : ℚ} (here : ps[i]? = some p) :
    (benjaminiHochberg total alpha ps)[i]? = some true ↔
      ∃ r, (sortedValues ps)[r]? = some (p, i) ∧ r < maxRank total alpha (sortedValues ps) := by
  rw [getElem?_benjaminiHochberg positive, here, Option.map_some, Option.some_inj,
    List.any_eq_true]
  constructor
  · rintro ⟨⟨⟨q, j⟩, rank⟩, listed, flagged⟩
    obtain ⟨le, rfl⟩ := of_decide_eq_true flagged
    obtain ⟨least, there⟩ := List.mk_mem_zipIdx_iff_le_and_getElem?_sub.mp listed
    have same := mem_sortedValues.mp (List.mem_of_getElem? there)
    rw [here, Option.some_inj] at same
    exact ⟨rank - 1, same ▸ there, by omega⟩
  · rintro ⟨r, ranked, less⟩
    refine ⟨((p, i), 1 + r), List.mk_add_mem_zipIdx_iff_getElem?.mpr ranked, decide_eq_true ?_⟩
    exact ⟨by omega, rfl⟩

theorem benjaminiHochberg_iff (positive : 0 < total) (nonneg : 0 ≤ alpha) {i : Nat} {p : ℚ}
    (here : ps[i]? = some p) :
    (benjaminiHochberg total alpha ps)[i]? = some true ↔ PassesStepUp total alpha ps p := by
  rw [flag_iff_rank positive here]
  constructor
  · rintro ⟨r, ranked, less⟩
    obtain ⟨j, item, le, there, meets⟩ := lt_maxRank_iff.mp less
    refine ⟨j, item.1, ?_, criticalValue_succ ▸ meets, sortedValues_mono le ranked there⟩
    rw [← map_sortedValues, List.getElem?_map, there]
    rfl
  · rintro ⟨j, v, value, meets, below⟩
    rw [← map_sortedValues, List.getElem?_map, Option.map_eq_some_iff] at value
    obtain ⟨item, there, rfl⟩ := value
    rw [← criticalValue_succ] at meets
    obtain ⟨r, ranked⟩ := List.mem_iff_getElem?.mp (mem_sortedValues.mpr here)
    refine ⟨r, ranked, lt_maxRank_iff.mpr ?_⟩
    rcases le_total r j with le | ge
    · exact ⟨j, item, le, there, meets⟩
    · -- A value of a later rank that is not larger meets the larger threshold.
      refine ⟨r, _, le_rfl, ranked, below.trans (meets.trans ?_)⟩
      rw [criticalValue_succ, criticalValue_succ]
      gcongr

theorem stepUp (enough : ps.length ≤ total) (low : 0 < alpha) : StepUp total alpha ps := by
  rcases Nat.eq_zero_or_pos total with rfl | positive
  · obtain rfl := List.eq_nil_of_length_eq_zero (Nat.le_zero.mp enough)
    refine ⟨fun i p here => (nomatch here), fun qs same i j _ => ?_⟩
    rw [same.eq_nil]
    rfl
  refine ⟨fun i p here => benjaminiHochberg_iff positive low.le here, fun qs same i j alike => ?_⟩
  -- The flag of a value depends on the sorted values alone.
  have sorted : qs.insertionSort (· ≤ ·) = ps.insertionSort (· ≤ ·) :=
    List.Perm.eq_of_pairwise' (List.pairwise_insertionSort _ _) (List.pairwise_insertionSort _ _)
      ((List.perm_insertionSort _ _).trans (same.trans (List.perm_insertionSort _ _).symm))
  cases here : ps[j]? with
  | none =>
    rw [getElem?_benjaminiHochberg positive, getElem?_benjaminiHochberg positive, alike, here]
    rfl
  | some p =>
    have flags := benjaminiHochberg_iff positive low.le (alike.trans here)
    rw [PassesStepUp, sorted, ← PassesStepUp, ← benjaminiHochberg_iff positive low.le here] at flags
    simp only [getElem?_benjaminiHochberg positive, alike, here, Option.map_some, Option.some_inj]
      at flags ⊢
    exact Bool.eq_iff_iff.mpr flags

end StepUp

/-! ### The check of the pipeline -/

section Pipeline
variable (logs : List TradeLog) (pMin : ℚ) (total : Nat)

/-- The procedure is the step-up procedure, and the check of the pipeline agrees with it on every
    candidate of a run. -/
def FdrControlled : Prop :=
  (∀ n alpha ps, ps.length ≤ n → 0 < alpha → alpha < 1 → StepUp n alpha ps) ∧
    ∀ (i : Nat) log, logs[i]? = some log → ((log.fdr pMin total).passed = true ↔
      (benjaminiHochberg total (1 / 20) (logs.map (·.pValue pMin)))[i]? = some true)

variable {logs pMin total}

theorem fdr_passed_iff {log : TradeLog} (positive : 0 < total) :
    (log.fdr pMin total).passed = true ↔ log.pValue pMin ≤ 1 / 20 / total := by
  have first : criticalValue total (1 / 20) 1 = 1 / 20 / total := by
    rw [criticalValue]
    push_cast
    ring
  simp only [TradeLog.fdr, fdrCandidateCheck, positive.ne', one_ne_zero, or_self, if_false, first,
    not_false_eq_true, true_and, decide_eq_true_eq]

/-- **The pipeline controls the false discoveries** of a run exactly when no p-value meets a
    threshold but the first. -/
theorem fdr_controlled_iff (logs : List TradeLog) (pMin : ℚ) (total : Nat) :
    FdrControlled logs pMin total ↔ ∀ (k : Nat) (v : ℚ),
      ((logs.map (·.pValue pMin)).insertionSort (· ≤ ·))[k]? = some v →
        v ≤ (k + 1) * (1 / 20) / total → v ≤ 1 / 20 / total := by
  rw [FdrControlled, and_iff_right fun n alpha ps enough low _ => stepUp enough low]
  rcases Nat.eq_zero_or_pos total with rfl | positive
  · simp [TradeLog.fdr, fdrCandidateCheck, benjaminiHochberg]
  have nonneg : (0 : ℚ) ≤ 1 / 20 := by norm_num
  constructor
  · intro agrees k v value meets
    have listed := (List.perm_insertionSort _ _).mem_iff.mp (List.mem_of_getElem? value)
    obtain ⟨log, known, rfl⟩ := List.mem_map.mp listed
    obtain ⟨i, here⟩ := List.mem_iff_getElem?.mp known
    refine (fdr_passed_iff positive).mp ((agrees i log here).mpr ?_)
    exact (benjaminiHochberg_iff positive nonneg (by rw [List.getElem?_map, here]; rfl)).mpr
      ⟨k, _, value, meets, le_rfl⟩
  · intro first i log here
    rw [fdr_passed_iff positive,
      benjaminiHochberg_iff positive nonneg (by rw [List.getElem?_map, here]; rfl)]
    constructor
    · intro meets
      have listed : log.pValue pMin ∈ (logs.map (·.pValue pMin)).insertionSort (· ≤ ·) :=
        (List.perm_insertionSort _ _).mem_iff.mpr
          (List.mem_map.mpr ⟨log, List.mem_of_getElem? here, rfl⟩)
      obtain ⟨k, value⟩ := List.mem_iff_getElem?.mp listed
      refine ⟨k, _, value, meets.trans ?_, le_rfl⟩
      have more : (0 : ℚ) ≤ k := k.cast_nonneg
      gcongr
      linarith
    · rintro ⟨k, v, value, meets, below⟩
      exact below.trans (first k v value meets)

end Pipeline

/-- Two candidates with six wins in six trades: the procedure passes both, and the check neither. -/
theorem six_wins_refused :
    ¬ FdrControlled (.replicate 2 ⟨.replicate 6 (Sample.wonAt 0), 0⟩) (11 / 20) 2 := by
  intro controlled
  have passes := (controlled.2 0 _ rfl).mpr (by decide +kernel)
  revert passes
  decide +kernel

end TradingLab.Research
