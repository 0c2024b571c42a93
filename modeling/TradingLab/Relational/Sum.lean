import Mathlib.Data.List.Nodup
import TradingLab.Relational.Table

/-!
# Sums of a column

`SELECT SUM(column) FROM … WHERE p`, and how the sum moves with the rows.
-/
namespace Relational

section Sum
variable {ρ σ : Type} {rows : List ρ} {p q : ρ → Bool} {f g : ρ → Int}

/-- `COALESCE(SUM(column), 0)` over the rows that satisfy `p`. -/
def sumWhere (rows : List ρ) (p : ρ → Bool) (column : ρ → Int) : Int :=
  ((rows.filter p).map column).foldr (fun value total => value + total) 0

def weight (p : ρ → Bool) (column : ρ → Int) (r : ρ) : Int :=
  if p r then column r else 0

theorem weight_congr {r : ρ} (chosen : p r = q r) (value : f r = g r) :
    weight p f r = weight q g r := by
  rw [weight, weight, chosen, value]

@[simp] theorem sumWhere_nil : sumWhere [] p f = 0 := rfl

theorem sumWhere_cons (r : ρ) : sumWhere (r :: rows) p f = weight p f r + sumWhere rows p f := by
  unfold sumWhere weight
  cases chosen : p r <;> simp [chosen]

theorem sumWhere_append (more : List ρ) :
    sumWhere (rows ++ more) p f = sumWhere rows p f + sumWhere more p f := by
  induction rows with
  | nil => simp
  | cons r rows ih =>
    rw [List.cons_append, sumWhere_cons, sumWhere_cons, ih, Int.add_assoc]

theorem sumWhere_map (change : σ → ρ) (rows : List σ) :
    sumWhere (rows.map change) p f =
      sumWhere rows (fun r => p (change r)) fun r => f (change r) := by
  induction rows with
  | nil => rfl
  | cons r rows ih =>
    rw [List.map_cons, sumWhere_cons, sumWhere_cons, ih]
    rfl

theorem sumWhere_mono (le : ∀ r ∈ rows, weight p f r ≤ weight q g r) :
    sumWhere rows p f ≤ sumWhere rows q g := by
  induction rows with
  | nil => exact Int.le_refl 0
  | cons r rows ih =>
    rw [sumWhere_cons, sumWhere_cons]
    apply Int.add_le_add
    · exact le r List.mem_cons_self
    · exact ih fun a member => le a (List.mem_cons_of_mem r member)

theorem sumWhere_congr (same : ∀ r ∈ rows, weight p f r = weight q g r) :
    sumWhere rows p f = sumWhere rows q g := by
  apply Int.le_antisymm
  · exact sumWhere_mono fun r member => Int.le_of_eq (same r member)
  · exact sumWhere_mono fun r member => Int.le_of_eq (same r member).symm

theorem sumWhere_eq_zero (none : ∀ r ∈ rows, weight p f r = 0) : sumWhere rows p f = 0 := by
  induction rows with
  | nil => rfl
  | cons r rows ih =>
    rw [sumWhere_cons, none r List.mem_cons_self,
      ih fun a member => none a (List.mem_cons_of_mem r member), Int.add_zero]

theorem sumWhere_point (nodup : rows.Nodup) {r : ρ} (member : r ∈ rows)
    (others : ∀ a ∈ rows, a ≠ r → weight q g a = weight p f a) :
    sumWhere rows q g = sumWhere rows p f + (weight q g r - weight p f r) := by
  induction rows with
  | nil => cases member
  | cons a rows ih =>
    obtain ⟨fresh, nodup⟩ := List.nodup_cons.mp nodup
    rw [sumWhere_cons, sumWhere_cons]
    by_cases here : a = r
    · -- The rest of the list does not hold the row again.
      subst here
      have rest : sumWhere rows q g = sumWhere rows p f := by
        apply sumWhere_congr
        intro b inRest
        apply others b (List.mem_cons_of_mem a inRest)
        rintro rfl
        exact fresh inRest
      omega
    · have inRest := List.mem_of_ne_of_mem (Ne.symm here) member
      have rest := ih nodup inRest fun b between => others b (List.mem_cons_of_mem a between)
      have head := others a List.mem_cons_self here
      omega

end Sum

namespace Table
variable {ρ κ : Type} [Constrained ρ] [DecidableEq κ]

omit [DecidableEq κ] in
theorem nodup_column {key : ρ → κ} (unique : UniqueColumn key) (t : Table ρ) :
    (t.rows.map key).Nodup := by
  rw [List.nodup_iff_pairwise_ne, List.pairwise_map]
  apply t.distinct.imp
  intro a b apart same
  exact unique a b same apart

end Table

end Relational
