import Mathlib.Data.List.Induction
import Mathlib.Data.List.Nodup

/-!
# Recency

The window of the latest distinct keys of a history. A cache that moves a key it holds to the end,
and drops its oldest key when it is full, holds exactly this window.
-/
namespace Relational

variable {κ : Type} [DecidableEq κ]

/-- The keys after one more observation of `key`. -/
def touch (keys : List κ) (key : κ) : List κ :=
  key :: keys.filter fun other => other != key

/-- The distinct keys of a history, the latest first. -/
def recency (history : List κ) : List κ :=
  history.foldl touch []

def recent (size : Nat) (history : List κ) : List κ :=
  (recency history).take size

section Touch
variable {keys : List κ} {key : κ} {size : Nat}

theorem nodup_touch (nodup : keys.Nodup) : (touch keys key).Nodup := by
  rw [touch, List.nodup_cons]
  exact ⟨by simp, nodup.filter _⟩

theorem filter_ne_of_notMem (absent : key ∉ keys) :
    (keys.filter fun other => other != key) = keys := by
  rw [List.filter_eq_self]
  intro other member
  rw [bne_iff_ne]
  rintro rfl
  exact absent member

theorem take_touch_of_mem (nodup : keys.Nodup) (member : key ∈ keys.take size) :
    (touch keys key).take size = touch (keys.take size) key := by
  induction keys generalizing size with
  | nil => cases size <;> cases member
  | cons first rest ih =>
    cases size with
    | zero => cases member
    | succ size =>
      obtain ⟨notIn, nodup⟩ := List.nodup_cons.mp nodup
      by_cases here : first = key
      · subst here
        have absent : first ∉ rest.take size := fun inRest => notIn (List.mem_of_mem_take inRest)
        simp [touch, filter_ne_of_notMem notIn, filter_ne_of_notMem absent]
      · have there : key ∈ rest.take size := by
          rcases List.mem_cons.mp member with same | inRest
          · exact absurd same.symm here
          · exact inRest
        have ih := ih nodup there
        cases size with
        | zero => cases there
        | succ size =>
          simp only [touch, List.take_succ_cons, List.cons.injEq, true_and] at ih
          simp [touch, here, ih]

theorem take_touch_of_notMem (absent : key ∉ keys.take size) :
    (touch keys key).take size = (key :: keys.take size).take size := by
  cases size with
  | zero => rfl
  | succ size =>
    rw [touch, List.take_succ_cons, List.take_succ_cons, List.take_take,
      Nat.min_eq_left (Nat.le_succ size)]
    congr 1
    induction keys generalizing size with
    | nil => rfl
    | cons first rest ih =>
      have different : first ≠ key := by
        rintro rfl
        exact absent (List.mem_cons_self ..)
      cases size with
      | zero => rfl
      | succ size =>
        have absent : key ∉ rest.take (size + 1) := fun inRest =>
          absent (List.mem_cons_of_mem _ inRest)
        simp [different, ih _ absent]

end Touch

theorem recency_append_singleton (history : List κ) (key : κ) :
    recency (history ++ [key]) = touch (recency history) key := by
  simp [recency]

theorem nodup_recency (history : List κ) : (recency history).Nodup := by
  induction history using List.reverseRecOn with
  | nil => exact .nil
  | append_singleton history key ih =>
    rw [recency_append_singleton]
    exact nodup_touch ih

end Relational
