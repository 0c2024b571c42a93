import Mathlib.Data.List.Pairwise
import Mathlib.Data.List.Basic

/-!
# Tables with uniqueness constraints

A table is the list of its rows in insertion order. Its uniqueness constraints are one relation on
pairs of rows, and the table carries the proof that its rows satisfy it: `insert` answers `none`
where they would not, and `update` asks for a change of rows that cannot create a violation.
-/
namespace Relational

/-- The uniqueness constraints of a row type: `Distinct a b` says that rows `a`
    and `b` may stand in one table. -/
class Constrained (ρ : Type) where
  Distinct : ρ → ρ → Prop
  symm : ∀ {a b : ρ}, Distinct a b → Distinct b a
  irrefl : ∀ a : ρ, ¬ Distinct a a
  decide : DecidableRel Distinct

export Constrained (Distinct)

instance {ρ : Type} [Constrained ρ] : DecidableRel (Distinct (ρ := ρ)) :=
  Constrained.decide

instance {ρ : Type} [Constrained ρ] : Std.Symm (Distinct (ρ := ρ)) :=
  ⟨fun _ _ => Constrained.symm⟩

structure Table (ρ : Type) [Constrained ρ] where
  rows : List ρ
  distinct : rows.Pairwise Distinct
deriving DecidableEq

namespace Table

variable {ρ κ : Type} [Constrained ρ] [DecidableEq κ] {p : ρ → Bool} {f : ρ → ρ} {r a b row : ρ}
  {t t' : Table ρ} {key : ρ → κ} {k : κ}

def empty : Table ρ := ⟨[], .nil⟩

/-- A column (or a tuple of columns) that no two rows of a table share. -/
def UniqueColumn (key : ρ → κ) : Prop :=
  ∀ a b : ρ, key a = key b → ¬ Distinct a b

/-- Changing a row by `f` keeps it apart from every row it was apart from. -/
def Keeps (f : ρ → ρ) : Prop :=
  ∀ a b : ρ, Distinct a b → Distinct (f a) b

/-- The row whose column `key` holds `k`: `SELECT … WHERE key = k`. -/
def lookup (t : Table ρ) (key : ρ → κ) (k : κ) : Option ρ :=
  t.rows.find? fun r => key r == k

/-- Refused when the new row violates a uniqueness constraint. -/
def insert (t : Table ρ) (row : ρ) : Option (Table ρ) :=
  if free : ∀ r ∈ t.rows, Distinct r row then
    some ⟨t.rows ++ [row], List.pairwise_append.mpr ⟨t.distinct, List.pairwise_singleton _ _,
      fun r member other only => by
        rw [List.mem_singleton.mp only]
        exact free r member⟩⟩
  else none

/-- One row under `UPDATE … SET f WHERE p`. -/
def change (p : ρ → Bool) (f : ρ → ρ) (r : ρ) : ρ :=
  if p r then f r else r

omit [Constrained ρ] in
theorem change_of_true (h : p r = true) :
    change p f r = f r := by
  simp only [change, h, if_true]

omit [Constrained ρ] in
theorem change_of_false (h : p r = false) :
    change p f r = r := by
  simp [change, h]

omit [Constrained ρ] in
theorem column_change {γ : Type} {column : ρ → γ} (same : ∀ r, column (f r) = column r) (r : ρ) :
    column (change p f r) = column r := by
  unfold change
  split
  · exact same r
  · rfl

theorem distinct_change (keeps : Keeps f)
    (apart : Distinct a b) : Distinct (change p f a) (change p f b) := by
  have left : ∀ {c d : ρ}, Distinct c d → Distinct (change p f c) d := by
    intro c d h
    unfold change
    split
    · exact keeps c d h
    · exact h
  exact Constrained.symm (left (Constrained.symm (left apart)))

/-- `UPDATE … SET f WHERE p`. -/
def update (t : Table ρ) (p : ρ → Bool) (f : ρ → ρ) (keeps : Keeps f) : Table ρ :=
  ⟨t.rows.map (change p f),
    List.Pairwise.map _ (fun _ _ apart => distinct_change keeps apart) t.distinct⟩

theorem mem_of_lookup (found : t.lookup key k = some r) : r ∈ t.rows ∧ key r = k :=
  ⟨List.mem_of_find?_eq_some found, by simpa using List.find?_some found⟩

theorem lookup_eq_none_iff :
    t.lookup key k = none ↔ ∀ r ∈ t.rows, key r ≠ k := by
  simp [lookup]

/-- Two rows of one table that the constraints do not tell apart are one row. -/
theorem eq_of_mem (ha : a ∈ t.rows) (hb : b ∈ t.rows) (same : ¬ Distinct a b) : a = b := by
  by_contra differ
  exact same (t.distinct.forall ha hb differ)

/-- Looking up a unique column finds exactly the row that holds the key. -/
theorem lookup_eq_some_iff (unique : UniqueColumn key) : t.lookup key k = some r ↔ r ∈ t.rows ∧ key r = k := by
  constructor
  · exact mem_of_lookup
  · rintro ⟨member, holds⟩
    cases found : t.lookup key k with
    | none => exact absurd holds (lookup_eq_none_iff.mp found r member)
    | some other =>
      obtain ⟨otherMember, otherHolds⟩ := mem_of_lookup found
      have : other = r :=
        eq_of_mem otherMember member (unique other r (otherHolds.trans holds.symm))
      rw [this]

theorem lookup_of_mem (unique : UniqueColumn key)
    (member : r ∈ t.rows) : t.lookup key (key r) = some r :=
  (lookup_eq_some_iff unique).mpr ⟨member, rfl⟩

theorem insert_eq_some_iff :
    t.insert row = some t' ↔
      (∀ r ∈ t.rows, Distinct r row) ∧ t'.rows = t.rows ++ [row] := by
  unfold insert
  split
  · rename_i free
    constructor
    · intro h
      cases h
      exact ⟨free, rfl⟩
    · rintro ⟨-, rows⟩
      cases t'
      simp only at rows
      subst rows
      rfl
  · rename_i taken
    simp [taken]

theorem lookup_insert (inserted : t.insert row = some t') (unique : UniqueColumn key) (k : κ) :
    t'.lookup key k = if key row = k then some row else t.lookup key k := by
  obtain ⟨free, rows⟩ := insert_eq_some_iff.mp inserted
  split
  · rename_i holds
    refine (lookup_eq_some_iff unique).mpr ⟨?_, holds⟩
    simp [rows]
  · rename_i differs
    simp [lookup, rows, List.find?_append, differs]

theorem lookup_none_of_insert (inserted : t.insert row = some t') (unique : UniqueColumn key) : t.lookup key (key row) = none := by
  obtain ⟨free, -⟩ := insert_eq_some_iff.mp inserted
  refine lookup_eq_none_iff.mpr fun r member same => ?_
  exact unique r row same (free r member)

/-! ### Updating -/

section Update
variable {t : Table ρ} {p : ρ → Bool} {f : ρ → ρ} (keeps : Keeps f)

@[simp] theorem rows_update : (t.update p f keeps).rows = t.rows.map (change p f) := rfl

variable {key : ρ → κ}

theorem lookup_update (same : ∀ r, key (f r) = key r) (k : κ) :
    (t.update p f keeps).lookup key k = (t.lookup key k).map (change p f) := by
  have test : ((fun r => key r == k) ∘ change p f) = fun r => key r == k := by
    funext r
    simp only [Function.comp_apply, column_change same]
  simp only [lookup, rows_update, List.find?_map, test]

theorem isSome_lookup_update (same : ∀ r, key (f r) = key r) (k : κ) :
    ((t.update p f keeps).lookup key k).isSome = (t.lookup key k).isSome := by
  rw [lookup_update keeps same, Option.isSome_map]

variable {k : κ}

theorem lookup_update_key (same : ∀ r, key (f r) = key r)
    (only : ∀ r, p r = true → key r = k) (k' : κ) :
    (t.update p f keeps).lookup key k' =
      if k' = k then (t.lookup key k).map (change p f) else t.lookup key k' := by
  rw [lookup_update keeps same]
  split
  · rename_i here
    rw [here]
  · rename_i elsewhere
    cases found : t.lookup key k' with
    | none => rfl
    | some r =>
      have untouched : p r = false := by
        by_contra touched
        rw [Bool.not_eq_false] at touched
        exact elsewhere ((mem_of_lookup found).2.symm.trans (only r touched))
      rw [Option.map_some, change_of_false untouched]

theorem lookup_update_at (same : ∀ r, key (f r) = key r) (k k' : κ) (keeps : Keeps f) :
    (t.update (fun r => key r == k) f keeps).lookup key k' =
      if k' = k then (t.lookup key k).map f else t.lookup key k' := by
  have only : ∀ r : ρ, (key r == k) = true → key r = k := fun r h => by simpa using h
  rw [lookup_update_key keeps same only]
  split
  · cases found : t.lookup key k with
    | none => rfl
    | some r => simp [change, (mem_of_lookup found).2]
  · rfl

def rowCount (t : Table ρ) (p : ρ → Bool) : Nat :=
  t.rows.countP p

theorem rowCount_eq_one_iff (unique : UniqueColumn key) (only : ∀ r, p r = true → key r = k) :
    t.rowCount p = 1 ↔ ∃ r, t.lookup key k = some r ∧ p r = true := by
  constructor
  · intro one
    obtain ⟨r, member, holds⟩ := List.countP_pos_iff.mp (one ▸ Nat.one_pos)
    exact ⟨r, (lookup_eq_some_iff unique).mpr ⟨member, only r holds⟩, holds⟩
  · rintro ⟨r, found, holds⟩
    have positive : 0 < t.rowCount p :=
      List.countP_pos_iff.mpr ⟨r, (mem_of_lookup found).1, holds⟩
    have single : t.rowCount p ≤ 1 := by
      have apart : (t.rows.filter p).Pairwise Distinct := t.distinct.filter p
      rw [rowCount, List.countP_eq_length_filter]
      match h : t.rows.filter p with
      | [] => simp
      | [_] => simp
      | a :: b :: rest =>
        have inFilter : ∀ c ∈ [a, b], key c = k := by
          intro c hc
          have : c ∈ t.rows.filter p := by
            rw [h]
            simp only [List.mem_cons, List.not_mem_nil, or_false] at hc ⊢
            rcases hc with rfl | rfl <;> simp
          exact only c (List.mem_filter.mp this).2
        rw [h] at apart
        have := List.rel_of_pairwise_cons apart (List.mem_cons_self)
        exact absurd this (unique a b
          ((inFilter a (by simp)).trans (inFilter b (by simp)).symm))
    omega

end Update

end Table

end Relational
