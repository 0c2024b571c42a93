import Mathlib.Algebra.Ring.Nat
import Mathlib.Data.List.Basic

/-!
# Dictionaries in insertion order

The entries in the order in which their keys were first put. Putting a key again replaces its value
where it stands.
-/
namespace Relational

abbrev Dict (κ α : Type) := List (κ × α)

namespace Dict

variable {κ α : Type} [DecidableEq κ] {dict : Dict κ α} {key other : κ} {value stored : α}
  {entry : κ × α}

def get? (dict : Dict κ α) (key : κ) : Option α :=
  (dict.find? fun entry => entry.1 == key).map Prod.snd

def put (dict : Dict κ α) (key : κ) (value : α) : Dict κ α :=
  if dict.any (fun entry => entry.1 == key) then
    dict.map fun entry => if entry.1 == key then (key, value) else entry
  else dict ++ [(key, value)]

def erase (dict : Dict κ α) (key : κ) : Dict κ α :=
  dict.filter fun entry => entry.1 != key

def moveToEnd (dict : Dict κ α) (key : κ) : Dict κ α :=
  match dict.get? key with
  | some value => dict.erase key ++ [(key, value)]
  | none => dict

omit [DecidableEq κ] in
def keys (dict : Dict κ α) : List κ :=
  dict.map Prod.fst

omit [DecidableEq κ] in
def values (dict : Dict κ α) : List α :=
  dict.map Prod.snd

theorem get?_cons (entry : κ × α) (rest : Dict κ α) :
    get? (entry :: rest) key = if entry.1 = key then some entry.2 else get? rest key := by
  by_cases same : entry.1 = key <;> simp [get?, same]

theorem get?_append (first second : Dict κ α) :
    get? (first ++ second) key = (get? first key <|> get? second key) := by
  induction first with
  | nil => simp [get?]
  | cons entry rest ih =>
    rw [List.cons_append, get?_cons, get?_cons, ih]
    split <;> simp

theorem mem_values_of_get? (found : get? dict key = some value) : value ∈ values dict := by
  obtain ⟨entry, here, rfl⟩ := Option.map_eq_some_iff.mp found
  exact List.mem_map.mpr ⟨entry, List.mem_of_find?_eq_some here, rfl⟩

theorem get?_eq_none (absent : dict.any (fun entry => entry.1 == key) = false) :
    get? dict key = none := by
  rw [get?, Option.map_eq_none_iff, List.find?_eq_none]
  exact List.any_eq_false.mp absent

theorem get?_eq_none_iff : get? dict key = none ↔ key ∉ keys dict := by
  rw [get?, Option.map_eq_none_iff, List.find?_eq_none, keys, List.mem_map]
  constructor
  · rintro absent ⟨entry, member, rfl⟩
    exact absent entry member (beq_self_eq_true _)
  · intro absent entry member same
    exact absent ⟨entry, member, beq_iff_eq.mp same⟩

theorem put_of_absent (absent : get? dict key = none) :
    put dict key value = dict ++ [(key, value)] := by
  rw [get?, Option.map_eq_none_iff, List.find?_eq_none] at absent
  rw [put, List.any_eq_false.mpr absent, if_neg Bool.false_ne_true]

theorem moveToEnd_of_get? (found : get? dict key = some value) :
    moveToEnd dict key = erase dict key ++ [(key, value)] := by
  rw [moveToEnd, found]

theorem keys_erase : keys (erase dict key) = (keys dict).filter fun other => other != key := by
  rw [keys, keys, erase, List.filter_map]
  rfl

theorem get?_replace :
    get? (dict.map fun entry => if entry.1 == key then (key, value) else entry) other =
      if other = key ∧ dict.any (fun entry => entry.1 == key) then some value
      else get? dict other := by
  induction dict with
  | nil => simp [get?]
  | cons entry rest ih =>
    rw [List.map_cons, get?_cons, get?_cons, ih]
    by_cases here : entry.1 = key <;> by_cases same : other = key <;> grind

theorem get?_put :
    get? (put dict key value) other = if other = key then some value else get? dict other := by
  unfold put
  split
  · rename_i present
    rw [get?_replace]
    simp only [present, and_true]
  · rename_i absent
    rw [get?_append, get?_cons]
    by_cases same : other = key
    · subst same
      rw [get?_eq_none (Bool.eq_false_iff.mpr absent)]
      simp
    · simp [same, Ne.symm same, get?]

theorem get?_erase :
    get? (erase dict key) other = if other = key then none else get? dict other := by
  induction dict with
  | nil => simp [erase, get?]
  | cons entry rest ih =>
    rw [get?_cons]
    by_cases here : entry.1 = key
    · have skipped : erase (entry :: rest) key = erase rest key := by simp [erase, here]
      rw [skipped, ih, here]
      by_cases same : other = key
      · simp [same]
      · simp [same, Ne.symm same]
    · have kept : erase (entry :: rest) key = entry :: erase rest key := by simp [erase, here]
      rw [kept, get?_cons, ih]
      by_cases same : other = key
      · simp [same, here]
      · simp [same]

theorem mem_of_get? (found : get? dict key = some value) : (key, value) ∈ dict := by
  obtain ⟨entry, here, rfl⟩ := Option.map_eq_some_iff.mp found
  have named := List.find?_some here
  rw [← beq_iff_eq.mp named]
  exact List.mem_of_find?_eq_some here

theorem get?_isSome_of_mem (member : entry ∈ dict) :
    (get? dict entry.1).isSome := by
  rw [get?, Option.isSome_map, List.find?_isSome]
  exact ⟨entry, member, beq_self_eq_true _⟩

theorem mem_put (member : entry ∈ put dict key value) :
    entry = (key, value) ∨ entry ∈ dict ∧ entry.1 ≠ key := by
  unfold put at member
  split at member
  · obtain ⟨old, place, rfl⟩ := List.mem_map.mp member
    by_cases here : old.1 = key
    · simp [here]
    · simp [here, place]
  · rename_i absent
    rcases List.mem_append.mp member with place | new
    · refine .inr ⟨place, fun same => absent (List.any_eq_true.mpr ⟨entry, place, ?_⟩)⟩
      exact beq_iff_eq.mpr same
    · exact .inl (List.mem_singleton.mp new)

theorem keys_replace :
    keys (dict.map fun entry => if entry.1 == key then (key, value) else entry) = keys dict := by
  rw [keys, keys, List.map_map]
  refine List.map_congr_left fun entry _ => ?_
  by_cases same : entry.1 = key <;> simp [same]

theorem keys_put : keys (put dict key value) =
    if key ∈ keys dict then keys dict else keys dict ++ [key] := by
  have present : dict.any (fun entry => entry.1 == key) = true ↔ key ∈ keys dict := by
    simp [keys]
  unfold put
  by_cases here : key ∈ keys dict
  · rw [if_pos here, if_pos (present.mpr here), keys_replace]
  · rw [if_neg here, if_neg (mt present.mp here), keys, List.map_append]
    rfl

theorem nodup_keys_put (distinct : (keys dict).Nodup) : (keys (put dict key value)).Nodup := by
  rw [keys_put]
  split
  · exact distinct
  · rename_i absent
    rw [List.nodup_append]
    refine ⟨distinct, by simp, ?_⟩
    rintro old member _ new rfl
    rw [List.mem_singleton.mp new] at member
    exact absent member

theorem sum_values_put {dict : Dict κ Nat} {value : Nat} (distinct : (keys dict).Nodup) :
    (values (put dict key value)).sum + (get? dict key).getD 0 = (values dict).sum + value := by
  unfold put
  split
  · rename_i present
    induction dict with
    | nil => simp at present
    | cons entry rest ih =>
      rw [keys, List.map_cons, List.nodup_cons] at distinct
      by_cases here : entry.1 = key
      · -- The key is nowhere else.
        have away :
            (rest.map fun entry => if entry.1 == key then (key, value) else entry) = rest := by
          refine (List.map_congr_left fun other member => ?_).trans (List.map_id rest)
          have differs : other.1 ≠ key := fun same =>
            distinct.1 (List.mem_map.mpr ⟨other, member, same.trans here.symm⟩)
          simp [differs]
        rw [get?_cons, if_pos here, List.map_cons, away]
        simp only [values, here, beq_self_eq_true, if_true, List.map_cons, List.sum_cons,
          Option.getD_some]
        omega
      · have later : rest.any (fun entry => entry.1 == key) = true := by
          simpa [here] using present
        have tail := ih distinct.2 later
        rw [get?_cons, if_neg here]
        simp only [values, here, beq_iff_eq, if_false, List.map_cons, List.sum_cons] at tail ⊢
        omega
  · rename_i absent
    rw [get?_eq_none (Bool.eq_false_iff.mpr absent)]
    simp [values]

theorem mem_values_put (member : stored ∈ values (put dict key value)) :
    stored = value ∨ stored ∈ values dict := by
  obtain ⟨entry, here, rfl⟩ := List.mem_map.mp member
  unfold put at here
  split at here
  · obtain ⟨old, place, rfl⟩ := List.mem_map.mp here
    split
    · exact Or.inl rfl
    · exact Or.inr (List.mem_map.mpr ⟨old, place, rfl⟩)
  · rcases List.mem_append.mp here with place | new
    · exact Or.inr (List.mem_map.mpr ⟨entry, place, rfl⟩)
    · rw [List.mem_singleton.mp new]
      exact Or.inl rfl

theorem mem_values_of_erase (member : stored ∈ values (erase dict key)) :
    stored ∈ values dict := by
  obtain ⟨entry, here, rfl⟩ := List.mem_map.mp member
  exact List.mem_map.mpr ⟨entry, List.mem_of_mem_filter here, rfl⟩

end Dict

end Relational
