import TradingLab.Relational.Dict

/-!
# File trees

The files of a machine by path. A directory is nothing but the paths through it, so a copy never
fails for want of one, and no path is a file and a directory at once.
-/
namespace Relational

open Relational.Dict

abbrev Path := List String

abbrev Files (γ : Type) := Dict Path γ

namespace Files

variable {γ : Type} {files base : Files γ} {dir src dest path rel : Path} {rels : List Path}
  {entries : List (Path × γ)}

def below (files : Files γ) (dir : Path) : List Path :=
  (keys files).filterMap (·.dropPrefix? dir)

/-- `rmtree(dir)`. -/
def removeTree (files : Files γ) (dir : Path) : Files γ :=
  files.filter fun entry => ¬dir <+: entry.1

/-- `copy2(src, dest)`. -/
def copy (files : Files γ) (src dest : Path) : Files γ :=
  match get? files src with
  | some content => put files dest content
  | none => files

/-- Copies the given files of one directory to their places below another. -/
def copyAll (src dest : Path) : Files γ → List Path → Files γ :=
  List.foldl fun files rel => copy files (src ++ rel) (dest ++ rel)

def extractAll (dir : Path) : Files γ → List (Path × γ) → Files γ :=
  List.foldl fun files entry => put files (dir ++ entry.1) entry.2

theorem mem_below : rel ∈ below files dir ↔ get? files (dir ++ rel) ≠ none := by
  rw [ne_eq, get?_eq_none_iff, not_not, below, List.mem_filterMap]
  simp only [List.dropPrefix?_eq_some_iff, beq_iff_eq]
  constructor
  · rintro ⟨_, member, _, rfl, rfl⟩
    exact member
  · intro member
    exact ⟨_, member, dir, rfl, rfl⟩

theorem get?_removeTree :
    get? (removeTree files dir) path =
      if dir <+: path then none else get? files path := by
  induction files with
  | nil => simp [removeTree, get?]
  | cons entry rest ih =>
    unfold removeTree at ih ⊢
    rw [List.filter_cons, get?_cons]
    by_cases inside : dir <+: entry.1
    · rw [if_neg (by simpa using inside), ih]
      by_cases here : entry.1 = path
      · rw [← here, if_pos inside, if_pos inside]
      · rw [if_neg here]
    · rw [if_pos (by simpa using inside), get?_cons, ih]
      by_cases here : entry.1 = path
      · rw [← here, if_pos rfl, if_pos rfl, if_neg inside]
      · rw [if_neg here, if_neg here]

theorem get?_copy : get? (copy files src dest) path =
    if path = dest then (get? files src).or (get? files path)
    else get? files path := by
  unfold copy
  cases found : get? files src with
  | none => simp
  | some content => simp [get?_put]

theorem get?_copyAll_of_apart (apart : ∀ rel ∈ rels, path ≠ dest ++ rel) :
    get? (copyAll src dest files rels) path = get? files path := by
  induction rels generalizing files with
  | nil => rfl
  | cons rel rest ih =>
    rw [copyAll, List.foldl_cons]
    refine (ih fun other member => apart other (.tail _ member)).trans ?_
    rw [get?_copy, if_neg (apart rel (.head _))]

/-- Where no copy is written over a file to be copied, each file arrives as it was. -/
theorem get?_copyAll (kept : ∀ rel ∈ rels, ∀ other ∈ rels, src ++ other ≠ dest ++ rel) :
    get? (copyAll src dest files rels) (dest ++ rel) =
      if rel ∈ rels then (get? files (src ++ rel)).or (get? files (dest ++ rel))
      else get? files (dest ++ rel) := by
  induction rels generalizing files with
  | nil => simp [copyAll]
  | cons first rest ih =>
    rw [copyAll, List.foldl_cons]
    refine (ih fun one member other among =>
      kept one (.tail _ member) other (.tail _ among)).trans ?_
    by_cases here : rel = first
    · -- The file itself was just copied; a second copy changes nothing.
      subst here
      rw [if_pos (List.mem_cons_self), get?_copy, get?_copy, if_pos rfl,
        if_neg (kept rel (.head _) rel (.head _))]
      split
      · cases get? files (src ++ rel) <;> rfl
      · rfl
    · have elsewhere : dest ++ rel ≠ dest ++ first := fun same =>
        here (List.append_cancel_left same)
      simp only [get?_copy, if_neg elsewhere, List.mem_cons, here, false_or]
      split
      · rename_i later
        rw [if_neg (kept first (.head _) rel (.tail _ later))]
      · rfl

theorem get?_extractAll_of_apart (apart : ¬dir <+: path) :
    get? (extractAll dir files entries) path = get? files path := by
  induction entries generalizing files with
  | nil => rfl
  | cons entry rest ih =>
    rw [extractAll, List.foldl_cons]
    refine ih.trans ?_
    rw [get?_put, if_neg]
    rintro rfl
    exact apart (List.prefix_append _ _)

theorem get?_extractAll (alike : get? files (dir ++ rel) = get? base rel) :
    get? (extractAll dir files entries) (dir ++ rel) =
      get? (extractAll [] base entries) rel := by
  induction entries generalizing files base with
  | nil => exact alike
  | cons entry rest ih =>
    rw [extractAll, extractAll, List.foldl_cons, List.foldl_cons]
    refine ih ?_
    rw [get?_put, get?_put, alike, List.nil_append]
    exact if_congr (List.append_right_inj dir) rfl rfl

theorem below_put {content : γ} :
    below (put files (dir ++ rel) content) dir =
      if rel ∈ below files dir then below files dir else below files dir ++ [rel] := by
  have present : rel ∈ below files dir ↔ dir ++ rel ∈ keys files := by
    rw [mem_below, ne_eq, get?_eq_none_iff, not_not]
  rw [below, keys_put]
  by_cases here : rel ∈ below files dir
  · rw [if_pos here, if_pos (present.mp here), below]
  · have last : (dir ++ rel).dropPrefix? dir = some rel :=
      List.dropPrefix?_eq_some_iff.mpr ⟨dir, rfl, BEq.rfl⟩
    rw [if_neg here, if_neg (mt present.mpr here), List.filterMap_append, below]
    simp [last]

theorem below_extractAll (alike : below files dir = below base []) :
    below (extractAll dir files entries) dir = below (extractAll [] base entries) [] := by
  induction entries generalizing files base with
  | nil => exact alike
  | cons entry rest ih =>
    rw [extractAll, extractAll, List.foldl_cons, List.foldl_cons]
    refine ih ?_
    rw [below_put, below_put, alike]

end Files

end Relational
