import Mathlib.Data.List.Dedup
import TradingLab.Launcher.Updater

/-!
# Failed updates

Only a bad health check is answered with a rollback, which copies the backup over the application
without removing anything. So an exception in the copy leaves the files copied so far, and a bad
health check leaves the files that only the package has and those the backup passes over.
-/
namespace TradingLab

open Relational
open Relational.Dict

namespace UpdateCall

variable {γ : Type} (call : UpdateCall γ) (given : UpdateSetting γ) {files staged : Files γ}
  {path rel : Path} {count : Nat} {next : Option γ}

def Observed (path : Path) : Prop :=
  call.app <+: path ∧ ¬call.updates <+: path

def Unchanged (before after : Files γ) : Prop :=
  ∀ path, call.Observed path → get? after path = get? before path

def unpacked : Files γ :=
  Files.extractAll [] [] call.package

def content (rel : Path) : Option γ :=
  get? call.unpacked rel

def order : List Path :=
  given.visit (call.unpacked.below [])

/-- The versions name two directories beside each other in the updates directory, which the package
    leaves alone. -/
structure Apart : Prop where
  backup : call.updates <+: call.backupDir
  staging : call.updates <+: call.stagingDir
  beside : ¬call.backupDir <+: call.stagingDir ∧ ¬call.stagingDir <+: call.backupDir
  package : ∀ rel ∈ call.unpacked.below [],
    ¬call.backupDir <+: call.app ++ rel ∧ ¬call.stagingDir <+: call.app ++ rel

/-- An interrupted copy wrote only what was there. After a whole copy and a bad health check, each
    file of the package is the old one, or replaced a file that the backup has. -/
structure Restored (files : Files γ) : Prop where
  interrupted : ∀ count next, given.applyStops = some (count, next) →
    (∀ rel ∈ (call.order given).take count, call.Observed (call.app ++ rel) →
      get? files (call.app ++ rel) = call.content rel) ∧
    ∀ rel new, (call.order given)[count]? = some rel → next = some new →
      call.Observed (call.app ++ rel) → get? files (call.app ++ rel) = some new
  unhealthy : given.applyStops = none → ∀ rel new, call.content rel = some new →
    call.Observed (call.app ++ rel) →
    get? files (call.app ++ rel) = some new ∨
      get? files (call.app ++ rel) ≠ none ∧ isExcluded rel = false

variable {call given}

theorem mem_order : rel ∈ call.order given ↔ call.content rel ≠ none := by
  rw [order, given.mem_visit, Files.mem_below]
  rfl

/-! ### Before the copy -/

theorem beside_append {first second : Path} (beside : ¬first <+: second ∧ ¬second <+: first) :
    ¬first <+: second ++ rel := fun inside =>
  (List.prefix_or_prefix_of_prefix inside (List.prefix_append second rel)).elim beside.1 beside.2

theorem backup_frame (apart : ¬call.backupDir <+: path) :
    get? (call.backupCurrentVersion given files).2 path = get? files path := by
  have kept : ∀ rels, get?
      (Files.copyAll call.app call.backupDir (files.removeTree call.backupDir) rels) path =
        get? files path := fun rels => by
    rw [Files.get?_copyAll_of_apart, Files.get?_removeTree, if_neg apart]
    rintro rel - rfl
    exact apart (List.prefix_append _ _)
  unfold backupCurrentVersion
  split
  · exact kept _
  · exact kept _

theorem staging_frame (apart : ¬call.stagingDir <+: path) :
    get? (call.prepareStaging given files).2 path = get? files path := by
  have kept : ∀ entries, get?
      (Files.extractAll call.stagingDir (files.removeTree call.stagingDir) entries) path =
        get? files path := fun entries => by
    rw [Files.get?_extractAll_of_apart apart, Files.get?_removeTree, if_neg apart]
  simp only [prepareStaging]
  split
  · exact kept _
  · split
    · exact kept _
    · split
      · exact kept _
      · rw [Files.get?_removeTree, if_neg apart]
        exact kept _
      · exact kept _

theorem prepare_frame (apart : call.Apart) (outside : ¬call.updates <+: path) :
    get? (call.prepare given files).2 path = get? files path := by
  have saved : get? (call.backupCurrentVersion given files).2 path = get? files path :=
    backup_frame fun inside => outside (apart.backup.trans inside)
  unfold prepare
  split
  · rfl
  · split
    · rfl
    · split
      · rfl
      · split
        · rename_i ended
          rw [ended] at saved
          exact saved
        · rename_i ended
          rw [ended] at saved
          exact (staging_frame fun inside => outside (apart.staging.trans inside)).trans saved

/-- The files when the copy begins: the package in the staging directory, and in the backup every
    file of the application that it does not pass over. -/
structure Prepared (call : UpdateCall γ) (files staged : Files γ) : Prop where
  outside : ∀ path, ¬call.updates <+: path → get? staged path = get? files path
  package : ∀ rel, get? staged (call.stagingDir ++ rel) = call.content rel
  order : staged.below call.stagingDir = call.unpacked.below []
  saved : ∀ rel, call.Observed (call.app ++ rel) →
    get? staged (call.backupDir ++ rel) =
      if isExcluded rel then none else get? files (call.app ++ rel)
  sources : ∀ rel, get? staged (call.backupDir ++ rel) ≠ none →
    ¬call.backupDir <+: call.app ++ rel

theorem backup_saves (ended : (call.backupCurrentVersion given files).1 = .ok ()) :
    get? (call.backupCurrentVersion given files).2 (call.backupDir ++ rel) =
      if call.backupDir <+: call.app ++ rel ∨ isExcluded rel then none
      else get? files (call.app ++ rel) := by
  have source : ∀ rel, get? (files.removeTree call.backupDir) (call.app ++ rel) =
      if call.backupDir <+: call.app ++ rel then none else get? files (call.app ++ rel) :=
    fun rel => Files.get?_removeTree
  have target : get? (files.removeTree call.backupDir) (call.backupDir ++ rel) = none := by
    rw [Files.get?_removeTree, if_pos (List.prefix_append _ _)]
  simp only [backupCurrentVersion] at ended ⊢
  split at ended
  · rw [Files.get?_copyAll, source, target]
    · by_cases inside : call.backupDir <+: call.app ++ rel <;>
        by_cases excluded : isExcluded rel <;>
        simp [List.mem_filter, given.mem_visit, Files.mem_below, source, inside, excluded]
      exact fun absent => absent.symm
    · intro one _ other member same
      rw [List.mem_filter, given.mem_visit, Files.mem_below, source, same,
        if_pos (List.prefix_append _ _)] at member
      exact member.1 rfl
  · cases ended

theorem staging_unpacks (ended : (call.prepareStaging given files).1 = .ok ()) :
    (call.prepareStaging given files).2 =
      Files.extractAll call.stagingDir (files.removeTree call.stagingDir) call.package := by
  simp only [prepareStaging] at ended ⊢
  split at ended
  · cases ended
  · split at ended
    · rename_i plain
      rw [if_pos plain]
    · rename_i listed
      rw [if_neg listed]
      split at ended
      · rfl
      · cases ended
      · cases ended

theorem prepare_ok (ready : (call.prepare given files).1 = .ok ()) :
    (call.backupCurrentVersion given files).1 = .ok () ∧
      (call.prepareStaging given (call.backupCurrentVersion given files).2).1 = .ok () ∧
      (call.prepare given files).2 =
        (call.prepareStaging given (call.backupCurrentVersion given files).2).2 := by
  simp only [prepare] at ready ⊢
  split at ready
  · cases ready
  · rename_i signed
    rw [if_neg signed]
    split at ready
    · cases ready
    · rename_i same
      rw [if_neg same]
      split at ready
      · cases ready
      · rename_i safe
        rw [if_neg safe]
        split at ready
        · cases ready
        · rename_i ended
          rw [ended]
          exact ⟨rfl, ready, rfl⟩

theorem prepared (apart : call.Apart) (ready : (call.prepare given files).1 = .ok ()) :
    call.Prepared files (call.prepare given files).2 := by
  obtain ⟨backedUp, unpacked, result⟩ := prepare_ok ready
  have staged := staging_unpacks unpacked
  have saved : ∀ rel, get? (call.prepare given files).2 (call.backupDir ++ rel) =
      if call.backupDir <+: call.app ++ rel ∨ isExcluded rel then none
      else get? files (call.app ++ rel) := fun rel => by
    rw [result, staging_frame (beside_append apart.beside.symm), backup_saves backedUp]
  refine ⟨fun path outside => prepare_frame apart outside, fun rel => ?_, ?_, fun rel seen => ?_,
    fun rel present inside => ?_⟩
  · rw [result, staged]
    refine Files.get?_extractAll ?_
    rw [Files.get?_removeTree, if_pos (List.prefix_append _ _)]
    rfl
  · rw [result, staged]
    refine Files.below_extractAll (List.eq_nil_iff_forall_not_mem.mpr fun rel member => ?_)
    rw [Files.mem_below, Files.get?_removeTree, if_pos (List.prefix_append _ _)] at member
    exact member rfl
  · have away : ¬call.backupDir <+: call.app ++ rel := fun inside =>
      seen.2 (apart.backup.trans inside)
    simp only [saved, away, false_or]
  · rw [saved, if_pos (.inl inside)] at present
    exact present rfl

/-! ### The copy and the rollback -/

section Copied

variable (apart : call.Apart) {rels : List Path} (among : ∀ rel ∈ rels, call.content rel ≠ none)

include apart among

theorem copied_app (ready : call.Prepared files staged) :
    get? (Files.copyAll call.stagingDir call.app staged rels) (call.app ++ rel) =
      if rel ∈ rels then call.content rel else get? staged (call.app ++ rel) := by
  have clear : ∀ rel ∈ rels, ¬call.stagingDir <+: call.app ++ rel := fun rel member =>
    (apart.package rel (Files.mem_below.mpr (among rel member))).2
  rw [Files.get?_copyAll, ready.package]
  · split
    · rename_i member
      cases found : call.content rel with
      | none => exact absurd found (among rel member)
      | some new => rfl
    · rfl
  · intro one member other _ same
    refine clear one member ?_
    rw [← same]
    exact List.prefix_append _ _

theorem copied_backup :
    get? (Files.copyAll call.stagingDir call.app staged rels) (call.backupDir ++ rel) =
      get? staged (call.backupDir ++ rel) := by
  refine Files.get?_copyAll_of_apart fun one member same => ?_
  refine (apart.package one (Files.mem_below.mpr (among one member))).1 ?_
  rw [← same]
  exact List.prefix_append _ _

theorem rolled_back (ready : call.Prepared files staged) :
    get? (call.rollback given (Files.copyAll call.stagingDir call.app staged rels))
        (call.app ++ rel) =
      (get? staged (call.backupDir ++ rel)).or
        (get? (Files.copyAll call.stagingDir call.app staged rels) (call.app ++ rel)) := by
  have saved : ∀ rel, get? (Files.copyAll call.stagingDir call.app staged rels)
      (call.backupDir ++ rel) = get? staged (call.backupDir ++ rel) := fun rel =>
    copied_backup apart among
  rw [rollback, Files.get?_copyAll, saved]
  · split
    · rfl
    · rename_i absent
      rw [given.mem_visit, Files.mem_below, saved, not_not] at absent
      rw [absent, Option.none_or]
  · intro one member other _ same
    rw [given.mem_visit, Files.mem_below, saved] at member
    refine ready.sources one member ?_
    rw [← same]
    exact List.prefix_append _ _

end Copied

theorem order_among :
    ∀ rel ∈ (call.order given).take count, call.content rel ≠ none := fun _ member =>
  mem_order.mp (List.mem_of_mem_take member)

theorem not_mem_take (next : (call.order given)[count]? = some rel) :
    rel ∉ (call.order given).take count := fun member => by
  obtain ⟨index, bound, same⟩ := List.mem_take_iff_getElem.mp member
  have here : (call.order given)[index]? = some rel := List.getElem?_eq_some_iff.mpr ⟨_, same⟩
  have distinct : (call.order given).Nodup := given.visit_nodup _
  have equal : index = count := (List.getElem?_inj (by omega) distinct).mp (here.trans next.symm)
  omega

theorem order_eq (ready : call.Prepared files staged) :
    given.visit (staged.below call.stagingDir) = call.order given := by
  rw [ready.order, order]

section

variable (apart : call.Apart) (ready : call.Prepared files staged)
include apart ready

theorem interrupted_app (stops : given.applyStops = some (count, next)) :
    get? (call.applyUpdate given staged).2 (call.app ++ rel) =
      if (call.order given)[count]? = some rel ∧ next ≠ none then next
      else if rel ∈ (call.order given).take count then call.content rel
      else get? staged (call.app ++ rel) := by
  have copied : ∀ rel, get? (Files.copyAll call.stagingDir call.app staged
      ((call.order given).take count)) (call.app ++ rel) =
        if rel ∈ (call.order given).take count then call.content rel
        else get? staged (call.app ++ rel) := fun rel => copied_app apart order_among ready
  simp only [applyUpdate, stops, order_eq ready]
  cases place : (call.order given)[count]? with
  | none => simpa only [reduceCtorEq, false_and, if_false] using copied rel
  | some first =>
    cases next with
    | none => simpa only [ne_eq, not_true_eq_false, and_false, if_false] using copied rel
    | some new =>
      simp only [get?_put, copied, Option.some.injEq, ne_eq, reduceCtorEq, not_false_eq_true,
        and_true, List.append_right_inj, @eq_comm _ first]

theorem interrupted_iff (stops : given.applyStops = some (count, next)) :
    call.Unchanged files (call.applyUpdate given staged).2 ↔ call.Restored given files := by
  constructor
  · intro same
    refine ⟨fun _ _ stopped => ?_, fun whole => (by rw [whole] at stops; cases stops)⟩
    cases stops.symm.trans stopped
    constructor
    · intro rel member seen
      have aside : ¬((call.order given)[count]? = some rel ∧ next ≠ none) := fun both =>
        not_mem_take both.1 member
      rw [← same _ seen, interrupted_app apart ready stops, if_neg aside, if_pos member]
    · rintro rel new place rfl seen
      rw [← same _ seen, interrupted_app apart ready stops, if_pos ⟨place, nofun⟩]
  · rintro restored _ ⟨⟨rel, rfl⟩, outside⟩
    obtain ⟨copied, broken⟩ := restored.interrupted count next stops
    rw [interrupted_app apart ready stops]
    split
    · rename_i both
      obtain ⟨new, rfl⟩ := Option.ne_none_iff_exists'.mp both.2
      exact (broken rel new both.1 rfl ⟨List.prefix_append _ _, outside⟩).symm
    · split
      · rename_i member
        exact (copied rel member ⟨List.prefix_append _ _, outside⟩).symm
      · exact ready.outside _ outside

theorem rolled_back_app (whole : given.applyStops = none) (seen : call.Observed (call.app ++ rel)) :
    get? ((call.rollback given (call.applyUpdate given staged).2).removeTree call.stagingDir)
        (call.app ++ rel) =
      (if isExcluded rel then none else get? files (call.app ++ rel)).or
        ((call.content rel).or (get? files (call.app ++ rel))) := by
  have among : ∀ rel ∈ call.order given, call.content rel ≠ none := fun _ => mem_order.mp
  have outside : ¬call.stagingDir <+: call.app ++ rel := fun inside =>
    seen.2 (apart.staging.trans inside)
  have copied : get? (Files.copyAll call.stagingDir call.app staged (call.order given))
      (call.app ++ rel) = (call.content rel).or (get? files (call.app ++ rel)) := by
    rw [copied_app apart among ready, ready.outside _ seen.2]
    split
    · rename_i member
      obtain ⟨new, carried⟩ := Option.ne_none_iff_exists'.mp (mem_order.mp member)
      rw [carried, Option.some_or]
    · rename_i absent
      rw [not_not.mp (mt mem_order.mpr absent), Option.none_or]
  simp only [applyUpdate, whole, order_eq ready]
  rw [Files.get?_removeTree, if_neg outside, rolled_back apart among ready, ready.saved rel seen,
    copied]

theorem unhealthy_iff (whole : given.applyStops = none) :
    call.Unchanged files
        ((call.rollback given (call.applyUpdate given staged).2).removeTree call.stagingDir) ↔
      call.Restored given files := by
  constructor
  · intro same
    refine ⟨fun _ _ stops => (by rw [whole] at stops; cases stops),
      fun _ rel new carried seen => ?_⟩
    have value := same _ seen
    rw [rolled_back_app apart ready whole seen, carried] at value
    cases excluded : isExcluded rel with
    | true =>
      rw [excluded] at value
      exact .inl value.symm
    | false =>
      cases old : get? files (call.app ++ rel) with
      | none =>
        rw [excluded, old] at value
        cases value
      | some content => exact .inr ⟨nofun, rfl⟩
  · rintro restored _ ⟨⟨rel, rfl⟩, outside⟩
    have seen : call.Observed (call.app ++ rel) := ⟨List.prefix_append _ _, outside⟩
    rw [rolled_back_app apart ready whole seen]
    cases carried : call.content rel with
    | none => cases isExcluded rel <;> cases get? files (call.app ++ rel) <;> rfl
    | some new =>
      rcases restored.unhealthy whole rel new carried seen with same | ⟨present, kept⟩
      · rw [same]
        cases isExcluded rel <;> rfl
      · rw [kept]
        obtain ⟨old, here⟩ := Option.ne_none_iff_exists'.mp present
        rw [here]
        rfl

end

theorem applyUpdate_ok_iff :
    (call.applyUpdate given staged).1 = .ok () ↔ given.applyStops = none := by
  cases stops : given.applyStops with
  | none => simp [applyUpdate, stops]
  | some stop =>
    simp only [applyUpdate, stops]
    split <;> simp

end UpdateCall

namespace SampleUpdate

def installed : Files String :=
  [(["app", "main.py"], "old"), (["app", "orders.db"], "orders")]

def call : UpdateCall String where
  app := ["app"]
  updates := ["app", "updates"]
  currentVersion := "1.0"
  targetVersion := "2.0"
  package := [(["main.py"], "new"), (["orders.db"], "empty"), (["extra.py"], "extra")]

def given (stops : Option (Nat × Option String)) : UpdateSetting String where
  signatureValid := true
  packageMatches := true
  canApply := true
  visit := List.dedup
  visit_nodup := List.nodup_dedup
  mem_visit := fun _ _ => List.mem_dedup
  backupStops := none
  stagingStops := none
  applyStops := stops
  verifyDistribution := fun _ _ => some true
  healthChecker := some fun _ => some false

def replacing : UpdateCall String :=
  { call with package := [(["main.py"], "new")] }

theorem replacing_apart : replacing.Apart where
  backup := by decide
  staging := by decide
  beside := by decide
  package := by decide

theorem replacing_restored : replacing.Restored (given none) installed where
  interrupted := nofun
  unhealthy := by
    intro _ rel new carried _
    have only : rel = ["main.py"] := by
      have found : get? [(["main.py"], "new")] rel = some new := carried
      rw [get?_cons] at found
      split at found
      · rename_i same
        exact same.symm
      · cases found
    subst only
    exact .inr ⟨by decide, by decide⟩

end SampleUpdate

end TradingLab
