import TradingLab.Machine.Run
import TradingLab.Research.Holdout

/-!
# The sealed holdout is used once

A manager asks only the ranges that it has burned itself: the table that it writes is never read.
A run burns its range after it has replayed the holdout, so a run that fails in between is not known
either. And two ranges that meet in a single timestamp do not count as overlapping.
-/
namespace TradingLab

open Relational Machine

def InRange (range : HoldoutRange) (ts : Int) : Prop :=
  range.1 ≤ ts ∧ ts ≤ range.2

/-- No candle of the two runs has a timestamp in both of their ranges. -/
def SharesNoCandle (a b : ResearchRun) : Prop :=
  ∀ candle ∈ a.candles ++ b.candles, ¬ (InRange a.range candle.ts ∧ InRange b.range candle.ts)

/-- Any two runs that have opened their holdouts share no candle. -/
def HoldoutsUsedOnce (lab : ResearchLab) : Prop :=
  lab.opened.Pairwise SharesNoCandle

/-- The two ranges meet in this timestamp and in no other. -/
def TouchAt (a b : HoldoutRange) (ts : Int) : Prop :=
  max a.1 b.1 = ts ∧ min a.2 b.2 = ts

/-- The condition on a step. A run opens its holdout only if every run that has opened one
    before had burned it in the same manager when the run was checked, and no range of these
    touches its own at a candle. -/
def OpensUnburned (lab : ResearchLab) : ResearchStep → Prop
  | .openHoldout runId => ∀ run, lab.runs.get? runId = some run → ∀ earlier ∈ lab.opened,
    earlier.range ∈ run.known ∧
      ∀ candle ∈ run.candles ++ earlier.candles, ¬ TouchAt run.range earlier.range candle.ts
  | _ => True

/-! ### What a step keeps -/

theorem touchAt_of_not_burned {known : List HoldoutRange} {range other : HoldoutRange} {ts : Int}
    (unburned : isBurned known range = false) (member : other ∈ known)
    (here : InRange range ts) (there : InRange other ts) : TouchAt range other ts := by
  have apart : ¬ max range.1 other.1 < min range.2 other.2 := by
    intro overlap
    have burned : isBurned known range = true := by
      refine Bool.or_eq_true_iff.mpr (.inr (List.any_eq_true.mpr ⟨other, member, ?_⟩))
      exact decide_eq_true overlap
    rw [unburned] at burned
    cases burned
  obtain ⟨low, high⟩ := here
  obtain ⟨low', high'⟩ := there
  unfold TouchAt
  omega

/-- The runs in flight were not burned when they were checked, and the open ones share no
    candle. -/
structure LabSealed (lab : ResearchLab) : Prop where
  checked : ∀ runId run, lab.runs.get? runId = some run → isBurned run.known run.range = false
  usedOnce : HoldoutsUsedOnce lab

theorem unburned_of_admitted {hash : List Candle → String} {lab : ResearchLab} {manager : Nat}
    {runId : String} {candles : List Candle} {run : ResearchRun}
    (admitted : lab.admitted hash manager runId candles = some run) :
    isBurned run.known run.range = false := by
  unfold ResearchLab.admitted at admitted
  obtain ⟨-, -, admitted⟩ := Option.bind_eq_some_iff.mp admitted
  obtain ⟨split, -, admitted⟩ := Option.bind_eq_some_iff.mp admitted
  obtain ⟨passed, unburned, built⟩ := Option.bind_eq_some_iff.mp admitted
  cases built
  exact (Option.guard_eq_some' _).mp unburned

theorem checked_put {runs : Dict String ResearchRun}
    (checked : ∀ runId run, runs.get? runId = some run → isBurned run.known run.range = false)
    {key : String} {new : ResearchRun} (unburned : isBurned new.known new.range = false) :
    ∀ runId run, (runs.put key new).get? runId = some run →
      isBurned run.known run.range = false := by
  intro runId run found
  rw [Dict.get?_put] at found
  split at found
  · cases found
    exact unburned
  · exact checked runId run found

theorem checked_erase {runs : Dict String ResearchRun}
    (checked : ∀ runId run, runs.get? runId = some run → isBurned run.known run.range = false)
    (key : String) : ∀ runId run, (runs.erase key).get? runId = some run →
      isBurned run.known run.range = false := by
  intro runId run found
  rw [Dict.get?_erase] at found
  split at found
  · cases found
  · exact checked runId run found

theorem LabSealed.openHoldout {lab : ResearchLab} (isSealed : LabSealed lab) {run : ResearchRun}
    (unburned : isBurned run.known run.range = false)
    (fresh : ∀ earlier ∈ lab.opened, earlier.range ∈ run.known ∧
      ∀ candle ∈ run.candles ++ earlier.candles, ¬ TouchAt run.range earlier.range candle.ts) :
    LabSealed (lab.openHoldout run) := by
  unfold ResearchLab.openHoldout
  split
  · exact ⟨checked_erase isSealed.checked run.runId, isSealed.usedOnce⟩
  · refine ⟨checked_put isSealed.checked unburned, List.Pairwise.cons ?_ isSealed.usedOnce⟩
    intro earlier member candle mine both
    obtain ⟨burned, apart⟩ := fresh earlier member
    exact apart candle mine (touchAt_of_not_burned unburned burned both.1 both.2)

theorem LabSealed.step {hash : List Candle → String} {lab : ResearchLab} (isSealed : LabSealed lab)
    {step : ResearchStep} (unburned : OpensUnburned lab step) : LabSealed (lab.step hash step) := by
  cases step with
  | start manager runId candles =>
    simp only [ResearchLab.step]
    split
    · exact isSealed
    · rename_i run admitted
      exact ⟨checked_put isSealed.checked (unburned_of_admitted admitted), isSealed.usedOnce⟩
  | openHoldout runId =>
    simp only [ResearchLab.step]
    split
    · exact isSealed
    · rename_i run found
      obtain ⟨inFlight, -⟩ := Option.filter_eq_some_iff.mp found
      exact isSealed.openHoldout (isSealed.checked runId run inFlight) (unburned run inFlight)
  | burn runId now accepts =>
    simp only [ResearchLab.step]
    split
    · exact isSealed
    · rename_i run found
      obtain ⟨inFlight, -⟩ := Option.filter_eq_some_iff.mp found
      exact ⟨checked_put isSealed.checked (isSealed.checked runId run inFlight), isSealed.usedOnce⟩
  | finish runId => exact ⟨checked_erase isSealed.checked runId, isSealed.usedOnce⟩

theorem holdouts_used_once (hash : List Candle → String) (steps : List ResearchStep)
    (guarded : Guarded (ResearchLab.step hash) OpensUnburned {} steps) :
    ∀ earlier, earlier <+: steps → HoldoutsUsedOnce (run (ResearchLab.step hash) {} earlier) := by
  rintro earlier ⟨later, rfl⟩
  have start : LabSealed {} := ⟨fun _ _ found => (nomatch found), List.Pairwise.nil⟩
  exact (guarded_invariant LabSealed (fun _ _ isSealed unburned => isSealed.step unburned) start
    (guarded_append.mp guarded).1).usedOnce

namespace Sample

def stillCandle (minute : Nat) : Candle where
  ts := 60 * minute
  o := Decimal.ofInt 1
  h := Decimal.ofInt 1
  l := Decimal.ofInt 1
  c := Decimal.ofInt 1
  tickVol := 1
  valid := by
    have aligned : (60 * (minute : Int)) % 60 = 0 := by omega
    simp [CandleFields.validateCandle, aligned, Decimal.ofInt, Decimal.isFinite, Decimal.greater,
      Decimal.order]

def tenMinutes (first : Nat) : List Candle :=
  (List.range 10).map fun minute => stillCandle (first + minute)

def wholeRun (manager : Nat) (runId : String) (candles : List Candle) : List ResearchStep :=
  [.start manager runId candles, .openHoldout runId, .burn runId 1000 true, .finish runId]

/-- A run that opens its holdout and fails before it is burned. -/
def failedRun (manager : Nat) (runId : String) (candles : List Candle) : List ResearchStep :=
  [.start manager runId candles, .openHoldout runId, .finish runId]

def secondChecked : List ResearchStep :=
  wholeRun 0 "run-1" (tenMinutes 0) ++ [.start 0 "run-2" (tenMinutes 10)]

def secondLab : ResearchLab :=
  run (ResearchLab.step fun _ => "") {} secondChecked

end Sample

theorem later_minutes_used_once :
    HoldoutsUsedOnce (run (ResearchLab.step fun _ => "") {} (Sample.secondChecked ++
      [.openHoldout "run-2", .burn "run-2" 2000 true, .finish "run-2"])) := by
  have guarded : Guarded (ResearchLab.step fun _ => "") OpensUnburned {} (Sample.secondChecked ++
      [.openHoldout "run-2", .burn "run-2" 2000 true, .finish "run-2"]) := by
    refine guarded_append.mpr ⟨⟨trivial, ?_, trivial, trivial, trivial, trivial⟩, ?_, trivial,
      trivial, trivial⟩
    · -- Nothing is open yet.
      have closed : (ResearchLab.step (fun _ => "") {}
          (.start 0 "run-1" (Sample.tenMinutes 0))).opened = [] := rfl
      rintro checked - earlier member
      rw [closed] at member
      cases member
    · -- The first run was burned before the second one was checked.
      have fresh : ∀ checked ∈ Sample.secondLab.runs.get? "run-2",
          ∀ earlier ∈ Sample.secondLab.opened, earlier.range ∈ checked.known ∧
            ∀ candle ∈ checked.candles ++ earlier.candles,
              ¬ TouchAt checked.range earlier.range candle.ts := by
        unfold TouchAt
        decide
      exact fresh
  exact holdouts_used_once _ _ guarded _ (List.prefix_refl _)

/-- The same holdout is opened twice from two processes, and in one process when the first run
    has failed before it was burned; and the last candle of one holdout is the first of another
    although both runs were in one process, one after the other. -/
theorem holdout_used_twice :
    (¬ HoldoutsUsedOnce (run (ResearchLab.step fun _ => "") {}
      (Sample.wholeRun 0 "run-1" (Sample.tenMinutes 0) ++
        Sample.wholeRun 1 "run-2" (Sample.tenMinutes 0)))) ∧
    (¬ HoldoutsUsedOnce (run (ResearchLab.step fun _ => "") {}
      (Sample.failedRun 0 "run-1" (Sample.tenMinutes 0) ++
        Sample.wholeRun 0 "run-2" (Sample.tenMinutes 0)))) ∧
    ¬ HoldoutsUsedOnce (run (ResearchLab.step fun _ => "") {}
      (Sample.wholeRun 0 "run-1" (Sample.tenMinutes 0) ++
        Sample.wholeRun 0 "run-2" (Sample.tenMinutes 1))) := by
  unfold HoldoutsUsedOnce SharesNoCandle InRange
  decide

end TradingLab
