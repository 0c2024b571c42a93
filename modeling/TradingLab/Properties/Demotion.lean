import TradingLab.Core.LiveMonitor
import TradingLab.Manifests.Application

/-!
# Demoted strategies

Whether a strategy is eligible is read from the catalog, whose status every application of a manifest
overwrites without asking the monitor or looking at the version. So the same manifest, applied once
more or after a restart, undoes a demotion.
-/
namespace TradingLab

open Relational Machine DynamicManifestCatalog
open Machine.Program

variable {φ : Type} {catalog : DynamicManifestCatalog φ} {key : String}
  {strategy : String × CatalogStrategyInfo φ}

/-! ### Runs -/

inductive LiveStep (φ : Type)
  | orderOpened (key orderId : String)
  | settlement (key : String) (won : Bool) (orderId : Option String)
  | manifestApplied (now : Instant) (manifest : ManifestValue φ)
  | manifestExpired
  | restart

def manifestVersionOf : ManifestValue φ → ManifestValue φ
  | .obj fields => versionOf fields
  | _ => .null

def higherVersion : ManifestValue φ → ManifestValue φ → Bool
  | .int old, .int new => old < new
  | .null, .int _ => true
  | _, _ => false

/-- The monitor, the demotions that its tests have asked for, each a key with its pair, and the
    versions of the manifests that have expired. A demotion or an expiration that a manifest has
    lifted is taken off the record. -/
structure DemotionRun (φ : Type) where
  live : LiveMonitor φ := {}
  rejected : List (String × Decimal × Decimal) := []
  expired : List (ManifestValue φ) := []

/-- A strategy is under a demotion or an expiration. -/
def DemotionRun.Barred (run : DemotionRun φ) (key : String) : Prop :=
  (∃ mark ∈ run.rejected, mark.1 = key) ∨ run.expired ≠ []

/-- What an application leaves of the record: a demotion is lifted by an entry with another
    pair, an expiration by a higher version. An application that raises lifts nothing. -/
def lifted [Floating φ] (manifest : ManifestValue φ) (ends : Except Unit Unit)
    (run : DemotionRun φ) :
    DemotionRun φ :=
  match ends with
  | .error () => run
  | .ok () => { run with
    rejected := run.rejected.filter fun mark => (listedEntries manifest).all fun entry =>
      !(entry.key == mark.1) || samePair entry.pair mark.2
    expired := run.expired.filter fun version => !higherVersion version
      (manifestVersionOf manifest) }

/-- What a settlement puts on the record: a rejection of a key that has an entry. -/
def rejectionMark (key : String) (info : Option (CatalogStrategyInfo φ)) :
    Except Unit SprtDecision → List (String × Decimal × Decimal)
  | .ok .rejectH0 => (info.map fun info => (key, info.entry.pair)).toList
  | _ => []

section Steps
variable [Floating φ] (logs : SprtLogs) (families : Families φ)

def DemotionRun.settle (run : DemotionRun φ) (key : String) (won : Bool)
    (orderId : Option String) : DemotionRun φ :=
  let settled := LiveMonitor.onSettlement logs key won orderId run.live
  { run with
    live := settled.2
    rejected := rejectionMark key (settled.2.catalog.getStrategy key) settled.1 ++ run.rejected }

def DemotionRun.apply (run : DemotionRun φ) (now : Instant) (manifest : ManifestValue φ) :
    DemotionRun φ :=
  let applied := applyManifest families now manifest run.live.catalog
  let live := { run.live with catalog := applied.2 }
  let monitored := match applied.1 with
    | .ok () => (LiveMonitor.onManifestApplied logs live).2
    | .error () => live
  lifted manifest applied.1 { run with live := monitored }

def DemotionRun.step (run : DemotionRun φ) : LiveStep φ → DemotionRun φ
  | .orderOpened key orderId =>
    { run with live.catalog := run.live.catalog.notifyOrderOpened key orderId }
  | .settlement key won orderId => run.settle logs key won orderId
  | .manifestApplied now manifest => run.apply logs families now manifest
  | .manifestExpired => { run with
      live := (LiveMonitor.onManifestExpired run.live).2
      expired := run.live.catalog.manifestVersion :: run.expired }
  -- The rows of the database are all that a restart keeps.
  | .restart => { run with live := { rows := run.live.rows } }

/-- The condition on a step: a manifest lists a strategy that stays barred only as an
    observation or as rejected. -/
def RespectsDemotions (run : DemotionRun φ) : LiveStep φ → Prop
  | .manifestApplied now manifest => ∀ entry ∈ listedEntries manifest,
    (lifted manifest (applyManifest families now manifest run.live.catalog).1 run).Barred entry.key
      →
      entry.status = "observation" ∨ entry.status = "rejected"
  | _ => True

end Steps

/-- No strategy that is barred is eligible on a real account. -/
def StaysDemoted (run : DemotionRun φ) : Prop :=
  ∀ key, run.Barred key → ∀ accountType payout now answer, isRealAccount accountType = true →
    run.live.catalog.isEligible key accountType payout now ≠ some (true, answer)

/-! ### What the monitor does to the catalog -/

namespace LiveMonitor

variable (logs : SprtLogs)

theorem ensureMonitor_catalog (entry : StrategyCatalogEntry φ) (live : LiveMonitor φ) :
    (ensureMonitor logs entry live).2.catalog = live.catalog := by
  unfold ensureMonitor
  split
  · rfl
  · split <;> rfl

theorem syncFromCatalog_catalog (active : List (String × CatalogStrategyInfo φ))
    (live : LiveMonitor φ) : (syncFromCatalog logs active live).2.catalog = live.catalog := by
  induction active generalizing live with
  | nil => rfl
  | cons entry rest ih =>
    exact bind_keeps LiveMonitor.catalog (ensureMonitor_catalog logs entry.2.entry)
      (fun _ => ih) live

theorem refreshMonitor_catalog (key : String) (entry : StrategyCatalogEntry φ)
    (live : LiveMonitor φ) : (refreshMonitor logs key entry live).2.catalog = live.catalog := by
  simp only [refreshMonitor]
  split
  · rfl
  split
  · rfl
  split <;> rfl

theorem refreshMonitors_catalog (active : List (String × CatalogStrategyInfo φ))
    (live : LiveMonitor φ) : (refreshMonitors logs active live).2.catalog = live.catalog := by
  induction active generalizing live with
  | nil => rfl
  | cons entry rest ih =>
    exact bind_keeps LiveMonitor.catalog (refreshMonitor_catalog logs entry.1 entry.2.entry)
      (fun _ => ih) live

theorem onManifestApplied_catalog (live : LiveMonitor φ) :
    (onManifestApplied logs live).2.catalog = live.catalog :=
  bind_keeps LiveMonitor.catalog (syncFromCatalog_catalog logs live.catalog.active)
    (fun _ => refreshMonitors_catalog logs live.catalog.active) live

theorem findMonitor_catalog (key : String) (live : LiveMonitor φ) :
    (findMonitor logs key live).2.catalog = live.catalog := by
  refine bind_keeps LiveMonitor.catalog (fun _ => rfl) (fun found live => ?_) live
  cases found.catalog.getStrategy key with
  | none => rfl
  | some info =>
    exact bind_keeps LiveMonitor.catalog (ensureMonitor_catalog logs info.entry)
      (fun _ _ => rfl) live

theorem saveMonitor_catalog (key : String) (live : LiveMonitor φ) :
    (saveMonitor key live).2.catalog = live.catalog := by
  simp only [saveMonitor, modify_run]
  split <;> rfl

def afterOutcome (key : String) (catalog : DynamicManifestCatalog φ) :
    Except Unit SprtDecision → DynamicManifestCatalog φ
  | .ok .rejectH0 => (catalog.demoteToObservation key).2
  | _ => catalog

theorem recordOutcome_catalog (key : String) (won : Bool) (monitor : Option Sprt)
    (live : LiveMonitor φ) : (recordOutcome logs key won monitor live).2.catalog =
      afterOutcome key live.catalog (recordOutcome logs key won monitor live).1 := by
  cases monitor with
  | none => rfl
  | some monitor =>
    cases updated : updateMonitor logs key won monitor live with
    | mk answer after =>
      have kept : after.catalog = live.catalog := (congrArg (·.2.catalog) updated).symm
      cases answer with
      | error raised =>
        have ended : recordOutcome logs key won (some monitor) live = (.error raised, after) :=
          bind_of_error updated
        rw [ended, kept]
        rfl
      | ok decision =>
        have saved := saveMonitor_catalog key (demoteRejected key decision after).2
        have ended : recordOutcome logs key won (some monitor) live =
            (.ok decision, (saveMonitor key (demoteRejected key decision after).2).2) :=
          bind_of_ok updated
        rw [ended, saved, ← kept]
        cases decision <;> rfl

theorem onSettlement_catalog (key : String) (won : Bool) (orderId : Option String)
    (live : LiveMonitor φ) :
    (onSettlement logs key won orderId live).2.catalog =
      afterOutcome key (settleOrder key orderId live).2.catalog
        (onSettlement logs key won orderId live).1 := by
  have first : onSettlement logs key won orderId live =
      (findMonitor logs key >>= recordOutcome logs key won) (settleOrder key orderId live).2 := rfl
  cases found : findMonitor logs key (settleOrder key orderId live).2 with
  | mk answer after =>
    have kept := findMonitor_catalog logs key (settleOrder key orderId live).2
    rw [found] at kept
    rw [← kept]
    cases answer with
    | error raised =>
      rw [first, bind_of_error found]
      rfl
    | ok monitor => rw [first, bind_of_ok found, recordOutcome_catalog]

theorem settleOrder_active (key : String) (orderId : Option String) (live : LiveMonitor φ) :
    (settleOrder key orderId live).2.catalog.active = live.catalog.active := by
  cases orderId with
  | none => rfl
  | some orderId =>
    simp only [settleOrder, modify_run, notifyOrderSettled]
    split <;> rfl

end LiveMonitor

theorem demoteToObservation_status
    (active : strategy ∈ (catalog.demoteToObservation key).2.active) :
    strategy.2.status = "observation" ∨ strategy ∈ catalog.active ∧ strategy.1 ≠ key := by
  unfold demoteToObservation at active
  split at active
  · rename_i absent
    refine .inr ⟨active, fun same => ?_⟩
    have present := Dict.get?_isSome_of_mem active
    rw [same, absent] at present
    cases present
  · rcases Dict.mem_put active with rfl | kept
    · exact .inl rfl
    · exact .inr kept

theorem demoteAllToObservation_status
    (active : strategy ∈ catalog.demoteAllToObservation.2.active) :
    strategy.2.status = "observation" := by
  obtain ⟨⟨key, info⟩, -, rfl⟩ := List.mem_map.mp active
  by_cases observed : info.status = "observation"
  · simp only [observed, if_true]
  · simp only [observed, if_false]
    rfl

/-! ### What a step keeps -/

/-- Every strategy that is barred is an observation in the catalog. -/
def BarredObserved (run : DemotionRun φ) : Prop :=
  ∀ strategy ∈ run.live.catalog.active, run.Barred strategy.1 → strategy.2.status = "observation"

theorem BarredObserved.staysDemoted {run : DemotionRun φ} (observed : BarredObserved run) :
    StaysDemoted run := by
  intro key barred accountType payout now answer real eligible
  unfold isEligible at eligible
  split at eligible
  · cases eligible
  split at eligible
  · cases eligible
  · rename_i info active
    rw [if_pos ⟨real, observed _ (Dict.mem_of_get? active) barred⟩] at eligible
    cases eligible

section Steps
variable {logs : SprtLogs} {run : DemotionRun φ} {key : String} {ends : Except Unit SprtDecision}
  {families : Families φ} {manifest : ManifestValue φ}

theorem mem_rejectionMark {info : Option (CatalogStrategyInfo φ)}
    {mark : String × Decimal × Decimal}
    (member : mark ∈ rejectionMark key info ends) : mark.1 = key ∧ ends = .ok .rejectH0 := by
  unfold rejectionMark at member
  split at member
  · obtain ⟨found, -, rfl⟩ := Option.map_eq_some_iff.mp (Option.mem_toList.mp member)
    exact ⟨rfl, rfl⟩
  · cases member

theorem afterOutcome_status {strategy : String × CatalogStrategyInfo φ}
    (active : strategy ∈ (LiveMonitor.afterOutcome key catalog ends).active) :
    strategy.2.status = "observation" ∨
      strategy ∈ catalog.active ∧ ¬ (strategy.1 = key ∧ ends = .ok .rejectH0) := by
  unfold LiveMonitor.afterOutcome at active
  split at active
  · rcases demoteToObservation_status active with status | ⟨kept, other⟩
    · exact .inl status
    · exact .inr ⟨kept, fun both => other both.1⟩
  · rename_i continues
    exact .inr ⟨active, fun both => continues both.2⟩

theorem BarredObserved.settle (observed : BarredObserved run) (key : String) (won : Bool)
    (orderId : Option String) : BarredObserved (run.settle logs key won orderId) := by
  have catalog := LiveMonitor.onSettlement_catalog logs key won orderId run.live
  intro strategy active barred
  simp only [DemotionRun.settle, catalog] at active
  rcases afterOutcome_status active with status | ⟨kept, spared⟩
  · exact status
  rw [LiveMonitor.settleOrder_active] at kept
  rcases barred with ⟨mark, member, named⟩ | expired
  · rcases List.mem_append.mp member with new | old
    · -- A rejection that has just been recorded has demoted its strategy.
      obtain ⟨same, rejects⟩ := mem_rejectionMark new
      exact absurd ⟨named.symm.trans same, rejects⟩ spared
    · exact observed strategy kept (.inl ⟨mark, old, named⟩)
  · exact observed strategy kept (.inr expired)

variable [Floating φ]

theorem barred_of_lifted {ends : Except Unit Unit}
    (barred : (lifted manifest ends run).Barred key) : run.Barred key := by
  cases ends with
  | error raised => exact barred
  | ok answer =>
    rcases barred with ⟨mark, member, named⟩ | expired
    · exact .inl ⟨mark, List.mem_of_mem_filter member, named⟩
    · refine .inr fun none_expired => expired ?_
      simp only [lifted, none_expired, List.filter_nil]

theorem BarredObserved.apply (observed : BarredObserved run) {now : Instant}
    (respects : RespectsDemotions families run (.manifestApplied now manifest)) :
    BarredObserved (run.apply logs families now manifest) := by
  have applied := applyManifest_active families now manifest run.live.catalog
  set application := applyManifest families now manifest run.live.catalog with ran
  have catalog : (run.apply logs families now manifest).live.catalog = application.2 := by
    simp only [DemotionRun.apply, ← ran]
    cases application.1 with
    | error raised => rfl
    | ok answer => exact LiveMonitor.onManifestApplied_catalog logs _
  have record : ∀ key, (run.apply logs families now manifest).Barred key →
      (lifted manifest application.1 run).Barred key := by
    simp only [DemotionRun.apply, ← ran]
    cases application.1 <;> exact fun _ barred => barred
  intro strategy active barred
  rw [catalog] at active
  rcases applied strategy active with kept | ⟨entry, member, named, -, status, listed⟩
  · exact observed strategy kept (barred_of_lifted (record strategy.1 barred))
  · have allowed := respects entry member (named ▸ record strategy.1 barred)
    rw [status]
    exact allowed.resolve_right listed

theorem BarredObserved.step (observed : BarredObserved run) {step : LiveStep φ}
    (respects : RespectsDemotions families run step) :
    BarredObserved (run.step logs families step) := by
  cases step with
  | orderOpened key orderId => exact observed
  | settlement key won orderId => exact observed.settle key won orderId
  | manifestApplied now manifest => exact observed.apply respects
  | manifestExpired => exact fun _ active _ => demoteAllToObservation_status active
  | restart =>
    intro strategy active
    cases active

end Steps

/-- Where manifests list what is barred as an observation only, it stays demoted in every state
    that a run reaches. -/
theorem demoted_stays_demoted [Floating φ] (logs : SprtLogs) (families : Families φ)
    (steps : List (LiveStep φ))
    (guarded : Guarded (DemotionRun.step logs families) (RespectsDemotions families) {} steps) :
    ∀ earlier, earlier <+: steps →
      StaysDemoted (run (DemotionRun.step logs families) {} earlier) := by
  rintro earlier ⟨later, rfl⟩
  have observed := guarded_invariant BarredObserved (fun _ _ observed right => observed.step right)
    (s := {}) (fun _ active => nomatch active) (guarded_append.mp guarded).1
  exact observed.staysDemoted

namespace Sample

/-- The logarithms of the sample: of 19 for the bounds, of 5 for a loss, of 5/9 for a win. -/
def sprtLogs : SprtLogs where
  upper _ _ := some (.finite false 294443898 (-8))
  lower _ _ := some (.finite true 294443898 (-8))
  term _ _ won := some (if won then .finite true 58778666 (-8) else .finite false 160943791 (-8))

def silentFamilies : Families Unit := fun _ _ _ => some fun _ => .ok none

def monitoredManifest (status : String) : ManifestValue Unit :=
  .obj [("manifest_version", .int 1), ("strategies", .arr [.obj [
    ("key", .str "f1:eurusd"), ("family", .str "F1"), ("asset", .str "EURUSD-OTC"),
    ("status", .str status),
    ("validated", .obj [("wilson_lower", .str "0.90"), ("p_min_at_validation", .str "0.50"),
      ("payout_min", .str "0.80")])]])]

def approval : LiveStep Unit := .manifestApplied 0 (monitoredManifest "approved")

def loss : LiveStep Unit := .settlement "f1:eurusd" false none

def rejection : List (LiveStep Unit) := [approval, loss, loss]

end Sample

theorem observation_stays_demoted :
    StaysDemoted (run (DemotionRun.step Sample.sprtLogs Sample.silentFamilies) {}
      (Sample.rejection ++ [.manifestApplied 0 (Sample.monitoredManifest "observation")])) := by
  have guarded : Guarded (DemotionRun.step Sample.sprtLogs Sample.silentFamilies)
      (RespectsDemotions Sample.silentFamilies) {}
      (Sample.rejection ++ [.manifestApplied 0 (Sample.monitoredManifest "observation")]) := by
    refine ⟨?_, trivial, trivial, ?_, trivial⟩
    · rintro entry - barred
      rcases barred_of_lifted barred with ⟨mark, member, -⟩ | expired
      · cases member
      · exact absurd rfl expired
    · rintro entry listed -
      have statuses : (listedEntries (Sample.monitoredManifest "observation")).map
          StrategyCatalogEntry.status = ["observation"] := by decide +kernel
      have status := List.mem_map_of_mem (f := StrategyCatalogEntry.status) listed
      rw [statuses] at status
      exact .inl (List.mem_singleton.mp status)
  exact demoted_stays_demoted _ _ _ guarded _ (List.prefix_refl _)

theorem not_staysDemoted {reached : DemotionRun φ} {payout : Decimal}
    (barred : (reached.rejected.any (·.1 == key) || !reached.expired.isEmpty) = true)
    (eligible : (reached.live.catalog.isEligible key "REAL" payout 0).map Prod.fst = some true) :
    ¬ StaysDemoted reached := by
  intro stays
  obtain ⟨⟨allowed, answer⟩, said, rfl⟩ := Option.map_eq_some_iff.mp eligible
  refine stays key ?_ "REAL" payout 0 answer (by decide) said
  rcases Bool.or_eq_true_iff.mp barred with rejected | expired
  · obtain ⟨mark, member, named⟩ := List.any_eq_true.mp rejected
    exact .inl ⟨mark, member, beq_iff_eq.mp named⟩
  · refine .inr fun empty => ?_
    rw [empty] at expired
    cases expired

/-- A rejected strategy is eligible again after the same manifest is applied once more, also
    after a restart, and so is one whose manifest has expired. -/
theorem demotion_undone :
    (¬ StaysDemoted (run (DemotionRun.step Sample.sprtLogs Sample.silentFamilies) {}
      (Sample.rejection ++ [Sample.approval]))) ∧
    (¬ StaysDemoted (run (DemotionRun.step Sample.sprtLogs Sample.silentFamilies) {}
      (Sample.rejection ++ [.restart, Sample.approval]))) ∧
    ¬ StaysDemoted (run (DemotionRun.step Sample.sprtLogs Sample.silentFamilies) {}
      [Sample.approval, .manifestExpired, Sample.approval]) := by
  have undone : ∀ steps ∈ [Sample.rejection ++ [Sample.approval],
      Sample.rejection ++ [.restart, Sample.approval],
      [Sample.approval, .manifestExpired, Sample.approval]],
      let reached := run (DemotionRun.step Sample.sprtLogs Sample.silentFamilies) {} steps
      (reached.rejected.any (·.1 == "f1:eurusd") || !reached.expired.isEmpty) = true ∧
        (reached.live.catalog.isEligible "f1:eurusd" "REAL" (.finite false 95 (-2)) 0).map Prod.fst
          =
          some true := by
    decide +kernel
  refine ⟨?_, ?_, ?_⟩
  · obtain ⟨barred, eligible⟩ := undone _ List.mem_cons_self
    exact not_staysDemoted barred eligible
  · obtain ⟨barred, eligible⟩ := undone _ (.tail _ List.mem_cons_self)
    exact not_staysDemoted barred eligible
  · obtain ⟨barred, eligible⟩ := undone _ (.tail _ (.tail _ List.mem_cons_self))
    exact not_staysDemoted barred eligible

end TradingLab
