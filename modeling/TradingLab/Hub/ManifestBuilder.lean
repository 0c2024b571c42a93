import TradingLab.Core.LiveMonitor

/-!
# Building a manifest

`build_manifest` of `tools/strategy_lab/publish/builder.py` and the lab's `WaldSprt`, which computes
as `SPRT` of the Core does. Of candidates and entries only what concerns the status is kept; whether
the schema accepts the rest is an input.
-/
namespace TradingLab.Promotion

inductive EntryStatus
  | approved
  | observation
  | rejected
deriving DecidableEq

structure RawCandidate where
  key : String
  approved : Bool
  wilsonLower : Decimal
  pMinAtValidation : Decimal
  holdoutPassed : Bool
  wellFormed : Bool

structure StrategyEntry where
  key : String
  status : EntryStatus
  holdoutPassed : Bool
deriving DecidableEq

abbrev Strategies := List StrategyEntry

structure BuildCall where
  candidates : List RawCandidate
  includeKeys : Option (List String) := none
  excludeKeys : List String := []
  promoteKeys : List String := []
  liveOutcomes : String → List Bool := fun _ => []
  liveDays : String → Int := fun _ => 0
  header : Bool := true

variable (logs : SprtLogs)

def trial (sprt : Sprt) (won : Bool) : Option Sprt :=
  match Sprt.update logs won sprt with
  | (.ok _, next) => some next
  | (.error _, _) => none

def evaluateSeries (sprt : Sprt) (outcomes : List Bool) : Option Sprt :=
  outcomes.foldlM (trial logs) { sprt with
    n := 0, wins := 0, llr := Decimal.ofInt 0, decision := .continuing, everRejected := false }

def isEligibleForPromotion (sprt : Sprt) (outcomes : List Bool) (days : Int) (minOps : Nat := 200)
    (minDays : Int := 30) : Option Bool :=
  if outcomes.length < minOps ∧ days < minDays then some false
  else (evaluateSeries logs sprt outcomes).map fun final =>
    !final.everRejected && decide (final.decision ≠ .rejectH0)

namespace BuildCall

variable (call : BuildCall) (current : Strategies) (raw : RawCandidate)

def curates : Bool :=
  (match call.includeKeys with
    | some keys => keys.contains raw.key
    | none => raw.approved) && !call.excludeKeys.contains raw.key

/-- The status in the current manifest; the last entry of a key counts. -/
def currStatus : Option EntryStatus :=
  (current.reverse.find? (·.key == raw.key)).map (·.status)

/-- `target_status`; `none` is an exception. -/
def targetStatus : Option EntryStatus :=
  if call.promoteKeys.contains raw.key then do
    let sprt ← Sprt.make logs raw.wilsonLower raw.pMinAtValidation
    let eligible ← isEligibleForPromotion logs sprt (call.liveOutcomes raw.key)
      (call.liveDays raw.key)
    if eligible then some .approved else none
  else if currStatus current raw = some .approved ∧ raw.approved then some .approved
  else some .observation

/-- The entry of a candidate; an approved one must have passed the holdout. -/
def entry : Option StrategyEntry := do
  let status ← call.targetStatus logs current raw
  if raw.wellFormed ∧ (status = .approved → raw.holdoutPassed) then
    some ⟨raw.key, status, raw.holdoutPassed⟩
  else none

end BuildCall

def buildManifest (current : Option Strategies) (call : BuildCall) : Option Strategies := do
  let strategies ← (call.candidates.filter call.curates).mapM
    (call.entry logs (current.getD []))
  if call.header ∧ (strategies.map (·.key)).Nodup then some strategies else none

/-- The manifests of the calls, the latest first; each call receives the result of the one before. -/
def buildChain : List BuildCall → Option (List Strategies)
  | [] => some []
  | call :: earlier => do
    let manifests ← buildChain earlier
    let manifest ← buildManifest logs manifests.head? call
    some (manifest :: manifests)

end TradingLab.Promotion
