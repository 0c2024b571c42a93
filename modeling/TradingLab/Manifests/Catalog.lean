import TradingLab.Machine.Program
import TradingLab.Manifests.Schema

/-!
# The dynamic strategy catalog

`DynamicManifestCatalog` of `apps/core/manifest_catalog.py`, the family strategies that it
instantiates (`apps/core/families/base.py`) and the payout gate (`apps/core/payout_gate.py`).
Building the indicators of a family is a parameter. A manifest is applied entry by entry, so the
catalog keeps what was done before an exception.
-/
namespace TradingLab

open Relational Machine

variable {φ : Type}

/-- How an evaluation fails: with `TypeError` or `ValueError`, or with anything else. -/
inductive EvaluationError
  | invalidData
  | other
deriving DecidableEq, Repr

/-- What the indicators of a strategy say of a window of candles. -/
abbrev Consensus := List MarketCandle → Except EvaluationError (Option Direction)

/-- The constructors of the family classes; `none` is an exception. -/
abbrev Families (φ : Type) := String → Params φ → Int × Int → Option Consensus

def familyNames : List String := ["F1", "F2", "F3", "F4", "F5"]

/-- `now_utc.hour`. -/
def hourOf (now : Instant) : Int := now / 3600000000 % 24

def isWithinTradingHours (hoursUtc : Int × Int) (now : Instant) : Bool :=
  if hoursUtc.1 = hoursUtc.2 then true
  else if hoursUtc.1 < hoursUtc.2 then hoursUtc.1 ≤ hourOf now ∧ hourOf now < hoursUtc.2
  -- The hours go past midnight.
  else hoursUtc.1 ≤ hourOf now ∨ hourOf now < hoursUtc.2

structure FamilyStrategy (φ : Type) where
  strategyKey : String
  params : Params φ
  hoursUtc : Int × Int
  asset : String
  timeframe : String
  consensus : Consensus

/-- Only the close of the last candle is held to the trading hours. -/
def FamilyStrategy.evaluate (strategy : FamilyStrategy φ) (candles : List MarketCandle) :
    Except EvaluationError (Option Direction) :=
  match candles.getLast? with
  | none => .ok none
  | some last =>
    if isWithinTradingHours strategy.hoursUtc last.closeTime then strategy.consensus candles
    else .ok none

/-! ### Entries -/

structure ValidatedStats where
  pHat : Decimal
  wilsonLower : Decimal
  pMinAtValidation : Decimal
  payoutMin : Decimal
  opsPerDay : Decimal
  worstStreak : Int
  result1000OpsStake10 : Decimal
  score : Decimal
deriving DecidableEq

structure StrategyCatalogEntry (φ : Type) where
  key : String
  family : String
  displayNamePt : String
  asset : String
  timeframe : String
  hoursUtc : Int × Int
  params : Params φ
  validated : ValidatedStats
  status : String
  reasonPt : String

section Parsing
variable [Floating φ] (fields : ManifestObject φ)

/-- `Decimal(str(fields.get(name, "0")))`. -/
def decimalField (name : String) : Option Decimal :=
  ((Dict.get? fields name).getD (.str "0")).asDecimal

/-- `str(fields.get(name, default))`. -/
def textField (name default : String) : String :=
  ((Dict.get? fields name).getD (.str default)).text

/-- The `validated` part of an entry; `none` is an exception. -/
def parseStats : ManifestValue φ → Option ValidatedStats
  | .obj fields => do
    some {
      pHat := ← decimalField fields "p_hat"
      wilsonLower := ← decimalField fields "wilson_lower"
      pMinAtValidation := ← decimalField fields "p_min_at_validation"
      payoutMin := ← decimalField fields "payout_min"
      opsPerDay := ← decimalField fields "ops_per_day"
      worstStreak := ← ((Dict.get? fields "worst_streak").getD (.int 0)).asInt
      result1000OpsStake10 := ← decimalField fields "result_1000_ops_stake10"
      score := ← decimalField fields "score" }
  | _ => none

/-- Two numbers or more give the hours; fewer give the whole day. -/
def parseHours (value : ManifestValue φ) : Option (Int × Int) := do
  let items ← value.iterate
  if items.length < 2 then some (0, 24)
  else do
    match ← items.mapM ManifestValue.asInt with
    | start :: stop :: _ => some (start, stop)
    | _ => none

/-- `parse_strategy_entry` of a value of a document; `none` is an exception. -/
def parseStrategyEntry : ManifestValue φ → Option (StrategyCatalogEntry φ)
  | .obj raw => do
    let validated ← parseStats ((Dict.get? raw "validated").getD (.obj []))
    let hoursUtc ← parseHours ((Dict.get? raw "hours_utc").getD (.arr []))
    some {
      key := textField raw "key" ""
      family := textField raw "family" ""
      displayNamePt := textField raw "display_name_pt" ""
      asset := textField raw "asset" ""
      timeframe := textField raw "timeframe" "M1"
      hoursUtc
      params := ← Params.ofValue ((Dict.get? raw "params").getD (.obj []))
      validated
      status := textField raw "status" "observation"
      reasonPt := textField raw "reason_pt" "" }
  | _ => none

end Parsing

variable (families : Families φ)

def StrategyCatalogEntry.build (entry : StrategyCatalogEntry φ) : Option (FamilyStrategy φ) := do
  let consensus ← families entry.family entry.params entry.hoursUtc
  some {
    strategyKey := entry.key
    params := entry.params
    hoursUtc := entry.hoursUtc
    asset := entry.asset
    timeframe := entry.timeframe
    consensus }

/-! ### The catalog -/

structure CatalogStrategyInfo (φ : Type) where
  entry : StrategyCatalogEntry φ
  instance_ : FamilyStrategy φ
  status : String
  addedAt : Instant

structure DynamicManifestCatalog (φ : Type) where
  active : Dict String (CatalogStrategyInfo φ) := []
  retiring : Dict String (CatalogStrategyInfo φ) := []
  inFlight : Dict String (List String) := []
  manifestVersion : ManifestValue φ := .null

namespace DynamicManifestCatalog

variable (catalog : DynamicManifestCatalog φ) (key : String)

/-- A removed strategy retires while it has orders in flight. -/
def remove : DynamicManifestCatalog φ :=
  match catalog.active.get? key with
  | none => catalog
  | some info =>
    let rest := { catalog with active := catalog.active.erase key }
    if (catalog.inFlight.get? key).getD [] = [] then rest
    else { rest with retiring := rest.retiring.put key { info with status := "retiring" } }

def removeUnlisted (incoming : List String) : DynamicManifestCatalog φ :=
  ((catalog.active.map Prod.fst).filter (· ∉ incoming)).foldl remove catalog

variable (fields : ManifestObject φ)

/-- `manifest.get("manifest_version", manifest.get("version"))`. -/
def versionOf : ManifestValue φ :=
  (Dict.get? fields "manifest_version").getD ((Dict.get? fields "version").getD .null)

/-- What the loop over `manifest.get("strategies", ())` goes through. -/
def listedStrategies : Option (List (ManifestValue φ)) :=
  ((Dict.get? fields "strategies").getD (.arr [])).iterate

section Applying
variable [Floating φ]

/-- The instance of an entry stays when family, parameters and hours do. -/
def keepsInstance (existing : CatalogStrategyInfo φ) (entry : StrategyCatalogEntry φ) : Bool :=
  existing.entry.family == entry.family && Params.pyEq existing.entry.params entry.params &&
    existing.entry.hoursUtc == entry.hoursUtc

/-- What the loop stores for an entry over what its key has now: nothing for a rejected entry
    and for an unknown family. The outer `none` is an exception. -/
def stored (now : Instant) (existing : Option (CatalogStrategyInfo φ))
    (entry : StrategyCatalogEntry φ) : Option (Option (CatalogStrategyInfo φ)) :=
  if entry.status = "rejected" then some none
  else match existing.filter (keepsInstance · entry) with
  | some info => some (some { info with entry, status := entry.status })
  | none =>
    if entry.family ∉ familyNames then some none
    else (entry.build families).map fun instance_ =>
      some { entry, instance_, status := entry.status, addedAt := now }

/-- One turn of the loop over the strategies; the result is the key. -/
def applyStrategy (now : Instant) (raw : ManifestValue φ) :
    Program Unit (DynamicManifestCatalog φ) String := fun catalog =>
  match parseStrategyEntry raw with
  | none => (.error (), catalog)
  | some entry =>
    match stored families now (catalog.active.get? entry.key) entry with
    | none => (.error (), catalog)
    | some none => (.ok entry.key, catalog)
    | some (some info) => (.ok entry.key, { catalog with active := catalog.active.put entry.key info })

/-- The loop over the strategies; the result is `incoming_keys`. -/
def applyStrategies (families : Families φ) (now : Instant) :
    List (ManifestValue φ) → Program Unit (DynamicManifestCatalog φ) (List String)
  | [] => pure []
  | raw :: rest => do
    let key ← applyStrategy families now raw
    let keys ← applyStrategies families now rest
    pure (key :: keys)

/-- `apply_manifest` of what a file holds. Only an object has a version and strategies. -/
def applyManifest (now : Instant) :
    ManifestValue φ → Program Unit (DynamicManifestCatalog φ) Unit
  | .obj fields => do
    Program.modify fun catalog => { catalog with manifestVersion := versionOf fields }
    match listedStrategies fields with
    | none => Program.raise ()
    | some strategies => do
      let incoming ← applyStrategies families now strategies
      Program.modify (removeUnlisted · incoming)
  | _ => Program.modify (removeUnlisted · [])

end Applying

def notifyOrderOpened (orderId : String) : DynamicManifestCatalog φ :=
  let orders := (catalog.inFlight.get? key).getD []
  { catalog with
    inFlight := catalog.inFlight.put key (if orderId ∈ orders then orders else orders ++ [orderId]) }

/-- A retiring strategy without orders in flight is discarded. -/
def notifyOrderSettled (orderId : String) : DynamicManifestCatalog φ :=
  let left := ((catalog.inFlight.get? key).getD []).filter (· != orderId)
  let settled := { catalog with
    inFlight := if left = [] then catalog.inFlight.erase key else catalog.inFlight.put key left }
  if left = [] then { settled with retiring := settled.retiring.erase key } else settled

def getStrategy : Option (CatalogStrategyInfo φ) :=
  catalog.active.get? key <|> catalog.retiring.get? key

def demoted (info : CatalogStrategyInfo φ) : CatalogStrategyInfo φ :=
  { info with entry := { info.entry with status := "observation" }, status := "observation" }

def demoteToObservation : Bool × DynamicManifestCatalog φ :=
  match catalog.active.get? key with
  | none => (false, catalog)
  | some info => (true, { catalog with active := catalog.active.put key (demoted info) })

def demoteAllToObservation : Nat × DynamicManifestCatalog φ :=
  ((catalog.active.values.filter fun info => info.status != "observation").length,
    { catalog with active := catalog.active.map fun (key, info) =>
        (key, if info.status = "observation" then info else demoted info) })

end DynamicManifestCatalog

/-! ### The payout gate -/

structure PayoutGateResult where
  allowed : Bool
  reasonCode : String
  message : String
  pMinNow : Decimal
  payout : Decimal
  payoutMin : Decimal
deriving DecidableEq

/-- A number above one is a percentage. -/
def normalizeRatio (value : Decimal) : Option Decimal := do
  if ← value.greater (Decimal.ofInt 1) then Decimal.div decimalPrecision value (Decimal.ofInt 100)
  else some value

/-- `int(round(ratio * Decimal(100)))`. -/
def percentage (ratio : Decimal) : Option Int := do
  (← Decimal.mul decimalPrecision ratio (Decimal.ofInt 100)).nearestInt

def payoutMessage (required current : Int) : String :=
  "Opera com payout ≥ " ++ toString required ++ "%. Agora: " ++ toString current ++
    "% — aguardando."

/-- `(payout < p_min_manifest) or (w_lower < edge_threshold)`. -/
def payoutBlocked (payout pMinManifest wilsonLower threshold : Decimal) : Option Bool := do
  if ← payout.less pMinManifest then some true else wilsonLower.less threshold

/-- `PayoutGate.check_payout`; `none` is an exception. -/
def checkPayout (currentPayout wilsonLower payoutMin : Decimal) : Option PayoutGateResult := do
  let payout ← normalizeRatio currentPayout
  let pMinManifest ← normalizeRatio payoutMin
  if !(← payout.greater (Decimal.ofInt 0)) then
    some {
      allowed := false
      reasonCode := "PAYOUT_BELOW_VALIDATED_EDGE"
      message := payoutMessage (← percentage pMinManifest) 0
      pMinNow := Decimal.ofInt 1
      payout
      payoutMin := pMinManifest }
  else
    let pMinNow ← breakEvenShare payout
    let threshold ← Decimal.add decimalPrecision pMinNow payoutMargin
    if ← payoutBlocked payout pMinManifest wilsonLower threshold then
      some {
        allowed := false
        reasonCode := "PAYOUT_BELOW_VALIDATED_EDGE"
        message := payoutMessage (← percentage pMinManifest) (← percentage payout)
        pMinNow
        payout
        payoutMin := pMinManifest }
    else
      some {
        allowed := true
        reasonCode := ""
        message := ""
        pMinNow
        payout
        payoutMin := pMinManifest }

namespace DynamicManifestCatalog

abbrev Eligibility := Bool × String × Option PayoutGateResult

/-- `account_type.strip().upper() in \x7b"REAL", "LIVE"\x7d`. -/
def isRealAccount (accountType : String) : Bool :=
  ["REAL", "LIVE"].contains (normalize accountType)

/-- `is_eligible`; `none` is an exception. -/
def isEligible (catalog : DynamicManifestCatalog φ) (key accountType : String)
    (currentPayout : Decimal) (now : Instant) : Option Eligibility :=
  if (catalog.retiring.get? key).isSome then some (false, "STRATEGY_RETIRING", none)
  else match catalog.active.get? key with
  | none => some (false, "STRATEGY_NOT_FOUND", none)
  | some info =>
    if isRealAccount accountType ∧ info.status = "observation" then
      some (false, "OBSERVATION_ONLY_DEMO", none)
    else if ¬ isWithinTradingHours info.entry.hoursUtc now then
      some (false, "OUTSIDE_TRADING_HOURS", none)
    else do
      let payout ← checkPayout currentPayout info.entry.validated.wilsonLower
        info.entry.validated.payoutMin
      if payout.allowed then some (true, "ELIGIBLE", some payout)
      else some (false, payout.reasonCode, some payout)

end DynamicManifestCatalog

end TradingLab
