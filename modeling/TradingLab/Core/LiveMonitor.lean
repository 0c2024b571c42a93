import TradingLab.Manifests.Catalog

/-!
# The live monitor

`SPRT` of `packages/sprt/sprt.py` and `LiveMonitor` of `apps/core/live_monitor.py`. The logarithms,
binary floating point rounded to eight places, are a parameter. The writes to the database succeed,
and a number stored there as its text reads back. Events and the upload of outcomes are left out.
-/
namespace TradingLab

open Relational Machine

variable {φ : Type}

/-! ### The sequential test -/

inductive SprtDecision
  | continuing
  | acceptH0
  | rejectH0
deriving DecidableEq, Repr

/-- The rounded logarithms; `none` is an exception of `math.log` or of a division. -/
structure SprtLogs where
  /-- Of `(1 - beta) / alpha`. -/
  upper : Decimal → Decimal → Option Decimal
  /-- Of `beta / (1 - alpha)`. -/
  lower : Decimal → Decimal → Option Decimal
  /-- Of `p1 / p0` for a win, and of `(1 - p1) / (1 - p0)` for a loss. -/
  term : Decimal → Decimal → Bool → Option Decimal

structure Sprt where
  p0 : Decimal
  p1 : Decimal
  alpha : Decimal
  beta : Decimal
  aBound : Decimal
  bBound : Decimal
  n : Nat := 0
  wins : Nat := 0
  llr : Decimal := Decimal.ofInt 0
  decision : SprtDecision := .continuing
  everRejected : Bool := false

namespace Sprt

/-- `Decimal("0.05")`. -/
def defaultError : Decimal := .finite false 5 (-2)

/-- `Decimal(0) < value < limit`. -/
def between (value limit : Decimal) : Bool :=
  (Decimal.ofInt 0).less value == some true && value.less limit == some true

/-- `SPRT(p0, p1, alpha, beta)`; `none` is an exception. -/
def make (logs : SprtLogs) (p0 p1 : Decimal) (alpha beta : Decimal := defaultError) :
    Option Sprt := do
  guard (between p1 p0 && p0.less (Decimal.ofInt 1) == some true)
  guard (between alpha (.finite false 5 (-1)))
  guard (between beta (.finite false 5 (-1)))
  let aBound ← logs.upper alpha beta
  let bBound ← logs.lower alpha beta
  some { p0, p1, alpha, beta, aBound, bBound }

/-- The decision at a ratio; `none` is a comparison with `nan`. -/
def decide_ (sprt : Sprt) : Option SprtDecision := do
  if ← (Decimal.order sprt.llr sprt.bBound).map (· != .gt) then some .acceptH0
  else if ← (Decimal.order sprt.llr sprt.aBound).map (· != .lt) then some .rejectH0
  else some .continuing

/-- A test that has decided does not move any more. -/
def update (logs : SprtLogs) (won : Bool) : Program Unit Sprt SprtDecision := fun sprt =>
  if sprt.decision ≠ .continuing then (.ok sprt.decision, sprt)
  else
    let counted := { sprt with n := sprt.n + 1, wins := sprt.wins + won.toNat }
    match (logs.term sprt.p0 sprt.p1 won).bind (Decimal.add decimalPrecision sprt.llr) with
    | none => (.error (), counted)
    | some llr =>
      match decide_ { counted with llr } with
      | none => (.error (), { counted with llr })
      | some decision => (.ok decision, { counted with
          llr, decision, everRejected := sprt.everRejected || decision == .rejectH0 })

end Sprt

structure SprtRow where
  p0 : Decimal
  p1 : Decimal
  alpha : Decimal
  beta : Decimal
  llr : Decimal
  n : Nat
  wins : Nat
  decision : SprtDecision
  status : String

variable (logs : SprtLogs)

/-- `SPRT.from_dict` of a row, which has no `ever_rejected`; `none` is an exception. -/
def Sprt.ofRow (row : SprtRow) : Option Sprt := do
  let sprt ← Sprt.make logs row.p0 row.p1 row.alpha row.beta
  some { sprt with llr := row.llr, n := row.n, wins := row.wins, decision := row.decision }

def Sprt.toRow (sprt : Sprt) (status : String) : SprtRow :=
  { sprt with status }

/-! ### The monitor -/

/-- `LiveMonitor` with its catalog, and the table `sprt_monitors`. -/
structure LiveMonitor (φ : Type) where
  catalog : DynamicManifestCatalog φ := {}
  monitors : Dict String Sprt := []
  validatedCache : Dict String (Decimal × Decimal) := []
  rows : Dict String SprtRow := []

def StrategyCatalogEntry.pair (entry : StrategyCatalogEntry φ) : Decimal × Decimal :=
  (entry.validated.wilsonLower, entry.validated.pMinAtValidation)

def samePair (a b : Decimal × Decimal) : Bool :=
  a.1.numEq b.1 && a.2.numEq b.2

namespace LiveMonitor

abbrev Action (φ : Type) := Program Unit (LiveMonitor φ)

/-- The test that the row of a key restores, if it is one of the same pair. Every exception is
    caught. -/
def restored (live : LiveMonitor φ) (key : String) (pair : Decimal × Decimal) : Option Sprt := do
  let row ← live.rows.get? key
  guard (samePair (row.p0, row.p1) pair)
  Sprt.ofRow logs row

def ensureMonitor (entry : StrategyCatalogEntry φ) : Action φ Sprt := fun live =>
  match live.monitors.get? entry.key with
  | some monitor => (.ok monitor, live)
  | none =>
    match live.restored logs entry.key entry.pair <|> Sprt.make logs entry.pair.1 entry.pair.2 with
    | none => (.error (), live)
    | some monitor => (.ok monitor, { live with
        monitors := live.monitors.put entry.key monitor
        validatedCache := live.validatedCache.put entry.key entry.pair })

def syncFromCatalog (logs : SprtLogs) : List (String × CatalogStrategyInfo φ) → Action φ Unit
  | [] => pure ()
  | (_, info) :: rest => do
    let _ ← ensureMonitor logs info.entry
    syncFromCatalog logs rest

variable (key : String)

/-- One turn of the loop of `on_manifest_applied`: another pair starts another test. -/
def refreshMonitor (entry : StrategyCatalogEntry φ) :
    Action φ Unit := fun live =>
  let cached := { live with validatedCache := live.validatedCache.put key entry.pair }
  match live.validatedCache.get? key with
  | none => (.ok (), cached)
  | some pair =>
    if samePair pair entry.pair then (.ok (), cached)
    else match Sprt.make logs entry.pair.1 entry.pair.2 with
    | none => (.error (), live)
    | some monitor => (.ok (), { cached with monitors := live.monitors.put key monitor })

def refreshMonitors (logs : SprtLogs) : List (String × CatalogStrategyInfo φ) → Action φ Unit
  | [] => pure ()
  | (key, info) :: rest => do
    refreshMonitor logs key info.entry
    refreshMonitors logs rest

def onManifestApplied : Action φ Unit := do
  let live ← Program.get
  syncFromCatalog logs live.catalog.active
  refreshMonitors logs live.catalog.active

/-- `on_manifest_expired`, and how many strategies it has demoted. -/
def onManifestExpired : Action φ Nat := fun live =>
  let demotion := live.catalog.demoteAllToObservation
  (.ok demotion.1, { live with catalog := demotion.2 })

/-- The test of a settlement: of a key that is not in the catalog, only what is left of it. -/
def findMonitor : Action φ (Option Sprt) := do
  let live ← Program.get
  match live.catalog.getStrategy key with
  | some info => do
    let monitor ← ensureMonitor logs info.entry
    pure (some monitor)
  | none => pure (live.monitors.get? key)

def updateMonitor (won : Bool) (monitor : Sprt) :
    Action φ SprtDecision := fun live =>
  let updated := Sprt.update logs won monitor
  (updated.1, { live with monitors := live.monitors.put key updated.2 })

def demoteRejected (decision : SprtDecision) : Action φ Unit :=
  Program.modify fun live =>
    if decision = .rejectH0 then { live with catalog := (live.catalog.demoteToObservation key).2 }
    else live

def saveMonitor : Action φ Unit :=
  Program.modify fun live =>
    match live.monitors.get? key with
    | none => live
    | some monitor =>
      let status := ((live.catalog.getStrategy key).map fun info => info.status).getD "observation"
      { live with rows := live.rows.put key (monitor.toRow status) }

def recordOutcome (won : Bool) :
    Option Sprt → Action φ SprtDecision
  | none => pure .continuing
  | some monitor => do
    let decision ← updateMonitor logs key won monitor
    demoteRejected key decision
    saveMonitor key
    pure decision

def settleOrder (orderId : Option String) : Action φ Unit :=
  Program.modify fun live =>
    match orderId with
    | none => live
    | some orderId => { live with catalog := live.catalog.notifyOrderSettled key orderId }

def onSettlement (won : Bool) (orderId : Option String) : Action φ SprtDecision := do
  settleOrder key orderId
  let monitor ← findMonitor logs key
  recordOutcome logs key won monitor

end LiveMonitor

end TradingLab
