import TradingLab.Domain.Text
import TradingLab.Relational.Dict

/-!
# The health gate

`HealthGate` of `apps/core/health.py`. A set of reasons is the list of its members.
-/
namespace TradingLab

open Relational

structure HealthState where
  isOpen : Bool
  reasonCode : Option String
deriving DecidableEq, Repr

abbrev Reasons := List String

def Reasons.add (reasons : Reasons) (reason : String) : Reasons :=
  if reason ∈ reasons then reasons else reasons ++ [reason]

def Reasons.discard (reasons : Reasons) (reason : String) : Reasons :=
  reasons.filter fun other => other != reason

structure HealthGate where
  blockers : Reasons := []
  scopedBlockers : Dict (String × String) Reasons := []
  database : Option String := none
deriving DecidableEq

namespace HealthGate

def priority : List String :=
  ["DB_NOT_CHECKED", "DB_SCHEMA_CORRUPT", "DB_JOURNAL_CORRUPT", "DB_FOREIGN_KEY_VIOLATION",
    "DB_CHECKPOINT_FAILED", "DB_WRITE_FAILED", "HG_SAFE_STOP", "HG_DAILY_STOP_REACHED",
    "HG_DAILY_TAKE_PROFIT_REACHED", "HG_COOLDOWN_ACTIVE", "HG_AUTH_AGENT_UNAVAILABLE",
    "HG_LEASE_EXPIRED", "HG_LEASE_REVOKED", "HG_ORDER_EVENT_CONFLICT", "HG_ORDER_EVENT_GAP",
    "HG_BROKER_EVENT_BACKPRESSURE", "HG_RECONCILIATION_CONFLICT", "HG_SETTLEMENT_REQUIRED",
    "HG_SETTLEMENT_UNKNOWN", "HG_ORDER_UNKNOWN", "HG_EXPOSURE_UNKNOWN",
    "HG_EXPOSURE_CURRENCY_MISMATCH", "HG_RECONCILIATION_UNAVAILABLE",
    "HG_RECONCILIATION_REQUIRED", "HG_WORKER_INCOMPATIBLE", "HG_WORKER_CIRCUIT_OPEN",
    "HG_WORKER_DISCONNECTED", "HG_WORKER_NOT_READY", "HG_MARKET_DATA_DISCONNECTED",
    "MD_CLOCK_UNTRUSTED"]

/-- `min(reasons)`. -/
def least (first : String) (rest : Reasons) : String :=
  rest.foldl (fun best reason => if reason < best then reason else best) first

def stateFromReasons : Reasons → HealthState
  | [] => ⟨true, none⟩
  | first :: rest =>
    ⟨false, some ((priority.find? fun candidate => (first :: rest).contains candidate).getD
      (least first rest))⟩

def databaseState (gate : HealthGate) : Option HealthState :=
  gate.database.map fun reason => ⟨false, some reason⟩

def globalState (gate : HealthGate) : HealthState :=
  gate.databaseState.getD (stateFromReasons gate.blockers)

def state (gate : HealthGate) : HealthState :=
  gate.databaseState.getD (stateFromReasons (gate.blockers ++ gate.scopedBlockers.values.flatten))

def scopeReasons (gate : HealthGate) (key : String × String) : Reasons :=
  (gate.scopedBlockers.get? key).getD []

/-- The blockers of an account: its own, and those of the market data of its broker. -/
def accountReasons (gate : HealthGate) (broker accountId : String) : Reasons :=
  if accountId ≠ "market-data" then
    gate.scopeReasons (upperText broker, accountId) ++
      gate.scopeReasons (upperText broker, "market-data")
  else gate.scopeReasons (upperText broker, accountId)

def stateFor (gate : HealthGate) (broker accountId : String) : HealthState :=
  gate.databaseState.getD <|
    if gate.blockers ≠ [] then stateFromReasons gate.blockers
    else stateFromReasons (gate.accountReasons broker accountId)

def canEnterOrder (gate : HealthGate) (broker accountId : String) : Bool × Option String :=
  if ¬ gate.globalState.isOpen then (false, gate.globalState.reasonCode)
  else if ¬ (gate.stateFor broker accountId).isOpen then
    (false, (gate.stateFor broker accountId).reasonCode)
  else (true, none)

def block (gate : HealthGate) (reasonCode : String) : HealthGate :=
  { gate with blockers := gate.blockers.add reasonCode }

/-- `clear_if`, also called `clear`: the reason leaves every scope. -/
def clearIf (gate : HealthGate) (reasonCode : String) : HealthGate :=
  { gate with
    blockers := gate.blockers.discard reasonCode
    scopedBlockers := gate.scopedBlockers.map fun entry =>
      (entry.1, Reasons.discard entry.2 reasonCode) }

def contains (gate : HealthGate) (reasonCode : String) : Bool :=
  gate.blockers.contains reasonCode ||
    gate.scopedBlockers.values.any fun reasons => reasons.contains reasonCode

def blockScope (gate : HealthGate) (broker accountId reasonCode : String) : HealthGate :=
  { gate with
    scopedBlockers := gate.scopedBlockers.put (upperText broker, accountId)
      ((gate.scopeReasons (upperText broker, accountId)).add reasonCode) }

/-- A scope without reasons is dropped. -/
def clearScope (gate : HealthGate) (broker accountId reasonCode : String) : HealthGate :=
  match gate.scopedBlockers.get? (upperText broker, accountId) with
  | none => gate
  | some reasons =>
    if reasons.discard reasonCode = [] then
      { gate with scopedBlockers := gate.scopedBlockers.erase (upperText broker, accountId) }
    else
      { gate with
        scopedBlockers := gate.scopedBlockers.put (upperText broker, accountId)
          (reasons.discard reasonCode) }

variable {gate : HealthGate} {reason other broker accountId : String} {reasons : Reasons}

theorem isOpen_stateFromReasons :
    (stateFromReasons reasons).isOpen = true ↔ reasons = [] := by
  cases reasons <;> simp [stateFromReasons]

theorem isOpen_stateFor :
    (gate.stateFor broker accountId).isOpen = true ↔
      gate.database = none ∧ gate.blockers = [] ∧ gate.accountReasons broker accountId = [] := by
  unfold stateFor databaseState
  cases gate.database with
  | some failure => simp
  | none =>
    by_cases clear : gate.blockers = []
    · simp [clear, isOpen_stateFromReasons]
    · simp [clear, isOpen_stateFromReasons]

theorem isOpen_globalState :
    gate.globalState.isOpen = true ↔ gate.database = none ∧ gate.blockers = [] := by
  unfold globalState databaseState
  cases gate.database <;> simp [isOpen_stateFromReasons]

theorem canEnterOrder_iff :
    (gate.canEnterOrder broker accountId).1 = true ↔
      gate.database = none ∧ gate.blockers = [] ∧ gate.accountReasons broker accountId = [] := by
  rw [← isOpen_stateFor]
  unfold canEnterOrder
  by_cases globally : gate.globalState.isOpen = true
  · by_cases locally : (gate.stateFor broker accountId).isOpen = true <;>
      simp [globally, locally]
  · have shut : (gate.stateFor broker accountId).isOpen ≠ true := fun isOpen =>
      globally (isOpen_globalState.mpr
        ⟨(isOpen_stateFor.mp isOpen).1, (isOpen_stateFor.mp isOpen).2.1⟩)
    simp [globally, shut]

theorem canEnterOrder_of_mem (blocked : reason ∈ gate.blockers) (broker accountId : String) :
    (gate.canEnterOrder broker accountId).1 = false := by
  rw [Bool.eq_false_iff]
  intro entered
  rw [(canEnterOrder_iff.mp entered).2.1] at blocked
  exact List.not_mem_nil blocked

theorem mem_add :
    other ∈ reasons.add reason ↔ other ∈ reasons ∨ other = reason := by
  unfold Reasons.add
  split
  · rename_i present
    constructor
    · exact Or.inl
    · rintro (member | rfl)
      · exact member
      · exact present
  · simp

theorem mem_discard :
    other ∈ reasons.discard reason ↔ other ∈ reasons ∧ other ≠ reason := by
  simp [Reasons.discard]

theorem mem_block : other ∈ (gate.block reason).blockers ↔
    other ∈ gate.blockers ∨ other = reason :=
  mem_add

theorem mem_clearIf : other ∈ (gate.clearIf reason).blockers ↔
    other ∈ gate.blockers ∧ other ≠ reason :=
  mem_discard

theorem blockers_clearScope (broker accountId : String) :
    (gate.clearScope broker accountId reason).blockers = gate.blockers := by
  unfold clearScope
  split
  · rfl
  · split <;> rfl

end HealthGate

end TradingLab
