import TradingLab.Domain.Orders
import TradingLab.Numeric.Ceiling
import TradingLab.Workers.Json

/-!
# The bounded martingale

`recovery_stake` of `packages/portfolio_allocation/martingale.py` in the default decimal context.
-/
namespace TradingLab

structure BoundedMartingaleConfigFields where
  baseStake : Money
  multiplier : Decimal
  maxSteps : Int
  maxStake : Money
  dailyStopLoss : Money
deriving DecidableEq

def BoundedMartingaleConfigFields.postInit (c : BoundedMartingaleConfigFields) :
    Except String Unit := do
  check (c.baseStake.currency = c.maxStake.currency) "martingale stake currencies must match"
  check (c.baseStake.currency = c.dailyStopLoss.currency)
    "martingale stop-loss currency must match"
  check (0 < c.baseStake.minorUnits) "martingale base stake must be positive"
  check (c.baseStake.minorUnits ≤ c.maxStake.minorUnits)
    "martingale max stake cannot be below base stake"
  check (0 < c.dailyStopLoss.minorUnits) "martingale daily stop loss must be positive"
  check (c.maxStake.minorUnits ≤ c.dailyStopLoss.minorUnits)
    "martingale max stake cannot exceed daily stop loss"
  check (c.multiplier.within (.finite false 110 (-2)) (.finite false 300 (-2)) = true)
    "martingale multiplier must be between 1.10 and 3.00"
  check (1 ≤ c.maxSteps ∧ c.maxSteps ≤ 4) "martingale max steps must be between 1 and 4"

structure BoundedMartingaleConfig extends BoundedMartingaleConfigFields where
  accepted : toBoundedMartingaleConfigFields.postInit = .ok ()
deriving DecidableEq

def BoundedMartingaleConfig.make (fields : BoundedMartingaleConfigFields) :
    Except String BoundedMartingaleConfig :=
  match h : fields.postInit with
  | .ok () => .ok ⟨fields, h⟩
  | .error message => .error message

/-- `BoundedMartingaleState`, whose step is not negative. -/
structure BoundedMartingaleState where
  step : Nat := 0
deriving DecidableEq, Repr

inductive AllocationError
  | value (message : String)
  /-- `decimal.InvalidOperation`, or `decimal.Overflow` beyond the exponents of the context. -/
  | arithmetic
deriving DecidableEq, Repr

namespace BoundedMartingaleAllocator

/-- The least whole number above a quotient, `int((a / b).quantize(Decimal("1"), ...))`. -/
def ceilingQuotient (dividend : Int) (divisor : Decimal) : Except AllocationError Int :=
  match (Decimal.div decimalPrecision (Decimal.ofInt dividend) divisor).bind
      (Decimal.quantizeUp decimalPrecision) with
  | some whole => .ok whole
  | none => .error .arithmetic

/-- `required_stake`, raised to the base stake. -/
def stakeFor (config : BoundedMartingaleConfig) (netProfitRatio : Decimal) (target : Int) :
    Except AllocationError Int := do
  let required ← ceilingQuotient target netProfitRatio
  .ok (max config.baseStake.minorUnits required)

def hardCap (config : BoundedMartingaleConfig) (remainingLossBudget : Int) : Int :=
  min config.maxStake.minorUnits remainingLossBudget

def remainingAttempts (config : BoundedMartingaleConfig) (state : BoundedMartingaleState) : Int :=
  config.maxSteps - state.step + 1

/-- The recovery of the loss in parts, one for each attempt that is left. -/
def dividedRecovery (config : BoundedMartingaleConfig) (state : BoundedMartingaleState)
    (outstandingLoss : Int) (netProfitRatio : Decimal) (remainingLossBudget : Int) :
    Except AllocationError Int := do
  let targetSlice ← ceilingQuotient outstandingLoss (Decimal.ofInt (remainingAttempts config state))
  let divided ← stakeFor config netProfitRatio targetSlice
  if divided ≤ hardCap config remainingLossBudget then .ok divided
  else .error (.value "martingale recovery exceeds configured safety limits")

/-- `recovery_stake`, in minor units of the currency of the base stake. -/
def recoveryStake (config : BoundedMartingaleConfig) (state : BoundedMartingaleState)
    (outstandingLoss : Int) (netProfitRatio : Decimal) (remainingLossBudget : Int) :
    Except AllocationError Int :=
  if state.step = 0 ∨ outstandingLoss ≤ 0 then .ok config.baseStake.minorUnits
  else if config.maxSteps < state.step then
    .error (.value "martingale state exceeds configured max steps")
  else if ¬ (netProfitRatio.isFinite = true ∧ netProfitRatio.isPositive = true) then
    .error (.value "martingale quote net profit ratio must be positive")
  else if hardCap config remainingLossBudget ≤ 0 then
    .error (.value "martingale recovery has no remaining loss budget")
  else do
    let full ← stakeFor config netProfitRatio outstandingLoss
    if full ≤ hardCap config remainingLossBudget then .ok full
    else dividedRecovery config state outstandingLoss netProfitRatio remainingLossBudget

end BoundedMartingaleAllocator

end TradingLab
