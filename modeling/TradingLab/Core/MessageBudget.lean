import TradingLab.Domain.Orders
import TradingLab.Numeric.Ceiling
import TradingLab.Workers.Json

/-!
# The budget of broker messages

`SlidingWindowBrokerMessageBudget` keeps a time for each message granted in the last sixty seconds.
Times are exact numbers of seconds: a float below `2 ^ 55` loses nothing when sixty is taken off.
-/
namespace TradingLab

structure SlidingWindowBrokerMessageBudget where
  limit : Int
  pressureThreshold : Int
  timestamps : List ℚ := []
deriving DecidableEq

structure BrokerMessageBudgetDecision where
  allowed : Bool
  usedInWindow : Int
  limit : Int
  pressure : Bool
deriving DecidableEq

structure BudgetCall where
  nowMonotonic : ℚ
  count : Int := 1

namespace SlidingWindowBrokerMessageBudget

/-- `__init__`. -/
def make (maxMessagesPerMinute : Int) (pressureRatio : Decimal) :
    Except String SlidingWindowBrokerMessageBudget := do
  check (0 < maxMessagesPerMinute) "broker message budget must be positive"
  check (pressureRatio.isFinite = true ∧ 0 < pressureRatio.value ∧ pressureRatio.value ≤ 1)
    "broker message pressure ratio is invalid"
  match (Decimal.mul decimalPrecision (.ofInt maxMessagesPerMinute) pressureRatio).bind
      Decimal.ceiling with
  | some threshold => .ok ⟨maxMessagesPerMinute, threshold, []⟩
  | none => .error "cannot convert to integer"

def discardExpired (budget : SlidingWindowBrokerMessageBudget) (nowMonotonic : ℚ) :
    SlidingWindowBrokerMessageBudget :=
  { budget with
    timestamps := budget.timestamps.dropWhile fun time => decide (time ≤ nowMonotonic - 60) }

def tryAcquire (budget : SlidingWindowBrokerMessageBudget) (call : BudgetCall) :
    Except String BrokerMessageBudgetDecision × SlidingWindowBrokerMessageBudget :=
  if call.nowMonotonic < 0 ∨ call.count ≤ 0 then
    (.error "broker message budget input is invalid", budget)
  else
    let kept := budget.discardExpired call.nowMonotonic
    let used : Int := kept.timestamps.length
    let pressure := decide (kept.pressureThreshold ≤ used + call.count)
    if used + call.count ≤ kept.limit then
      (.ok ⟨true, used + call.count, kept.limit, pressure⟩,
        { kept with timestamps :=
            kept.timestamps ++ List.replicate call.count.toNat call.nowMonotonic })
    else (.ok ⟨false, used, kept.limit, pressure⟩, kept)

end SlidingWindowBrokerMessageBudget

end TradingLab
