import TradingLab.Domain.Evidence
import TradingLab.Numeric.Ceiling

/-!
# The digit risk configuration

`DigitRiskConfig` of `apps/core/digit_risk_config.py` and its validation, for fields of the declared
types. A `float` is its text with the number it reads as, a `frozenset` the list of its members.
-/
namespace TradingLab

def derivSyntheticIndexAllowlist : List String :=
  ["R_10", "R_25", "R_50", "R_75", "R_100", "1HZ10V", "1HZ15V", "1HZ25V", "1HZ30V", "1HZ50V",
    "1HZ75V", "1HZ90V", "1HZ100V"]

def derivDigitStrategyAllowlist : List String :=
  ["tail-probability-edge", "selective-differs-edge", "parity-regime-edge",
    "payout-routed-differs-session"]

def derivDefaultDigitStrategyIds : List String :=
  ["tail-probability-edge", "selective-differs-edge", "parity-regime-edge"]

inductive StrategySelectionMode
  | single
  | multi
  | stress
deriving DecidableEq, Repr

structure DigitRiskConfig where
  stakeMinorUnits : Int := 100
  dailyStopLossMinorUnits : Int := 5000
  dailyTakeProfitMinorUnits : Int := 3000
  maxConsecutiveLosses : Int := 1
  cooldownSecondsAfterLoss : DecimalText := ⟨"30.0", .finite 30⟩
  minQuantumConfidencePct : Decimal := .finite false 925 (-1)
  selectedSymbol : String := "R_100"
  currency : String := "USD"
  autoSelectSymbol : Bool := true
  activeStrategyId : String := "tail-probability-edge"
  enabledStrategyIds : List String := derivDefaultDigitStrategyIds
  selectionMode : StrategySelectionMode := .single
  stressTestAllStrategiesEnabled : Bool := false
  martingaleEnabled : Bool := false
  martingaleMultiplier : Decimal := .finite false 200 (-2)
  martingaleMaxSteps : Int := 2
  martingaleMaxStakeMinorUnits : Int := 400
  performanceRatchetCapPp : Decimal := .finite false 10 (-1)
  performanceWindowTrades : Int := 20
  performanceWindowHours : DecimalText := ⟨"24.0", .finite 24⟩
  martingalePinTimeoutSeconds : DecimalText := ⟨"300.0", .finite 300⟩
deriving DecidableEq, Repr

/-- A finite and positive `float`. -/
def DecimalText.isPositive (number : DecimalText) : Bool :=
  match number.reading with
  | .finite value => decide (0 < value)
  | _ => false

namespace DigitRiskConfig

/-- `config == other`: decimals compare by their values and sets by their members. -/
def same (config other : DigitRiskConfig) : Bool :=
  config.minQuantumConfidencePct.numEq other.minQuantumConfidencePct &&
    config.martingaleMultiplier.numEq other.martingaleMultiplier &&
    config.performanceRatchetCapPp.numEq other.performanceRatchetCapPp &&
    config.enabledStrategyIds.all other.enabledStrategyIds.contains &&
    other.enabledStrategyIds.all config.enabledStrategyIds.contains &&
    decide ({ config with
      minQuantumConfidencePct := other.minQuantumConfidencePct
      martingaleMultiplier := other.martingaleMultiplier
      performanceRatchetCapPp := other.performanceRatchetCapPp
      enabledStrategyIds := other.enabledStrategyIds } = other)

def validateMartingale (config : DigitRiskConfig) : Except String Unit :=
  if config.martingaleEnabled then do
    check (config.stakeMinorUnits ≤ config.martingaleMaxStakeMinorUnits)
      "DIGIT_MARTINGALE_MAX_STAKE_INVALID"
    check (config.martingaleMaxSteps + 1 ≤ config.maxConsecutiveLosses)
      "DIGIT_MARTINGALE_LOSS_LIMIT_TOO_LOW"
  else .ok ()

/-- `validate_digit_risk_config`, with the reason of a refusal. -/
def validate (config : DigitRiskConfig) : Except String Unit := do
  check (35 ≤ config.stakeMinorUnits) "DIGIT_RISK_STAKE_BELOW_MINIMUM"
  check (0 < config.dailyStopLossMinorUnits) "DIGIT_RISK_STOP_LOSS_INVALID"
  check (0 < config.dailyTakeProfitMinorUnits) "DIGIT_RISK_TAKE_PROFIT_INVALID"
  check (1 ≤ config.maxConsecutiveLosses ∧ config.maxConsecutiveLosses ≤ 5)
    "DIGIT_RISK_CONSECUTIVE_LOSSES_INVALID"
  check (config.cooldownSecondsAfterLoss.isPositive = true) "DIGIT_RISK_COOLDOWN_INVALID"
  check (config.minQuantumConfidencePct.within (.finite false 800 (-1)) (.finite false 990 (-1)) =
    true) "DIGIT_RISK_CONFIDENCE_INVALID"
  check (config.selectedSymbol ∈ derivSyntheticIndexAllowlist) "DIGIT_RISK_SYMBOL_NOT_ALLOWED"
  check (config.currency = "USD") "DIGIT_RISK_CURRENCY_NOT_SUPPORTED"
  check (config.activeStrategyId = "" ∨ config.activeStrategyId ∈ derivDigitStrategyAllowlist)
    "DIGIT_RISK_STRATEGY_NOT_ALLOWED"
  check (∀ id ∈ config.enabledStrategyIds, id ∈ derivDigitStrategyAllowlist)
    "DIGIT_RISK_STRATEGY_SELECTION_INVALID"
  check (config.martingaleMultiplier.within (.finite false 110 (-2)) (.finite false 300 (-2)) =
    true) "DIGIT_MARTINGALE_MULTIPLIER_INVALID"
  check (1 ≤ config.martingaleMaxSteps ∧ config.martingaleMaxSteps ≤ 4)
    "DIGIT_MARTINGALE_STEPS_INVALID"
  check (0 < config.martingaleMaxStakeMinorUnits ∧
    config.martingaleMaxStakeMinorUnits ≤ config.dailyStopLossMinorUnits)
    "DIGIT_MARTINGALE_MAX_STAKE_INVALID"
  config.validateMartingale
  check (config.performanceRatchetCapPp.within (.finite false 0 (-1)) (.finite false 100 (-1)) =
    true) "DIGIT_PERFORMANCE_RATCHET_CAP_INVALID"
  check (1 ≤ config.performanceWindowTrades ∧ config.performanceWindowTrades ≤ 1000)
    "DIGIT_PERFORMANCE_WINDOW_INVALID"
  check (config.performanceWindowHours.isPositive = true) "DIGIT_PERFORMANCE_WINDOW_INVALID"
  check (config.martingalePinTimeoutSeconds.isPositive = true)
    "DIGIT_MARTINGALE_PIN_TIMEOUT_INVALID"

structure Limits (config : DigitRiskConfig) : Prop where
  stake : 35 ≤ config.stakeMinorUnits
  stopLoss : 0 < config.dailyStopLossMinorUnits
  takeProfit : 0 < config.dailyTakeProfitMinorUnits
  losses : 1 ≤ config.maxConsecutiveLosses ∧ config.maxConsecutiveLosses ≤ 5
  cooldown : ∃ seconds, config.cooldownSecondsAfterLoss.reading = .finite seconds ∧ 0 < seconds
  currency : config.currency = "USD"
  steps : 1 ≤ config.martingaleMaxSteps ∧ config.martingaleMaxSteps ≤ 4
  maxStake : 0 < config.martingaleMaxStakeMinorUnits ∧
    config.martingaleMaxStakeMinorUnits ≤ config.dailyStopLossMinorUnits

theorem limits_of_validate {config : DigitRiskConfig} (accepted : config.validate = .ok ()) :
    config.Limits := by
  simp only [validate, Except.bind_ok_iff, check_eq_ok] at accepted
  obtain ⟨_, stake, _, stopLoss, _, takeProfit, _, losses, _, cooldown, _, -, _, -, _, currency,
    _, -, _, -, _, -, _, steps, _, maxStake, -⟩ := accepted
  refine ⟨stake, stopLoss, takeProfit, losses, ?_, currency, steps, maxStake⟩
  unfold DecimalText.isPositive at cooldown
  split at cooldown
  · rename_i seconds reading
    exact ⟨seconds, reading, decide_eq_true_eq.mp cooldown⟩
  · cases cooldown

end DigitRiskConfig

end TradingLab
