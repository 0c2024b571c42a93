import TradingLab.Market.Ticks

/-!
# Digit strategies

The strategies of `deriv_digits.py` look at the digits that followed a digit of the parity of the
last one. A strategy signals when, in each of three windows, the same contract has a conservative
advantage. The bound on a probability is computed in floating point and is a parameter; everything
after it is exact.
-/
namespace TradingLab

def lastDigit (tick : MarketTick) : Nat :=
  tick.quote.lastDigit.getD 0

/-- `tick.identity == other.identity`; quotes compare by value. -/
def MarketTick.sameIdentity (tick other : MarketTick) : Bool :=
  tick.broker == other.broker && tick.brokerSymbol == other.brokerSymbol &&
    tick.epoch == other.epoch && tick.quote.numEq other.quote && tick.source == other.source

/-- The loop of `_valid_ticks`, from the tick before. -/
def validFrom (symbol : String) : Option MarketTick → List MarketTick → Bool
  | _, [] => true
  | previous, tick :: rest =>
    let previousEpoch := match previous with
      | some before => before.epoch
      | none => 0
    let repeated := match previous with
      | some before => tick.sameIdentity before
      | none => false
    tick.broker == .deriv && tick.brokerSymbol == symbol && decide (previousEpoch ≤ tick.epoch) &&
      !repeated && validFrom symbol (some tick) rest

def validTicks : List MarketTick → Bool
  | [] => true
  | tick :: rest => validFrom tick.brokerSymbol none (tick :: rest)

def conditionalOutcomes (parity : Nat) : List Nat → List Nat
  | previous :: digit :: rest =>
    if previous % 2 = parity then digit :: conditionalOutcomes parity (digit :: rest)
    else conditionalOutcomes parity (digit :: rest)
  | _ => []

inductive ShadowSignalState
  | warmingUp
  | monitoring
  | shadowSignal
  | executableSignal
  | dataBlocked
deriving DecidableEq, Repr

structure DigitStrategyDecision where
  strategyId : String
  symbol : String
  state : ShadowSignalState
  reasonCode : String
  observedEpoch : Option Int
  contractType : Option String := none
  direction : Option String := none
  barrier : Option Int := none
  estimatedProbabilityPct : Option ℚ := none
  requiredProbabilityPct : Option ℚ := none
  evidence : List (String × String) := []
deriving DecidableEq

structure DigitChoice where
  contractType : String
  direction : String
  barrier : Option Int
  probability : ℚ
  required : ℚ
  sample : Nat
deriving DecidableEq

/-- `_wilson_bound(successes, total, upper=...)`. -/
abbrev WilsonBound := Nat → Nat → Bool → ℚ

/-- What tells one edge strategy from another. -/
structure EdgeStrategy where
  strategyId : String
  /-- The head of its reason codes. -/
  reasonHead : String
  /-- The contract with the best bound among the outcomes of a window. -/
  choose : WilsonBound → List Nat → DigitChoice
  /-- What makes the choices of two windows the same. -/
  identity : DigitChoice → String × String × Option Int
  /-- The evidence of a signal, apart from what every strategy adds. -/
  context : String × String

def warmupTicks : Nat := 500

def windowSizes : List Nat := [200, 350, 500]

def minimumContext : Nat := 70

def lastItems {α : Type} (items : List α) (n : Nat) : List α :=
  items.drop (items.length - n)

def lastSymbol (default : String) (ticks : List MarketTick) : String :=
  (ticks.getLast?.map (·.brokerSymbol)).getD default

def lastEpoch (ticks : List MarketTick) : Int :=
  (ticks.getLast?.map (·.epoch)).getD 0

/-- `value.quantize(Decimal("0.01"))`. -/
def toHundredths (value : ℚ) : ℚ :=
  let scaled := value * 100
  Decimal.signed (decide (scaled < 0)) (Decimal.divHalfEven scaled.num.natAbs scaled.den) / 100

namespace EdgeStrategy

variable (wilson : WilsonBound) (strategy : EdgeStrategy)

def quiet (symbol : String) (state : ShadowSignalState) (suffix : String) (epoch : Option Int) :
    DigitStrategyDecision where
  strategyId := strategy.strategyId
  symbol := symbol
  state := state
  reasonCode := strategy.reasonHead ++ suffix
  observedEpoch := epoch

def choices (digits : List Nat) : List Nat → Except String (List DigitChoice)
  | [] => .ok []
  | size :: rest => do
    let window := lastItems digits size
    let outcomes := conditionalOutcomes (window.getLastD 0 % 2) window
    if outcomes.length < minimumContext then .error "_CONTEXT_INSUFFICIENT"
    else
      let best := strategy.choose wilson outcomes
      if best.probability ≤ best.required then .error "_NO_CONSERVATIVE_ADVANTAGE"
      else
        let others ← choices digits rest
        .ok (best :: others)

def decideOn (symbol : String) (epoch : Int) (digits : List Nat) : DigitStrategyDecision :=
  match strategy.choices wilson digits windowSizes with
  | .error suffix => strategy.quiet symbol .monitoring suffix (some epoch)
  | .ok chosen =>
    match chosen.getLast? with
    | none => strategy.quiet symbol .monitoring "_WINDOWS_DISAGREE" (some epoch)
    | some last =>
      if chosen.any (fun choice => strategy.identity choice != strategy.identity last) then
        strategy.quiet symbol .monitoring "_WINDOWS_DISAGREE" (some epoch)
      else
        { strategyId := strategy.strategyId
          symbol := symbol
          state := .shadowSignal
          reasonCode := strategy.reasonHead ++ "_CONSERVATIVE_SIGNAL"
          observedEpoch := some epoch
          contractType := some last.contractType
          direction := some last.direction
          barrier := last.barrier
          estimatedProbabilityPct := some (toHundredths last.probability)
          requiredProbabilityPct := some last.required
          evidence := [("confidence", "WILSON_99_PERCENT"), strategy.context,
            ("context_sample", toString last.sample), ("duration_ticks", "1"),
            ("entry_mode", "SHADOW_ONLY")] }

def evaluate (ticks : List MarketTick) : DigitStrategyDecision :=
  let symbol := lastSymbol "R_100" ticks
  if ticks.length < warmupTicks then strategy.quiet symbol .warmingUp "_WARMING_UP" none
  else
    let window := lastItems ticks warmupTicks
    if validTicks window = false then
      strategy.quiet symbol .dataBlocked "_TICK_CONTEXT_INVALID" none
    else
      strategy.decideOn wilson symbol (lastEpoch window) (window.map lastDigit)

end EdgeStrategy

/-! ### The strategies -/

def countWhere (outcomes : List Nat) (wins : Nat → Bool) : Nat :=
  (outcomes.filter wins).length

/-- `_candidates`: contract, direction, barrier and required probability. -/
def tailCandidates : List (String × String × Nat × ℚ) :=
  [("DIGITOVER", "OVER", 2, 72), ("DIGITUNDER", "UNDER", 7, 72), ("DIGITOVER", "OVER", 3, 62),
    ("DIGITUNDER", "UNDER", 6, 62), ("DIGITOVER", "OVER", 4, 52), ("DIGITUNDER", "UNDER", 5, 52)]

def tailChoice (wilson : WilsonBound) (outcomes : List Nat)
    (candidate : String × String × Nat × ℚ) : DigitChoice :=
  let (contract, direction, barrier, required) := candidate
  let wins := countWhere outcomes fun digit =>
    if direction = "OVER" then decide (barrier < digit) else decide (digit < barrier)
  ⟨contract, direction, some barrier, wilson wins outcomes.length false * 100, required,
    outcomes.length⟩

/-- The first of the choices with the largest margin. A bound is a probability, so the margin
    of the first choice is above the -100 that the loop starts from. -/
def bestMargin (first : DigitChoice) (others : List DigitChoice) : DigitChoice :=
  others.foldl (fun best choice =>
    if best.probability - best.required < choice.probability - choice.required then choice
    else best) first

/-- `TailProbabilityEdgeStrategy`. -/
def tailProbabilityEdge : EdgeStrategy where
  strategyId := "tail-probability-edge"
  reasonHead := "TAIL_EDGE"
  choose wilson outcomes :=
    bestMargin (tailChoice wilson outcomes ("DIGITOVER", "OVER", 2, 72))
      (tailCandidates.tail.map (tailChoice wilson outcomes))
  identity choice := (choice.contractType, choice.direction, choice.barrier)
  context := ("context", "PREVIOUS_DIGIT_PARITY")

def rarestDigit (outcomes : List Nat) : Nat :=
  (List.range 10).foldl (fun best digit =>
    if outcomes.count digit < outcomes.count best then digit else best) 0

/-- `SelectiveDiffersEdgeStrategy`. -/
def selectiveDiffersEdge : EdgeStrategy where
  strategyId := "selective-differs-edge"
  reasonHead := "DIFFERS_EDGE"
  choose wilson outcomes :=
    let barrier := rarestDigit outcomes
    let losing := wilson (outcomes.count barrier) outcomes.length true
    ⟨"DIGITDIFF", "DIFFERS " ++ toString barrier, some barrier, (1 - losing) * 100, 369 / 4,
      outcomes.length⟩
  identity choice := ("", "", choice.barrier)
  context := ("selection_correction", "THREE_WINDOWS_SAME_DIGIT")

/-- `ParityRegimeEdgeStrategy`. -/
def parityRegimeEdge : EdgeStrategy where
  strategyId := "parity-regime-edge"
  reasonHead := "PARITY_EDGE"
  choose wilson outcomes :=
    let even := countWhere outcomes fun digit => digit % 2 == 0
    let odd := outcomes.length - even
    if odd ≤ even then
      ⟨"DIGITEVEN", "EVEN", none, wilson even outcomes.length false * 100, 52, outcomes.length⟩
    else ⟨"DIGITODD", "ODD", none, wilson odd outcomes.length false * 100, 52, outcomes.length⟩
  identity choice := (choice.contractType, "", none)
  context := ("context", "PREVIOUS_DIGIT_PARITY")

/-- `PayoutRoutedDiffersSessionStrategy.evaluate`, which does not look at digits. -/
def payoutRoutedDiffersSession (ticks : List MarketTick) : DigitStrategyDecision where
  strategyId := "payout-routed-differs-session"
  symbol := lastSymbol "aguardando-proposal" ticks
  state := .monitoring
  reasonCode := "SESSION_NO_FRESH_PROPOSAL"
  observedEpoch := ticks.getLast?.map (·.epoch)

end TradingLab
