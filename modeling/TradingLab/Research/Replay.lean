import TradingLab.Domain.Orders
import TradingLab.Research.Holdout

/-!
# The replay of a candidate

`replay_candidate` of `tools/strategy_lab/research/replay_simulator.py` and `settle` of
`outcome.py`. Where the three indicators agree on a direction and the payout is known, a trade is
settled with the next candle. The trace of the updates is left out.
-/
namespace TradingLab.Research

open Relational

/-- `Output`, without its `meta`. The direction `"none"` is `none`. -/
structure IndicatorOutput where
  direction : Option Direction
  value : Option Decimal

/-- What `update` answers to the last of the candles that were fed so far. -/
abbrev Indicator := List Candle → Option IndicatorOutput

inductive ParamValue
  | decimal (value : Decimal)
  | int (value : Int)
  | text (value : String)
deriving DecidableEq

abbrev ParamMap := Dict String ParamValue

structure Candidate where
  family : String
  regime : String
  trigger : String
  confirm : String
  params : Dict String ParamMap := []
  tf : String := "M1"
  hours : Int × Int := (0, 24)
  asset : String := "EURUSD-OTC"

def Candidate.paramsFor (candidate : Candidate) (indicator : String) : ParamMap :=
  (candidate.params.get? indicator).getD []

/-- The constructors of the indicators; `none` is an exception. -/
abbrev Registry := String → ParamMap → Option Indicator

abbrev PayoutLookup := String → Int → Option Decimal

structure Trade where
  ts : Int
  asset : String
  direction : Direction
  won : Bool
  payoutReturnRatio : Decimal
  profitRatio : Decimal
  updateCountAtSignal : Nat
deriving DecidableEq

structure TradeLog where
  trades : List Trade := []
  excludedMissingPayout : Nat := 0

def settle (direction : Direction) (candle next : Candle) : Bool :=
  match direction with
  | .call => candle.c.value < next.c.value
  | .put => next.c.value < candle.c.value

def regimeAllows (output : IndicatorOutput) : Bool :=
  output.direction.isSome ||
    output.value.all fun value => value.greater (Decimal.ofInt 0) == some true

/-- `_agreed_direction` of the outputs of the regime, the trigger and the confirmation. -/
def agreedDirection : Option IndicatorOutput → Option IndicatorOutput → Option IndicatorOutput →
    Option Direction
  | some regime, some trigger, some confirm =>
    if regimeAllows regime ∧ trigger.direction = confirm.direction ∧
        (regime.direction.isSome → regime.direction = trigger.direction) then
      trigger.direction
    else none
  | _, _, _ => none

structure Indicators where
  regime : Indicator
  trigger : Indicator
  confirm : Indicator

variable (indicators : Indicators)

def Indicators.direction (fed : List Candle) : Option Direction :=
  agreedDirection (indicators.regime fed) (indicators.trigger fed) (indicators.confirm fed)

def makeIndicators (registry : Registry) (candidate : Candidate) : Option Indicators := do
  some {
    regime := ← registry candidate.regime (candidate.paramsFor candidate.regime)
    trigger := ← registry candidate.trigger (candidate.paramsFor candidate.trigger)
    confirm := ← registry candidate.confirm (candidate.paramsFor candidate.confirm) }

section Loop
variable (indicators : Indicators) (asset : String) (payouts : PayoutLookup)

def tradeAt (fed : List Candle) (candle next : Candle) (direction : Direction)
    (payout : Decimal) : Trade :=
  let won := settle direction candle next
  { ts := candle.ts
    asset
    direction
    won
    payoutReturnRatio := payout
    profitRatio := if won then payout else Decimal.ofInt (-1)
    updateCountAtSignal := 3 * fed.length }

/-- The loop, after the candles `fed`: every candle but the last has its turn. -/
def replayLoop (fed : List Candle) : List Candle → TradeLog
  | candle :: next :: rest =>
    let now := fed ++ [candle]
    let log := replayLoop now (next :: rest)
    match indicators.direction now with
    | none => log
    | some direction =>
      match payouts asset candle.ts with
      | none => { log with excludedMissingPayout := log.excludedMissingPayout + 1 }
      | some payout =>
        { log with trades := tradeAt asset now candle next direction payout :: log.trades }
  | _ => {}

end Loop

/-- `replay_candidate`; `none` is an exception of a constructor. -/
def replayCandidate (registry : Registry) (candidate : Candidate) (candles : List Candle)
    (payouts : PayoutLookup) : Option TradeLog := do
  let indicators ← makeIndicators registry candidate
  some (replayLoop indicators candidate.asset payouts [] (sortedCandles candles))

/-! ### The turns of the loop -/

/-- The candles that have been fed, the candle of the turn, which is the last of them, and the
    candle after it. -/
structure Turn where
  fed : List Candle
  candle : Candle
  next : Candle

def turns (fed : List Candle) : List Candle → List Turn
  | candle :: next :: rest =>
    ⟨fed ++ [candle], candle, next⟩ :: turns (fed ++ [candle]) (next :: rest)
  | _ => []

theorem mem_turns {fed ordered : List Candle} {turn : Turn} :
    turn ∈ turns fed ordered ↔ ∃ i : Nat, ordered[i]? = some turn.candle ∧
      ordered[i + 1]? = some turn.next ∧ turn.fed = fed ++ ordered.take (i + 1) := by
  induction ordered generalizing fed with
  | nil => simp [turns]
  | cons candle rest ih =>
    cases rest with
    | nil => simp [turns]
    | cons next rest =>
      rw [turns, List.mem_cons, ih]
      constructor
      · rintro (rfl | ⟨i, here, after, fed⟩)
        · exact ⟨0, rfl, rfl, rfl⟩
        · exact ⟨i + 1, here, after, by simp [fed]⟩
      · rintro ⟨_ | i, here, after, fed⟩
        · left
          obtain ⟨_, _, _⟩ := turn
          simp_all
        · exact .inr ⟨i, here, after, by simp [fed]⟩

def Turn.trade (asset : String) (payouts : PayoutLookup) (turn : Turn) : Option Trade := do
  let direction ← indicators.direction turn.fed
  let payout ← payouts asset turn.candle.ts
  some (tradeAt asset turn.fed turn.candle turn.next direction payout)

theorem replayLoop_trades (asset : String) (payouts : PayoutLookup) (fed ordered : List Candle) :
    (replayLoop indicators asset payouts fed ordered).trades =
      (turns fed ordered).filterMap (Turn.trade indicators asset payouts) := by
  induction ordered generalizing fed with
  | nil => rfl
  | cons candle rest ih =>
    cases rest with
    | nil => rfl
    | cons next rest =>
      rw [turns, List.filterMap_cons, ← ih, replayLoop, Turn.trade]
      cases indicators.direction (fed ++ [candle]) with
      | none => rfl
      | some direction =>
        cases payouts asset candle.ts with
        | none => rfl
        | some payout => rfl

end TradingLab.Research
