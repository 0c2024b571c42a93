import TradingLab.Research.Replay

/-!
# Walk-forward windows

`generate_anchored_slices` and `partition_trades_into_windows` of
`tools/strategy_lab/research/gates/walk_forward.py`.
-/
namespace TradingLab.Research

structure Slice where
  trainFrom : Int
  trainTo : Int
  testFrom : Int
  testTo : Int
deriving DecidableEq

section Slices
variable (fromTs toTs trainDuration testDuration : Int)

/-- The `while` loop at `current_test_from`; `none` if the fuel runs out. -/
def sliceLoop : Nat → Int → Option (List Slice)
  | 0, _ => none
  | fuel + 1, current =>
    if current + testDuration ≤ toTs then
      (sliceLoop fuel (current + testDuration)).map fun slices =>
        ⟨fromTs, current, current, current + testDuration⟩ :: slices
    else some []

def generateAnchoredSlices (fuel : Nat) : Option (List Slice) :=
  sliceLoop fromTs toTs testDuration fuel (fromTs + trainDuration)

end Slices

structure WalkForwardWindow extends Slice where
  index : Nat
  trades : List Trade
  wins : Nat
  total : Nat
  pHat : Decimal

def windowOf (trades : List Trade) (slice : Slice) (index : Nat) : WalkForwardWindow :=
  let testTrades := trades.filter fun trade =>
    slice.testFrom ≤ trade.ts ∧ trade.ts ≤ slice.testTo
  let wins := testTrades.countP (·.won)
  let total := testTrades.length
  { slice with
    index
    trades := testTrades
    wins
    total
    pHat := if total = 0 then Decimal.ofInt 0
      else (Decimal.div 28 (Decimal.ofInt wins) (Decimal.ofInt total)).getD .nan }

def partitionTradesIntoWindows (trades : List Trade) (slices : List Slice) :
    List WalkForwardWindow :=
  slices.mapIdx fun index slice => windowOf trades slice index

end TradingLab.Research
