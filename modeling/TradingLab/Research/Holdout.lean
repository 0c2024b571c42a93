import TradingLab.Relational.Dict
import TradingLab.Strategies.Primitives
import Mathlib.Data.List.Sort

/-!
# The sealed holdout

`tools/strategy_lab/research/holdout.py` of the lab, and what `run_research_pipeline` of `runner.py`
does with the holdout: it separates it, is refused when the range is burned, opens it if candidates
are approved, and burns the range after the replay. What lies between may raise at any point and is
left out. The hash of the candles is a parameter.
-/
namespace TradingLab

open Relational

abbrev HoldoutRange := Int × Int

/-- `THREE_MONTHS_S`. -/
def threeMonths : Int := 90 * 86400

structure HoldoutSplit where
  trainValCandles : List Candle
  holdoutCandles : List Candle
  holdoutRange : HoldoutRange
  holdoutHash : String

/-- `sorted(candles, key=lambda c: c.ts)`. -/
def sortedCandles (candles : List Candle) : List Candle :=
  candles.insertionSort fun a b => a.ts ≤ b.ts

/-- Where the holdout starts. `int(len(ordered) * 0.8)` is exact for any length that fits in
    memory; `none` is an `IndexError`. -/
def holdoutStart (ordered : List Candle) (first last : Candle) (duration : Int) : Option Int :=
  if last.ts - first.ts ≤ duration then
    (ordered[max (ordered.length * 4 / 5) 1]?).map fun candle => candle.ts
  else some (last.ts - duration)

variable (hash : List Candle → String)

/-- `separate_holdout`; `none` is an exception. -/
def separateHoldout (candles : List Candle) (duration : Int := threeMonths) :
    Option HoldoutSplit := do
  let ordered := sortedCandles candles
  let first ← ordered.head?
  let last ← ordered.getLast?
  let start ← holdoutStart ordered first last duration
  let trainVal := ordered.filter fun candle => candle.ts < start
  let holdout := ordered.filter fun candle => start ≤ candle.ts
  if (trainVal = [] ∨ holdout = []) ∧ 2 ≤ ordered.length then
    some {
      trainValCandles := ordered.dropLast
      holdoutCandles := [last]
      holdoutRange := (last.ts, last.ts)
      holdoutHash := hash [last] }
  else
    some {
      trainValCandles := trainVal
      holdoutCandles := holdout
      holdoutRange := (start, last.ts)
      holdoutHash := hash holdout }

/-! ### The manager -/

/-- `HoldoutManager`, without its connection. -/
structure HoldoutManager where
  openedRuns : List String := []
  burnedRanges : List HoldoutRange := []

structure HoldoutBurnedRow where
  rangeId : String
  fromTs : Int
  toTs : Int
  burnedAt : Int
  runId : Option String
deriving DecidableEq

def HoldoutBurnedRow.checks (row : HoldoutBurnedRow) : Bool :=
  0 ≤ row.fromTs && row.fromTs < row.toTs && row.fromTs % 60 == 0 && row.toTs % 60 == 0 &&
    0 ≤ row.burnedAt

/-- Only the ranges in memory are asked. -/
def isBurned (burned : List HoldoutRange) (range : HoldoutRange) : Bool :=
  burned.contains range ||
    burned.any fun other => max range.1 other.1 < min range.2 other.2

namespace HoldoutManager

/-- `open_once`; `none` is the `RuntimeError`. -/
def openOnce (manager : HoldoutManager) (runId : String) : Option HoldoutManager :=
  if runId ∈ manager.openedRuns then none
  else some { manager with openedRuns := runId :: manager.openedRuns }

/-- The row that `burn` inserts. A `burned_at` of zero counts as none. -/
def burnedRow (range : HoldoutRange) (runId : String) (burnedAt : Int) : HoldoutBurnedRow where
  rangeId := (if runId = "" then "" else runId ++ "_") ++ toString range.1 ++ "_" ++ toString
    range.2
  fromTs := range.1
  toTs := range.2
  burnedAt := if burnedAt = 0 then range.2 else burnedAt
  runId := if runId = "" then none else some runId

/-- `INSERT ... ON CONFLICT (range_id) DO NOTHING`; whether the database is there and knows the
    run is an input, and every failure is swallowed. -/
def insertBurned (table : List HoldoutBurnedRow) (row : HoldoutBurnedRow) (accepts : Bool) :
    List HoldoutBurnedRow :=
  if accepts && row.checks && !table.any (fun other => other.rangeId == row.rangeId) then
    table ++ [row]
  else table

def burn (manager : HoldoutManager) (range : HoldoutRange) : HoldoutManager :=
  { manager with burnedRanges := range :: manager.burnedRanges }

end HoldoutManager

/-! ### The runs of the pipeline -/

inductive HoldoutPhase
  | checked
  | opened
  | burned
deriving DecidableEq

/-- A call of `run_research_pipeline` that has passed `refuse_if_burned`. -/
structure ResearchRun where
  runId : String
  manager : Nat
  candles : List Candle
  split : HoldoutSplit
  known : List HoldoutRange
  phase : HoldoutPhase

def ResearchRun.range (run : ResearchRun) : HoldoutRange := run.split.holdoutRange

/-- The managers, each in its process, the table that they share, the runs in flight, and every
    run that has opened its holdout. -/
structure ResearchLab where
  managers : Dict Nat HoldoutManager := []
  table : List HoldoutBurnedRow := []
  runs : Dict String ResearchRun := []
  opened : List ResearchRun := []

inductive ResearchStep
  | start (manager : Nat) (runId : String) (candles : List Candle)
  | openHoldout (runId : String)
  | burn (runId : String) (now : Int) (accepts : Bool)
  | finish (runId : String)

namespace ResearchLab

variable (lab : ResearchLab)

def manager (id : Nat) : HoldoutManager :=
  (lab.managers.get? id).getD {}

/-- The run that a call becomes: `none` if it raises before its candidates are enumerated. -/
def admitted (manager : Nat) (runId : String) (candles : List Candle) : Option ResearchRun := do
  let ordered := sortedCandles candles
  guard (10 ≤ ordered.length)
  let split ← separateHoldout hash ordered
  let known := (lab.manager manager).burnedRanges
  guard (isBurned known split.holdoutRange = false)
  some { runId, manager, candles := ordered, split, known, phase := .checked }

def openHoldout (run : ResearchRun) : ResearchLab :=
  match (lab.manager run.manager).openOnce run.runId with
  | none => { lab with runs := lab.runs.erase run.runId }
  | some manager => { lab with
      managers := lab.managers.put run.manager manager
      runs := lab.runs.put run.runId { run with phase := .opened }
      opened := run :: lab.opened }

def burnHoldout (run : ResearchRun) (now : Int) (accepts : Bool) : ResearchLab :=
  { lab with
    managers := lab.managers.put run.manager ((lab.manager run.manager).burn run.range)
    table := HoldoutManager.insertBurned lab.table
      (HoldoutManager.burnedRow run.range run.runId now) accepts
    runs := lab.runs.put run.runId { run with phase := .burned } }

def step : ResearchStep → ResearchLab
  | .start manager runId candles =>
    match lab.admitted hash manager runId candles with
    | none => lab
    | some run => { lab with runs := lab.runs.put runId run }
  | .openHoldout runId =>
    match (lab.runs.get? runId).filter (·.phase = .checked) with
    | none => lab
    | some run => lab.openHoldout run
  | .burn runId now accepts =>
    match (lab.runs.get? runId).filter (·.phase = .opened) with
    | none => lab
    | some run => lab.burnHoldout run now accepts
  | .finish runId => { lab with runs := lab.runs.erase runId }

end ResearchLab

end TradingLab
