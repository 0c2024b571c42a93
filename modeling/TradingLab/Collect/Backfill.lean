import TradingLab.Strategies.Primitives
import Mathlib.Logic.Function.Basic

/-!
# Candle backfill

`backfill_asset` of the collector for one asset: from the last stored minute to the last closed one,
in batches, it stores the candles that the client has and records the minutes that it does not have
as gaps. The two writes of a batch are separate transactions; neither fails here.
-/
namespace TradingLab.Collect

def maxBatch : Int := 1000

structure GapRecord where
  fromTs : Int
  toTs : Int
  detectedAt : Int
  inSession : Bool
  resolved : Bool := false
deriving DecidableEq

def minuteOfDay (ts : Int) : Int := ts % 86400 / 60

def weekdayUtc (ts : Int) : Int := (ts / 86400 + 3) % 7

def inSession (asset : String) (ts : Int) : Bool :=
  let weekday := weekdayUtc ts
  if asset.endsWith "-OTC" then [5, 6].contains weekday
  else if [0, 1, 2, 3].contains weekday then true
  else if weekday = 4 then decide (minuteOfDay ts < 21 * 60)
  else false

/-- `range(start, stop, 60)`. -/
def minutes (start stop : Int) : List Int :=
  (List.range ((stop - start + 59) / 60).toNat).map fun (i : Nat) => start + 60 * i

/-- The loop of `classify_gaps`, with the open gap. -/
def gapLoop (asset : String) (detectedAt : Int) (result : List GapRecord)
    (start previous : Int) (currentFlag : Bool) : List Int → List GapRecord
  | [] => result ++ [⟨start, previous + 60, detectedAt, currentFlag, false⟩]
  | ts :: rest =>
    let flag := inSession asset ts
    if ts = previous + 60 ∧ flag = currentFlag then
      gapLoop asset detectedAt result start ts currentFlag rest
    else
      gapLoop asset detectedAt
        (result ++ [⟨start, previous + 60, detectedAt, currentFlag, false⟩]) ts ts flag rest

def classifyGaps (asset : String) (expected presentTs : List Int) (detectedAt : Int) :
    List GapRecord :=
  match expected.filter fun ts => !presentTs.contains ts with
  | [] => []
  | start :: rest => gapLoop asset detectedAt [] start start (inSession asset start) rest

/-- The rows of the asset: candles with their source, and gaps by `from_ts`. -/
structure Repository where
  candles : List (Candle × String) := []
  gaps : Int → Option GapRecord := fun _ => none

namespace Repository

variable (repository : Repository)

def watermark : Option Int :=
  (repository.candles.map (·.1.ts)).max?

/-- `ON CONFLICT (asset, ts)`: a row of another source stays, unless forced. -/
def upsertCandle (forceSource : Bool) (source : String) (candle : Candle) : Nat × Repository :=
  let conflicting := repository.candles.filter (·.1.ts = candle.ts)
  if conflicting.any fun row => !(forceSource || row.2 == source) then (0, repository)
  else (if conflicting.isEmpty then 1 else 0,
    { repository with
      candles := (candle, source) :: repository.candles.filter (·.1.ts ≠ candle.ts) })

def upsertCandles (forceSource : Bool) (source : String) (candles : List Candle) :
    Nat × Repository :=
  candles.foldl (fun (inserted, repository) candle =>
    let (more, repository) := repository.upsertCandle forceSource source candle
    (inserted + more, repository)) (0, repository)

/-- `ON CONFLICT (asset, from_ts)` overwrites the row. -/
def recordGaps (gaps : List GapRecord) : Repository :=
  { repository with
    gaps := gaps.foldl (fun rows gap => Function.update rows gap.fromTs (some gap))
      repository.gaps }

end Repository

def validateBatch (startTs endTs : Int) (candles : List Candle) : Except String (List Candle) := do
  let invalid := "COL_CANDLE_BATCH_INVALID"
  if maxBatch < candles.length then throw invalid
  let (result, _) ← candles.foldlM (fun (result, seen) item =>
    if item.ts < startTs ∨ endTs ≤ item.ts ∨ item.ts ∈ seen then throw invalid
    else pure (result ++ [item], item.ts :: seen)) (([], []) : List Candle × List Int)
  if (result.zip result.tail).any fun pair => decide (pair.2.ts ≤ pair.1.ts) then throw invalid
  return result

structure BackfillResult where
  fetched : Nat := 0
  written : Nat := 0
  gapsInSession : Nat := 0
  gapsOutSession : Nat := 0
  nextWatermark : Option Int

/-- The arguments of one call, and what the client answers for `n` candles up to a moment. -/
structure BackfillCall where
  nowTs : Int
  initialFromTs : Option Int
  dryRun : Bool
  forceSource : Bool
  source : String
  fetchCandles : (n : Nat) → (endTs : Int) → Except String (List Candle)

def closedCandleExclusive (nowTs : Int) : Int := nowTs / 60 * 60 - 60

namespace BackfillCall

variable (call : BackfillCall) (asset : String)

def endExclusive : Int := closedCandleExclusive call.nowTs

/-- Where the call begins while nothing is stored. -/
def firstTs : Int := call.initialFromTs.getD (max 0 (call.endExclusive - maxBatch * 60))

def write (validated : List Candle) (gaps : List GapRecord) (repository : Repository) :
    Nat × Repository :=
  let (written, stored) := repository.upsertCandles call.forceSource call.source validated
  (written, stored.recordGaps gaps)

def backfillLoop (cursor : Int) (result : BackfillResult) (repository : Repository) :
    Except String BackfillResult × Repository :=
  if _ : cursor < call.endExclusive then
    let batchEnd := min (cursor + maxBatch * 60) call.endExclusive
    let expected := minutes cursor batchEnd
    match call.fetchCandles expected.length batchEnd >>= validateBatch cursor batchEnd with
    | .error error => (.error error, repository)
    | .ok validated =>
      let gaps := classifyGaps asset expected (validated.map (·.ts)) call.nowTs
      let (written, repository) :=
        if call.dryRun then (0, repository) else call.write validated gaps repository
      backfillLoop batchEnd
        { fetched := result.fetched + validated.length
          written := result.written + written
          gapsInSession := result.gapsInSession + gaps.countP (·.inSession)
          gapsOutSession := result.gapsOutSession + gaps.countP (!·.inSession)
          nextWatermark := ((validated.map (·.ts)).max?).or result.nextWatermark }
        repository
  else (.ok result, repository)
termination_by (call.endExclusive - cursor).toNat
decreasing_by
  have : (0 : Int) < maxBatch := by decide
  omega

def backfillAsset (repository : Repository) : Except String BackfillResult × Repository :=
  let startTs := (repository.watermark.map (· + 60)).getD call.firstTs
  if startTs % 60 ≠ 0 ∨ startTs < 0 then (.error "COL_BACKFILL_RANGE_INVALID", repository)
  else call.backfillLoop asset startTs { nextWatermark := repository.watermark } repository

end BackfillCall
end TradingLab.Collect
