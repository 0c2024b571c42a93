import TradingLab.Research.Replay

/-!
# The replay does not look ahead

A trade of the replay is decided on the candles up to its own and settled with the next one.
-/
namespace TradingLab.Research

/-- The trades at the first candles; each candle makes three updates. -/
def TradeLog.within (log : TradeLog) (k : Nat) : List Trade :=
  log.trades.filter (·.updateCountAtSignal ≤ 3 * k)

variable {indicators : Indicators} {asset : String} {payouts : PayoutLookup} {turn : Turn}
  {ordered : List Candle}

theorem Turn.trade_eq_some {trade : Trade} :
    turn.trade indicators asset payouts = some trade ↔
      ∃ direction payout, indicators.direction turn.fed = some direction ∧
        payouts asset turn.candle.ts = some payout ∧
        tradeAt asset turn.fed turn.candle turn.next direction payout = trade := by
  simp [Turn.trade, Option.bind_eq_some_iff]

theorem turns_take (fed ordered : List Candle) (k : Nat) :
    turns fed (ordered.take (k + 1)) = (turns fed ordered).take k := by
  induction k generalizing fed ordered with
  | zero => cases ordered <;> rfl
  | succ k ih =>
    match ordered with
    | [] => rfl
    | [candle] => rfl
    | candle :: next :: rest =>
      have later := ih (fed ++ [candle]) (next :: rest)
      rw [List.take_succ_cons] at later
      rw [List.take_succ_cons, List.take_succ_cons, turns, later, turns, List.take_succ_cons]

theorem lt_length_fed {fed : List Candle} (member : turn ∈ turns fed ordered) :
    fed.length < turn.fed.length := by
  obtain ⟨i, here, -, same⟩ := mem_turns.mp member
  have inside := (List.getElem?_eq_some_iff.mp here).1
  rw [same, List.length_append, List.length_take]
  omega

theorem within_turns (indicators : Indicators) (asset : String) (payouts : PayoutLookup)
    (fed ordered : List Candle) (k : Nat) :
    ((turns fed ordered).filterMap (Turn.trade indicators asset payouts)).filter
        (·.updateCountAtSignal ≤ 3 * (fed.length + k)) =
      ((turns fed ordered).take k).filterMap (Turn.trade indicators asset payouts) := by
  induction k generalizing fed ordered with
  | zero =>
    rw [List.take_zero, List.filterMap_nil, List.filter_eq_nil_iff]
    intro trade member counted
    obtain ⟨turn, inside, traded⟩ := List.mem_filterMap.mp member
    obtain ⟨direction, payout, -, -, rfl⟩ := Turn.trade_eq_some.mp traded
    have early : 3 * turn.fed.length ≤ 3 * (fed.length + 0) := of_decide_eq_true counted
    have later := lt_length_fed inside
    omega
  | succ k ih =>
    match ordered with
    | [] => rfl
    | [candle] => rfl
    | candle :: next :: rest =>
      have later := ih (fed ++ [candle]) (next :: rest)
      rw [List.length_append, List.length_singleton, Nat.add_assoc, Nat.add_comm 1] at later
      rw [turns, List.take_succ_cons, List.filterMap_cons, List.filterMap_cons]
      cases traded : Turn.trade indicators asset payouts ⟨fed ++ [candle], candle, next⟩ with
      | none => exact later
      | some trade =>
        obtain ⟨direction, payout, -, -, rfl⟩ := Turn.trade_eq_some.mp traded
        have early : 3 * (fed ++ [candle]).length ≤ 3 * (fed.length + (k + 1)) := by
          rw [List.length_append, List.length_singleton]
          omega
        rw [List.filter_cons_of_pos, later]
        exact decide_eq_true early

theorem mem_turns_at {i : Nat} {candle : Candle}
    (here : ordered[i]? = some candle) (inside : i + 1 < ordered.length) :
    turn ∈ turns [] ordered ∧ turn.fed.length = i + 1 ↔
      turn = ⟨ordered.take (i + 1), candle, ordered[i + 1]⟩ := by
  rw [mem_turns]
  constructor
  · rintro ⟨⟨j, now, after, fed⟩, count⟩
    have bound := (List.getElem?_eq_some_iff.mp after).1
    rw [fed, List.nil_append, List.length_take, Nat.min_eq_left (by omega)] at count
    obtain rfl : j = i := by omega
    rw [List.getElem?_eq_getElem inside] at after
    obtain ⟨_, _, _⟩ := turn
    cases Option.some.inj (here.symm.trans now)
    cases Option.some.inj after
    cases fed
    rfl
  · rintro rfl
    refine ⟨⟨i, here, List.getElem?_eq_getElem inside, rfl⟩, ?_⟩
    rw [List.length_take]
    omega

/-- The trades at the first candles agree if these and the next one do, and the direction at a
    candle is a function of the candles up to it. -/
theorem replay_sees_no_future (registry : Registry) (candidate : Candidate)
    (payouts : PayoutLookup) :
    (∀ k candles candles',
      (sortedCandles candles).take (k + 1) = (sortedCandles candles').take (k + 1) →
      (replayCandidate registry candidate candles payouts).map (·.within k) =
        (replayCandidate registry candidate candles' payouts).map (·.within k)) ∧
    ∃ decision : List Candle → Option Direction, ∀ candles log,
      replayCandidate registry candidate candles payouts = some log →
      ∀ i candle, (sortedCandles candles)[i]? = some candle →
        i + 1 < (sortedCandles candles).length → ∀ direction,
        (∃ trade ∈ log.trades, trade.updateCountAtSignal = 3 * (i + 1) ∧
          trade.direction = direction) ↔
        decision ((sortedCandles candles).take (i + 1)) = some direction ∧
          (payouts candidate.asset candle.ts).isSome := by
  cases made : makeIndicators registry candidate with
  | none => simp [replayCandidate, made]
  | some indicators =>
    simp only [replayCandidate, made, Option.bind_eq_bind, Option.bind_some, Option.map_some,
      Option.some.injEq]
    refine ⟨fun k candles candles' agree => ?_, indicators.direction, ?_⟩
    · have first := within_turns indicators candidate.asset payouts []
      simp only [List.length_nil, Nat.zero_add] at first
      simp only [TradeLog.within, replayLoop_trades, first]
      rw [← turns_take, agree, turns_take]
    · rintro candles _ rfl i candle here inside direction
      rw [replayLoop_trades]
      constructor
      · rintro ⟨trade, member, count, rfl⟩
        obtain ⟨turn, turning, traded⟩ := List.mem_filterMap.mp member
        obtain ⟨direction, payout, decided, paid, rfl⟩ := Turn.trade_eq_some.mp traded
        obtain rfl := (mem_turns_at here inside).mp
          ⟨turning, Nat.eq_of_mul_eq_mul_left (by decide) count⟩
        exact ⟨decided, Option.isSome_of_eq_some paid⟩
      · rintro ⟨decided, paid⟩
        obtain ⟨payout, paid⟩ := Option.isSome_iff_exists.mp paid
        obtain ⟨turning, count⟩ := (mem_turns_at here inside).mpr rfl
        refine ⟨_, List.mem_filterMap.mpr ⟨_, turning, Turn.trade_eq_some.mpr
          ⟨direction, payout, decided, paid, rfl⟩⟩, ?_, rfl⟩
        exact congrArg (3 * ·) count

end TradingLab.Research
