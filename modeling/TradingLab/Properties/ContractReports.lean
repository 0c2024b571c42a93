import TradingLab.Workers.IqOptionContracts

/-!
# Events and status queries of IQ Option

The two readings of a contract differ in three places. Only the query falls back on `result` where
`status` is missing; the event prefers `win_amount` and the query `profit_amount`; and both cut the
P&L off at the cent.
-/
namespace TradingLab

open IqOptionOrderSession IqOptionStatusQuery

/-- The P&L is the amount returned minus the stake, to the nearest cent. -/
def NearestCent (stakeMinor : Int) (amount : Json) (minor : Int) : Prop :=
  ∃ won, amount.asDecimal = some won ∧ |(minor : ℚ) - (100 * won.value - stakeMinor)| ≤ 1 / 2

/-- The two reports agree, and the Core that has settled the order by the evidence meets no
    settlement conflict at the event. -/
structure ReportsAgree (order : TrackedIqOptionOrder) (msg : Fields)
    (event evidence : ContractReport) : Prop where
  status : event.externalStatus = evidence.externalStatus
  pnl : event.resultMinor = evidence.resultMinor
  nearest : ∀ minor, event.resultMinor = some minor →
    NearestCent order.amount.minorUnits (eventAmount msg) minor
  quiet : ∀ (row : OrderRow) (sent : BrokerOrderEvent) (target : OrderState),
    row.realizedPnlMinor = evidence.resultMinor → sent.resultMinor = event.resultMinor →
    terminalBrokerEventResult row sent target ≠
      some ⟨.conflict, some row.state, some "BROKER_EVENT_SETTLEMENT_CONFLICT"⟩

/-- A payload without `status` has a `result` that says what `win` says alone; where the contract is
    settled, two amount fields give one P&L, and cutting it off at the cent rounds it. -/
structure ReadsAlike (order : TrackedIqOptionOrder) (msg : Fields) : Prop where
  status : Fields.lookup msg "status" = none →
    contractStatus [] (winText msg) =
      contractStatus (lowerWord (Fields.getD msg "result" (.str "")).text) (winText msg)
  amounts : eventStatus msg = some .settled → ∀ won profit,
    Fields.lookup msg "win_amount" = some won → Fields.lookup msg "profit_amount" = some profit →
    pnlMinor order.amount.minorUnits won = pnlMinor order.amount.minorUnits profit
  cents : eventStatus msg = some .settled → ∀ minor,
    pnlMinor order.amount.minorUnits (eventAmount msg) = some minor →
    NearestCent order.amount.minorUnits (eventAmount msg) minor

section Readings

variable {order : TrackedIqOptionOrder} {msg : Fields} {read : ExternalOrderStatus}
  {stakeMinor : Int}

theorem contractStatus_cases {status win : List Char}
    (decoded : contractStatus status win = some read) : read = .opened ∨ read = .settled := by
  unfold contractStatus at decoded
  split at decoded
  · exact .inl (Option.some.inj decoded).symm
  · split at decoded
    · exact .inr (Option.some.inj decoded).symm
    · cases decoded

theorem contractReport_eq {amount : Json}
    {report : ContractReport} (made : contractReport stakeMinor amount read = some report)
    (usual : read = .opened ∨ read = .settled) :
    report.externalStatus = read ∧
      report.resultMinor = if read = .settled then pnlMinor stakeMinor amount else none := by
  rcases usual with rfl | rfl
  · cases made
    exact ⟨rfl, rfl⟩
  · obtain ⟨minor, computed, rfl⟩ := Option.map_eq_some_iff.mp made
    exact ⟨rfl, by rw [if_pos rfl, computed]⟩

theorem event_report {session : IqOptionOrderSession} {event : ContractReport}
    (tracked : session.trackedFor msg = some order)
    (emitted : session.processRawContractMessage msg = .ok (some event)) :
    ∃ read, eventStatus msg = some read ∧ event.externalStatus = read ∧
      event.resultMinor =
        if read = .settled then pnlMinor order.amount.minorUnits (eventAmount msg) else none := by
  simp only [processRawContractMessage, tracked] at emitted
  cases decoded : eventStatus msg with
  | none =>
    rw [decoded] at emitted
    cases emitted
  | some read =>
    simp only [decoded] at emitted
    split at emitted
    · rename_i made
      cases emitted
      exact ⟨read, rfl, contractReport_eq made (contractStatus_cases decoded)⟩
    · cases emitted

theorem evidence_report {query : IqOptionStatusQuery} {evidence : ContractReport}
    (found : query.buildEvidence msg = .ok (.inr evidence)) :
    ∃ read, evidenceStatus msg = some read ∧ evidence.externalStatus = read ∧
      evidence.resultMinor =
        if read = .settled then pnlMinor query.amount.minorUnits
          (evidenceAmount msg) else none := by
  unfold buildEvidence at found
  split at found
  · cases found
  · cases found
  · rename_i decoded
    split at found
    · rename_i made
      cases found
      exact ⟨_, decoded, contractReport_eq made (contractStatus_cases decoded)⟩
    · cases found

theorem status_eq_iff : eventStatus msg = evidenceStatus msg ↔
    (Fields.lookup msg "status" = none →
      contractStatus [] (winText msg) =
        contractStatus (lowerWord (Fields.getD msg "result" (.str "")).text) (winText msg)) := by
  unfold eventStatus evidenceStatus
  cases given : Fields.lookup msg "status" with
  | none => simp [Fields.getD, given, lowerWord, Json.text]
  | some value => simp [Fields.getD, given]

theorem amount_eq_iff :
    pnlMinor stakeMinor (eventAmount msg) = pnlMinor stakeMinor (evidenceAmount msg) ↔
      ∀ won profit, Fields.lookup msg "win_amount" = some won →
        Fields.lookup msg "profit_amount" = some profit →
        pnlMinor stakeMinor won = pnlMinor stakeMinor profit := by
  unfold eventAmount evidenceAmount
  cases won : Fields.lookup msg "win_amount" <;>
    cases profit : Fields.lookup msg "profit_amount" <;> simp [Fields.getD, won, profit]

end Readings

namespace SampleContract

def order : TrackedIqOptionOrder where
  orderId := "order-1"
  correlationId := "correlation-1"
  clientOrderRef := "ref-1"
  brokerOrderId := some "77"
  symbol := "EURUSD"
  direction := .call
  amount := ⟨100, "USD", currencyCode_usd⟩
  product := "turbo"
  accountId := "account-1"
  createdAtUtc := 0

def session : IqOptionOrderSession :=
  ⟨[("77", order)], []⟩

def returned : Fields :=
  [("id", .int 77), ("status", .str "win"), ("win_amount", .str "1.80")]

theorem returned_reads_alike : ReadsAlike order returned where
  status := nofun
  amounts := nofun
  cents := by
    intro settled minor computed
    have exact : pnlMinor order.amount.minorUnits (eventAmount returned) = some 80 := by
      decide
    cases exact.symm.trans computed
    have read : (eventAmount returned).asDecimal = some (.finite false 180 (-2)) := by
      decide
    refine ⟨_, read, ?_⟩
    norm_num [Decimal.value, Decimal.signed, order]

def both : Fields :=
  ("profit_amount", .str "0.80") :: returned

end SampleContract

end TradingLab
