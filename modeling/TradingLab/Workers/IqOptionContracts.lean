import TradingLab.Workers.IqOptionOrders

/-!
# Contracts of the IQ Option worker

A contract payload is read twice: `process_raw_contract_message` makes an event of it, and
`_build_evidence_from_contract` the evidence of a status query. The ids, times and hashes that the
two put around the report are left out.
-/
namespace TradingLab

/-- `text.lower()`, as far as the words below can tell: no other character becomes one of their
    letters. -/
def lowerWord (text : String) : List Char :=
  text.toList.map Char.toLower

/-- The branches on the status and on the outcome. -/
def contractStatus (status win : List Char) : Option ExternalOrderStatus :=
  if status = "open".toList ∨ win = "equal".toList then some .opened
  else if (status = "win".toList ∨ status = "loose".toList) ∨
      (win = "win".toList ∨ win = "loose".toList) then some .settled
  else none

/-- `int(number)`, which drops the places behind the point. -/
def truncated : Decimal → Option Int
  | .finite negative coefficient exponent =>
    some (Decimal.signed negative (if 0 ≤ exponent then coefficient * 10 ^ exponent.toNat
      else coefficient / 10 ^ (-exponent).toNat))
  | _ => none

/-- `int((Decimal(text) - stake) * Decimal(100))`. -/
def pnlMinor (stakeMinor : Int) (amount : Json) : Option Int := do
  let won ← amount.asDecimal
  let pnl ← Decimal.sub decimalPrecision won (stakeOf stakeMinor)
  let cents ← Decimal.mul decimalPrecision pnl (Decimal.ofInt 100)
  truncated cents

/-- What an event or an evidence says of a contract. -/
structure ContractReport where
  externalStatus : ExternalOrderStatus
  resultMinor : Option Int
deriving DecidableEq, Repr

/-- The report for a status; `none` where the amount is not a number. -/
def contractReport (stakeMinor : Int) (amount : Json) : ExternalOrderStatus → Option ContractReport
  | .settled => (pnlMinor stakeMinor amount).map fun minor => ⟨.settled, some minor⟩
  | status => some ⟨status, none⟩

def winText (msg : Fields) : List Char :=
  lowerWord (Fields.getD msg "win" (.str "")).text

namespace IqOptionOrderSession

def contractId (msg : Fields) : String :=
  (Fields.getD msg "id" (Fields.getD msg "option_id"
    (Fields.getD msg "contract_id" (.str "")))).text

def trackedFor (session : IqOptionOrderSession) (msg : Fields) : Option TrackedIqOptionOrder :=
  (findEntry session.tracked (contractId msg)).or
    (findEntry session.trackedByRef (Fields.getD msg "client_order_id" (.str "")).text)

def eventStatus (msg : Fields) : Option ExternalOrderStatus :=
  contractStatus (lowerWord (Fields.getD msg "status" (.str "")).text) (winText msg)

def eventAmount (msg : Fields) : Json :=
  Fields.getD msg "win_amount" (Fields.getD msg "profit_amount" (.str "0.00"))

/-- The report of the event it emits; an error is an amount that is not a number. -/
def processRawContractMessage (session : IqOptionOrderSession) (msg : Fields) :
    Except String (Option ContractReport) :=
  match session.trackedFor msg, eventStatus msg with
  | some tracked, some status =>
    match contractReport tracked.amount.minorUnits (eventAmount msg) status with
    | some report => .ok (some report)
    | none => .error "InvalidOperation"
  | _, _ => .ok none

end IqOptionOrderSession

/-! ### The status query -/

/-- What the evidence takes from the query. -/
structure IqOptionStatusQuery where
  symbol : String
  direction : Direction
  amount : Money

def TrackedIqOptionOrder.query (order : TrackedIqOptionOrder) : IqOptionStatusQuery :=
  ⟨order.symbol, order.direction, order.amount⟩

namespace IqOptionStatusQuery

def mismatch (query : IqOptionStatusQuery) (contract : Fields) : Option String :=
  let symbol := (Fields.getD contract "active" (Fields.getD contract "symbol" (.str ""))).text
  let direction := upperText (Fields.getD contract "direction" (.str "")).text
  let currency := upperText (Fields.getD contract "currency" (.str "")).text
  if symbol ≠ "" ∧ symbol ≠ query.symbol then some "IQOPTION_SYMBOL_MISMATCH"
  else if direction ≠ "" ∧ direction ≠ query.direction.value then
    some "IQOPTION_DIRECTION_MISMATCH"
  else if currency ≠ "" ∧ currency ≠ query.amount.currency then some "IQOPTION_CURRENCY_MISMATCH"
  else none

def evidenceStatus (contract : Fields) : Option ExternalOrderStatus :=
  contractStatus
    (lowerWord (Fields.getD contract "status" (Fields.getD contract "result" (.str ""))).text)
    (winText contract)

def evidenceAmount (contract : Fields) : Json :=
  Fields.getD contract "profit_amount" (Fields.getD contract "win_amount" (.str "0.00"))

/-- `_build_evidence_from_contract`: the report of the evidence of a FOUND answer, or the reason why
    the answer is UNAVAILABLE; an amount that is not a number raises. -/
def buildEvidence (query : IqOptionStatusQuery) (contract : Fields) :
    Except String (String ⊕ ContractReport) :=
  match query.mismatch contract, evidenceStatus contract with
  | some reason, _ => .ok (.inl reason)
  | none, none => .ok (.inl "IQOPTION_UNKNOWN_CONTRACT_STATUS")
  | none, some status =>
    match contractReport query.amount.minorUnits (evidenceAmount contract) status with
    | some report => .ok (.inr report)
    | none => .error "InvalidOperation"

end IqOptionStatusQuery

end TradingLab
