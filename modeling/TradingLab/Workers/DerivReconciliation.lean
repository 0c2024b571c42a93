import TradingLab.Workers.DerivOrders

/-!
# Deriv status queries

`DerivLiveReconciliationHandler.query_order_status`: look for the contract of an order by its id,
among the open contracts, in the statement and in the profit table.
-/
namespace TradingLab

open Machine (Logged Program)
open Machine.Logged

structure OrderStatusQueryFields where
  correlationId : String
  intentId : String
  orderId : String
  clientOrderRef : String
  broker : Broker
  accountId : String
  product : String
  symbol : String
  direction : Direction
  amount : Money
  brokerOrderId : Option String := none
  submittedAt : Option Instant := none
deriving DecidableEq

def OrderStatusQueryFields.postInit (q : OrderStatusQueryFields) : Except String Unit := do
  requireNonBlank [("correlation_id", q.correlationId), ("intent_id", q.intentId),
    ("order_id", q.orderId), ("client_order_ref", q.clientOrderRef), ("account_id", q.accountId),
    ("product", q.product), ("symbol", q.symbol)]
  check (∀ id ∈ q.brokerOrderId, isBlank id = false) "broker_order_id cannot be blank"
  check (0 < q.amount.minorUnits) "order amount must be positive"

structure OrderStatusQuery extends OrderStatusQueryFields where
  valid : toOrderStatusQueryFields.postInit = .ok ()
deriving DecidableEq

inductive StatusQueryOutcome
  | found
  | notFound
  | unavailable
  | timeout
  | invalidResponse
deriving DecidableEq, Repr

structure OrderStatusResult where
  outcome : StatusQueryOutcome
  evidence : Option ReconciliationEvidence := none
  responseMessageId : String
  correlationId : String
  causationId : String
  reasonCode : Option String := none
  notFoundEvidence : Option NotFoundEvidence := none

/-- What a status query draws from its surroundings: the clock, fresh identifiers, and the
    hash of a contract as the broker sent it. -/
structure StatusQueryContext where
  now : Instant
  messageId : String
  causationId : String
  evidenceId : String
  rawReferenceHash : Fields → String

/-- `text.lower()`: the Kelvin sign is the one character beyond ASCII with an ASCII form. -/
def lowerText (text : String) : String :=
  String.ofList (text.toList.map fun c => if c = Char.ofNat 0x212a then 'k' else c.toLower)

/-- `text.strip()`. -/
def stripText (text : String) : String :=
  String.ofList (stripChars text.toList)

/-- `int(instant.timestamp())`, which cuts off the fraction. -/
def epochSeconds (instant : Instant) : Int :=
  instant.tdiv 1000000

namespace DerivReconciliationHandler

def plain (ctx : StatusQueryContext) (query : OrderStatusQuery) (outcome : StatusQueryOutcome)
    (reasonCode : String) : OrderStatusResult where
  outcome := outcome
  responseMessageId := ctx.messageId
  correlationId := query.correlationId
  causationId := ctx.causationId
  reasonCode := some reasonCode

/-! ### `_build_evidence_from_contract` -/

/-- `int(str(value)) == 1`; a value that is not a number raises. -/
def flag (value : Json) : Except DerivException Bool :=
  match value.asInt with
  | some n => .ok (n == 1)
  | none => .error .valueError

/-- `Decimal(str(value))`; a value that is not a number raises. -/
def number (value : Json) : Except DerivException Decimal :=
  match value.asDecimal with
  | some d => .ok d
  | none => .error .arithmeticError

/-- `int((value * Decimal(100)).quantize(Decimal("1")))`. -/
def minorUnits (value : Decimal) : Except DerivException Int :=
  match value, moneyToMinorUnits value with
  | .nan, _ => .error .valueError
  | _, some n => .ok n
  | _, none => .error .arithmeticError

def realizedPnl (query : OrderStatusQuery) (contract : Fields) : Except DerivException Int := do
  let profit := Fields.get contract "profit"
  if profit.isNull = false then
    minorUnits (← number profit)
  else
    let payout ← number (Fields.getD contract "payout" (.int 0))
    let price ← number
      (Fields.getD contract "buy_price" (.decimal (stakeOf query.amount.minorUnits)))
    match Decimal.sub decimalPrecision payout price with
    | some difference => minorUnits difference
    | none => .error .arithmeticError

def expectedContractType (query : OrderStatusQuery) : String :=
  let product := upperText query.product
  if digitProducts.contains product then product else query.direction.value

def mismatch (value : Json) (shown : String → String) (expected : String) : Bool :=
  !value.isNull && shown value.text != expected

def priceProblem (query : OrderStatusQuery) (price : Json) :
    Option (StatusQueryOutcome × String) :=
  if price.isNull then none
  else match price.asDecimal with
  | none => some (.invalidResponse, "DERIV_RECONCILIATION_AMOUNT_INVALID")
  | some actual =>
    if actual.numEq (stakeOf query.amount.minorUnits) then none
    else some (.unavailable, "DERIV_RECONCILIATION_AMOUNT_MISMATCH")

def contractProblem (query : OrderStatusQuery) (contract : Fields) :
    Option (StatusQueryOutcome × String) :=
  if mismatch (Fields.get contract "underlying") id query.symbol then
    some (.unavailable, "DERIV_RECONCILIATION_SYMBOL_MISMATCH")
  else if mismatch (Fields.get contract "contract_type") upperText
      (expectedContractType query) then
    some (.unavailable, "DERIV_RECONCILIATION_DIRECTION_MISMATCH")
  else if mismatch (Fields.get contract "currency") upperText query.amount.currency then
    some (.unavailable, "DERIV_RECONCILIATION_CURRENCY_MISMATCH")
  else priceProblem query (Fields.get contract "buy_price")

def evidenceFields (ctx : StatusQueryContext) (query : OrderStatusQuery) (contract : Fields)
    (status : ExternalOrderStatus) (pnl : Option Int) : ReconciliationEvidenceFields where
  evidenceId := ctx.evidenceId
  source := .statusQuery
  observedAt := ctx.now
  clientOrderRef := query.clientOrderRef
  brokerOrderId := some (Fields.get contract "contract_id").text
  externalStatus := status
  broker := .deriv
  accountId := query.accountId
  product := query.product
  symbol := query.symbol
  direction := query.direction
  amount := query.amount
  evidenceVersion := 1
  realizedPnlMinor := pnl
  rawReferenceHash := some (ctx.rawReferenceHash contract)

def foundResult (ctx : StatusQueryContext) (query : OrderStatusQuery)
    (fields : ReconciliationEvidenceFields) : Except DerivException OrderStatusResult :=
  if valid : fields.postInit = .ok () then
    .ok
      { outcome := .found
        evidence := some ⟨fields, valid⟩
        responseMessageId := ctx.messageId
        correlationId := query.correlationId
        causationId := ctx.causationId }
  else .error .valueError

def buildEvidenceFromContract (ctx : StatusQueryContext) (query : OrderStatusQuery)
    (contract : Fields) : Except DerivException OrderStatusResult := do
  let status := lowerText (Fields.getD contract "status" (.str "open")).text
  let isSold ← flag (Fields.getD contract "is_sold" (.int 0))
  let isExpired ← flag (Fields.getD contract "is_expired" (.int 0))
  let isSettled := isExpired || isSold || ["won", "lost", "sold"].contains status
  match contractProblem query contract with
  | some (outcome, reasonCode) => .ok (plain ctx query outcome reasonCode)
  | none =>
    if isSettled then
      let pnl ← realizedPnl query contract
      foundResult ctx query (evidenceFields ctx query contract .settled (some pnl))
    else foundResult ctx query (evidenceFields ctx query contract .opened none)

/-! ### Looking for the contract -/

def openContractRequest (contractId : Int) : DerivRequest :=
  ⟨.proposalOpenContract,
    [("proposal_open_contract", .int 1), ("contract_id", .int contractId)]⟩

def openContract (response : Fields) : Option Fields :=
  match (Fields.get response "proposal_open_contract").asObject with
  | some poc => if (Fields.get poc "contract_id").isNull then none else some poc
  | none => none

def readContractReply (ctx : StatusQueryContext) (query : OrderStatusQuery) :
    Except DerivTransportError Fields → DerivProgram OrderStatusResult
  | .error _ => pure (plain ctx query .unavailable "DERIV_STATUS_QUERY_UNAVAILABLE")
  | .ok response =>
    match openContract response with
    | none => pure (plain ctx query .notFound "DERIV_CONTRACT_NOT_FOUND")
    | some poc =>
      match buildEvidenceFromContract ctx query poc with
      | .ok result => pure result
      | .error .valueError => pure (plain ctx query .unavailable "DERIV_STATUS_QUERY_UNAVAILABLE")
      | .error exception => Program.raise exception

variable (transport : DerivTransport) (ctx : StatusQueryContext)

def queryContractId (query : OrderStatusQuery) (contractId : String) :
    DerivProgram OrderStatusResult :=
  match intOfText contractId with
  | none => pure (plain ctx query .unavailable "DERIV_STATUS_QUERY_UNAVAILABLE")
  | some number => do
    let exchange ← ask transport (openContractRequest number)
    readContractReply ctx query exchange.reply

structure Search where
  contractData : Option Fields := none
  queryFailed : Bool := false
  portfolioChecked : Bool := false
  statementChecked : Bool := false

/-- A stage returns from the whole query, or goes on. -/
inductive Stage
  | return (result : OrderStatusResult)
  | continue (search : Search)

/-- The next stage, where the query has not returned and the contract is still unknown. -/
def Stage.next (stage : Stage) (next : Search → DerivProgram Stage) : DerivProgram Stage :=
  match stage with
  | .return result => pure (.return result)
  | .continue search => if search.contractData.isSome then pure (.continue search) else next search

/-- The lookups by contract id; an empty id is not looked up. -/
def pollContract (contractId : Option String) (search : Search) : DerivProgram Stage :=
  match contractId.filter (· != "") with
  | none => pure (.continue search)
  | some text =>
    match intOfText text with
    | none => pure (.continue { search with queryFailed := true })
    | some number => do
      let exchange ← ask transport (openContractRequest number)
      match exchange.reply with
      | .error _ => pure (.continue { search with queryFailed := true })
      | .ok response => pure (.continue { search with contractData := openContract response })

/-- `passthrough.order_id == query.order_id`, where there is such a thing. -/
def passesThrough (query : OrderStatusQuery) (record : Fields) : Bool :=
  match (Fields.get record "passthrough").asObject with
  | some passthrough => (Fields.get passthrough "order_id").equalsText query.orderId
  | none => false

/-- The list `name` inside the object `table` of an answer. -/
def recordList (response : Fields) (table name : String) : Option (List Json) :=
  match (Fields.get response table).asObject with
  | some entries => (Fields.get entries name).asList
  | none => none

def knownContractIds (query : OrderStatusQuery) (tracked : Option TrackedDerivOrder) :
    List String :=
  (query.brokerOrderId.toList ++ (tracked.map (·.contractId)).toList).filter (· != "")

/-- The contract id of the first record that `matches`; items that are not objects are
    passed over. -/
def firstHit (isHit : Fields → Bool) (items : List Json) : Option String :=
  items.findSome? fun item =>
    match item.asObject with
    | some record => if isHit record then some (Fields.get record "contract_id").text else none
    | none => none

def portfolioHit (query : OrderStatusQuery) (known : List String) (record : Fields) : Bool :=
  let contractId := Fields.get record "contract_id"
  !contractId.isNull && (known.contains contractId.text || passesThrough query record)

def statementHit (query : OrderStatusQuery) (record : Fields) : Bool :=
  passesThrough query record && (Fields.get record "contract_id").truthy

def profitHit (query : OrderStatusQuery) (record : Fields) : Bool :=
  passesThrough query record && !(Fields.get record "contract_id").isNull

def followUp (query : OrderStatusQuery) (hit : Option String) (otherwise : Search) :
    DerivProgram Stage :=
  match hit with
  | some contractId => do
    let result ← queryContractId transport ctx query contractId
    pure (.return result)
  | none => pure (.continue otherwise)

def portfolioRequest : DerivRequest := ⟨.portfolio, [("portfolio", .int 1)]⟩

def checkPortfolio (query : OrderStatusQuery) (search : Search) : DerivProgram Stage := do
  let session ← read
  let exchange ← ask transport portfolioRequest
  match exchange.reply with
  | .error _ => pure (.continue { search with queryFailed := true })
  | .ok response =>
    match recordList response "portfolio" "contracts" with
    | none => pure (.continue { search with queryFailed := true })
    | some contracts =>
      let known := knownContractIds query (findEntry session.trackedByOrderId query.orderId)
      followUp transport ctx query (firstHit (portfolioHit query known) contracts)
        { search with portfolioChecked := true }

def dateFrom (query : OrderStatusQuery) : Fields :=
  match query.submittedAt with
  | some submittedAt => [("date_from", .int (epochSeconds submittedAt))]
  | none => []

def statementLimit : Nat := 999

def statementRequest (query : OrderStatusQuery) : DerivRequest :=
  ⟨.statement, [("statement", .int 1), ("description", .int 1), ("limit", .int statementLimit),
    ("action_type", .str "buy")] ++ dateFrom query⟩

def checkStatement (query : OrderStatusQuery) (search : Search) : DerivProgram Stage := do
  let exchange ← ask transport (statementRequest query)
  match exchange.reply with
  | .error _ => pure (.continue { search with queryFailed := true })
  | .ok response =>
    match recordList response "statement" "transactions" with
    | none => pure (.continue { search with queryFailed := true })
    | some transactions =>
      followUp transport ctx query (firstHit (statementHit query) transactions)
        { search with statementChecked := true }

def profitTableLimit : Nat := 500

def profitTableRequest (query : OrderStatusQuery) : DerivRequest :=
  ⟨.profitTable, [("profit_table", .int 1), ("description", .int 1),
    ("limit", .int profitTableLimit)] ++ dateFrom query⟩

def profitRecordMatches (query : OrderStatusQuery) (submittedEpoch : Int) (record : Fields) :
    Bool :=
  let contractId := Fields.get record "contract_id"
  let purchaseTime := Fields.get record "purchase_time"
  let durationType := Fields.get record "duration_type"
  match purchaseTime, purchaseTime.asInt, (Fields.get record "buy_price").asDecimal with
  | .bool _, _, _ => false
  | _, some observedEpoch, some buyPrice =>
    !contractId.isNull &&
    decide (submittedEpoch ≤ observedEpoch ∧ observedEpoch ≤ submittedEpoch + 15) &&
    buyPrice.numEq (stakeOf query.amount.minorUnits) &&
    normalize (Fields.getD record "contract_type" (.str "")).text == normalize query.product &&
    stripText (Fields.getD record "underlying_symbol" (.str "")).text == query.symbol &&
    (durationType.isNull || lowerText (stripText durationType.text) == "ticks")
  | _, _, _ => false

/-- The ids of the records that may be the buy, in order and without repetition. -/
def matchProfitTableContracts (query : OrderStatusQuery) (transactions : List Json) :
    List String :=
  match query.brokerOrderId, query.submittedAt with
  | none, some submittedAt =>
    let ids := transactions.filterMap fun item =>
      match item.asObject with
      | some record =>
        if profitRecordMatches query (epochSeconds submittedAt) record then
          some (Fields.get record "contract_id").text
        else none
      | none => none
    ids.dedup.insertionSort (· ≤ ·)
  | _, _ => []

def absence (query : OrderStatusQuery) (search : Search) : OrderStatusResult :=
  if search.statementChecked && search.portfolioChecked && !search.queryFailed then
    { outcome := .notFound
      responseMessageId := ctx.messageId
      correlationId := query.correlationId
      causationId := ctx.causationId
      reasonCode := some "DERIV_CONTRACT_NOT_FOUND"
      notFoundEvidence := some ⟨ctx.now, true, true⟩ }
  else plain ctx query .unavailable "DERIV_STATUS_QUERY_UNAVAILABLE"

def matchProfitTable (query : OrderStatusQuery) (transactions : List Json) (search : Search) :
    DerivProgram Stage :=
  match matchProfitTableContracts query transactions with
  | [] => pure (.continue search)
  | [contractId] => followUp transport ctx query (some contractId) search
  | _ => pure (.return
      (plain ctx query .invalidResponse "DERIV_RECONCILIATION_AMBIGUOUS_MATCH"))

def checkProfitTable (query : OrderStatusQuery) (search : Search) : DerivProgram Stage := do
  let exchange ← ask transport (profitTableRequest query)
  match exchange.reply with
  | .error _ => pure (.continue { search with queryFailed := true })
  | .ok response =>
    match recordList response "profit_table" "transactions" with
    | none => pure (.continue search)
    | some transactions =>
      match firstHit (profitHit query) transactions with
      | some contractId => followUp transport ctx query (some contractId) search
      | none => matchProfitTable transport ctx query transactions search

def lookUp (query : OrderStatusQuery) : DerivProgram Stage := do
  let session ← read
  let tracked := findEntry session.trackedByOrderId query.orderId
  let stage ← pollContract transport query.brokerOrderId {}
  let stage ← stage.next (pollContract transport (tracked.map (·.contractId)))
  let stage ← stage.next (checkPortfolio transport ctx query)
  let stage ← stage.next (checkStatement transport ctx query)
  stage.next (checkProfitTable transport ctx query)

def conclude (query : OrderStatusQuery) :
    Stage → DerivProgram OrderStatusResult
  | .return result => pure result
  | .continue search =>
    match search.contractData with
    | some contract => Program.lift (buildEvidenceFromContract ctx query contract)
    | none => pure (absence ctx query search)

def queryOrderStatus (query : OrderStatusQuery) (timeout : Option ℚ) :
    DerivProgram OrderStatusResult := do
  let session ← read
  if ∃ seconds ∈ timeout, seconds ≤ 0 then Program.raise .valueError
  else if session.demoAuthenticated = false then
    pure (plain ctx query .unavailable "DERIV_REAL_ACCOUNT_FORBIDDEN")
  else if query.broker ≠ .deriv then
    pure (plain ctx query .unavailable "DERIV_INVALID_BROKER")
  else
    let stage ← lookUp transport ctx query
    conclude ctx query stage

end DerivReconciliationHandler

end TradingLab
