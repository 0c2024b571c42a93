import TradingLab.Core.Dispatcher
import TradingLab.Workers.DerivTransport

/-!
# Deriv order submission

`DerivLiveOrderSession.submit_order`: ask for a proposal, buy it, remember the contract and
subscribe to it. The log of the requests is kept beside the session.
-/
namespace TradingLab

structure WorkerSubmissionResult where
  outcome : WorkerOutcome
  brokerOrderId : Option String
  responseMessageId : String
  correlationId : String
  causationId : String
  reasonCode : Option String := none
deriving DecidableEq, Repr

structure TrackedDerivOrder where
  orderId : String
  correlationId : String
  intentId : String
  symbol : String
  direction : Direction
  amount : Money
  contractId : String
  accountId : String
  buyPriceMinor : Int
  buyTimeUtc : Instant
  product : String := "DIGITAL_OPTION"
  predictionDigit : Option Int := none
  sequenceCounter : Nat := 0

def putEntry {α : Type} (entries : List (String × α)) (name : String) (value : α) :
    List (String × α) :=
  if entries.any (fun entry => entry.1 == name) then
    entries.map fun entry => if entry.1 == name then (name, value) else entry
  else entries ++ [(name, value)]

def findEntry {α : Type} (entries : List (String × α)) (name : String) : Option α :=
  (entries.find? fun entry => entry.1 == name).map Prod.snd

structure DerivOrderSession where
  accountId : String
  demoAuthenticated : Bool
  tracked : List (String × TrackedDerivOrder)
  trackedByOrderId : List (String × TrackedDerivOrder)
  subscribedContracts : List String
  contractSubscriptionIds : List (String × String)

/-- What the session's methods let through to their caller. -/
inductive DerivException
  | workerError (error : DerivWorkerError)
  /-- `decimal.InvalidOperation`, or a `ValueError` from `int` of a number that has no value. -/
  | arithmeticError
  | valueError
deriving DecidableEq, Repr

/-- A method of the session at work on its transport. -/
abbrev DerivProgram :=
  Machine.Program DerivException
    (Machine.Logged DerivRequest (Exchange DerivTransportError) DerivOrderSession)

open Machine (Logged Program)

namespace DerivOrderSession

/-- The answer of a session that did not buy; `messageId` is the fresh `uuid4`. -/
def refusal (outcome : WorkerOutcome) (command : OrderCommand) (messageId reasonCode : String) :
    WorkerSubmissionResult where
  outcome := outcome
  brokerOrderId := none
  responseMessageId := messageId
  correlationId := command.correlationId
  causationId := command.messageId
  reasonCode := some reasonCode

def errorCode (response : Fields) (reason : String) : String :=
  match (Fields.get response "error").asObject with
  | some error => (Fields.get error "code").asText.getD reason
  | none => reason

variable (transport : DerivTransport)

/-- `_subscribe_contract`; whatever goes wrong here is ignored. -/
def subscribeContract (contractId : String) : DerivProgram Unit := do
  let session ← Logged.read
  if session.subscribedContracts.contains contractId then pure ()
  else match intOfText contractId with
  | none => pure ()
  | some number =>
    let exchange ← Logged.ask transport ⟨.proposalOpenContract,
      [("proposal_open_contract", .int 1), ("contract_id", .int number), ("subscribe", .int 1)]⟩
    match exchange.reply with
    | .error _ => pure ()
    | .ok response =>
      Logged.update fun session => { session with
        subscribedContracts := session.subscribedContracts ++ [contractId] }
      match (Fields.get response "subscription").asObject with
      | none => pure ()
      | some subscription =>
        match (Fields.get subscription "id").asText with
        | none => pure ()
        | some subscriptionId =>
          Logged.update fun session => { session with
            contractSubscriptionIds :=
              putEntry session.contractSubscriptionIds contractId subscriptionId }

def trackedOrder (command : OrderCommand) (contractId : String) (buyPriceMinor : Int)
    (now : Instant) : TrackedDerivOrder where
  orderId := command.orderId
  correlationId := command.correlationId
  intentId := command.intentId
  symbol := command.symbol
  direction := command.direction
  amount := command.amount
  contractId := contractId
  accountId := command.accountId
  buyPriceMinor := buyPriceMinor
  buyTimeUtc := now
  product := upperText command.product
  predictionDigit := command.predictionDigit

def acceptContract (command : OrderCommand) (stake : Decimal) (now : Instant) (messageId : String)
    (buyData : Fields) (contractId : String) : DerivProgram WorkerSubmissionResult := do
  match (Fields.getD buyData "buy_price" (.decimal stake)).asDecimal.bind moneyToMinorUnits with
  | none => Program.raise .arithmeticError
  | some buyPriceMinor =>
    let tracked := trackedOrder command contractId buyPriceMinor now
    Logged.update fun session => { session with
      tracked := putEntry session.tracked contractId tracked
      trackedByOrderId := putEntry session.trackedByOrderId command.orderId tracked }
    subscribeContract transport contractId
    pure
      { outcome := .accepted
        brokerOrderId := some contractId
        responseMessageId := messageId
        correlationId := command.correlationId
        causationId := command.messageId }

def readBuyReply (command : OrderCommand) (stake : Decimal) (now : Instant) (messageId : String) :
    Except DerivTransportError Fields → DerivProgram WorkerSubmissionResult
  | .error (.workerError error) =>
    if error.category = .networkError ∨ error.category = .rateLimited then
      pure (refusal .timeoutAfterPossibleSend command messageId error.reasonCode)
    else pure (refusal .rejected command messageId error.reasonCode)
  | .error .osError | .error .timeoutError =>
    pure (refusal .timeoutAfterPossibleSend command messageId "DERIV_REQUEST_TIMEOUT")
  | .ok response =>
    match (Fields.get response "buy").asObject with
    | none =>
      pure (refusal .rejected command messageId (errorCode response "DERIV_BUY_REJECTED"))
    | some buyData =>
      let contractIdRaw := Fields.get buyData "contract_id"
      if contractIdRaw.isNull then
        pure (refusal .rejected command messageId "DERIV_CONTRACT_ID_MISSING")
      else acceptContract transport command stake now messageId buyData contractIdRaw.text

def executeBuyPayload (command : OrderCommand) (payload : Fields) (stake : Decimal) (now : Instant)
    (messageId : String) : DerivProgram WorkerSubmissionResult := do
  let exchange ← Logged.ask transport ⟨.buy, payload⟩
  readBuyReply transport command stake now messageId exchange.reply

def passthrough (command : OrderCommand) : Json :=
  .obj [("order_id", .str command.orderId), ("correlation_id", .str command.correlationId)]

/-- `_proposal_then_buy` once the proposal has been answered, or not. -/
def readProposalReply (command : OrderCommand) (stake : Decimal) (now : Instant)
    (messageId : String) :
    Except DerivTransportError Fields → DerivProgram WorkerSubmissionResult
  | .error (.workerError error) => pure (refusal .rejected command messageId error.reasonCode)
  | .error .osError | .error .timeoutError =>
    pure (refusal .rejected command messageId "DERIV_PROPOSAL_TIMEOUT")
  | .ok response =>
    match (Fields.get response "proposal").asObject.bind (fun p => (Fields.get p "id").asText) with
    | none =>
      pure (refusal .rejected command messageId (errorCode response "DERIV_PROPOSAL_REJECTED"))
    | some proposalId =>
      executeBuyPayload transport command
        [("buy", .str proposalId), ("price", .decimal stake), ("passthrough", passthrough command)]
        stake now messageId

def proposalThenBuy (command : OrderCommand) (proposalPayload : Fields) (stake : Decimal)
    (now : Instant) (messageId : String) : DerivProgram WorkerSubmissionResult := do
  let exchange ← Logged.ask transport ⟨.proposal, proposalPayload⟩
  readProposalReply transport command stake now messageId exchange.reply

/-- The proposal of a digit contract; `barrier` is the prediction, where one is needed. -/
def digitProposalPayload (command : OrderCommand) (product : String) (stake : Decimal)
    (barrier : Option Int) : Fields :=
  [("proposal", .int 1), ("amount", .decimal stake), ("basis", .str "stake"),
    ("contract_type", .str product), ("currency", .str command.amount.currency),
    ("duration", .int 1), ("duration_unit", .str "t"),
    ("underlying_symbol", .str command.symbol), ("passthrough", passthrough command)] ++
  match barrier with
  | some digit => [("barrier", .str (toString digit))]
  | none => []

def proposalPayload (command : OrderCommand) (stake : Decimal) : Fields :=
  [("proposal", .int 1), ("amount", .decimal stake), ("basis", .str "stake"),
    ("contract_type", .str command.direction.value), ("currency", .str command.amount.currency),
    ("duration", .int command.duration), ("duration_unit", .str command.durationUnit),
    ("underlying_symbol", .str command.symbol), ("passthrough", passthrough command)]

/-- The part of `_submit_buy_order` after its checks: a digit product needs its barrier. -/
def submitProduct (command : OrderCommand) (now : Instant) (messageId : String) :
    DerivProgram WorkerSubmissionResult :=
  let stake := stakeOf command.amount.minorUnits
  let product := upperText command.product
  if digitProducts.contains product then
    if digitBarrierProducts.contains product then
      match command.predictionDigit with
      | none => pure (refusal .rejected command messageId
          (if product = "DIGITDIFF" then "DERIV_DIGIT_PREDICTION_REQUIRED"
            else "DERIV_DIGIT_BARRIER_REQUIRED"))
      | some digit => proposalThenBuy transport command
          (digitProposalPayload command product stake (some digit)) stake now messageId
    else proposalThenBuy transport command (digitProposalPayload command product stake none)
      stake now messageId
  else proposalThenBuy transport command (proposalPayload command stake) stake now messageId

def submitOrder (command : OrderCommand) (now : Instant) (messageId : String) :
    DerivProgram WorkerSubmissionResult := do
  let session ← Logged.read
  if session.demoAuthenticated = false then
    Program.raise (.workerError ⟨.accountModeForbidden, "DERIV_REAL_ACCOUNT_FORBIDDEN"⟩)
  else if command.broker ≠ .deriv then
    Program.raise (.workerError ⟨.invalidRequest, "DERIV_INVALID_BROKER"⟩)
  else if command.accountId ≠ session.accountId then
    Program.raise (.workerError ⟨.invalidRequest, "DERIV_ACCOUNT_SCOPE_MISMATCH"⟩)
  else if command.deadlineAt ≤ now then
    pure (refusal .rejected command messageId "ORDER_COMMAND_EXPIRED")
  else submitProduct transport command now messageId

def digitSettlementError (reasonCode : String) : DerivException :=
  .workerError ⟨.schemaIncompatible, reasonCode⟩

def exitDigit (exitTick : Json) : Except DerivException Nat :=
  if exitTick.isNull then .error (digitSettlementError "DERIV_DIGIT_EXIT_TICK_MISSING")
  else match exitTick.asDecimal with
  | none => .error .arithmeticError
  | some number =>
    match number with
    | .finite .. => .ok (number.lastDigit.getD 0)
    | _ => .error (digitSettlementError "DERIV_DIGIT_EXIT_TICK_INVALID")

def digitWon (product : String) (predictionDigit : Option Int) (exitDigit : Nat) :
    Except DerivException Bool :=
  match product, predictionDigit with
  | "DIGITDIFF", some prediction => .ok ((exitDigit : Int) != prediction)
  | "DIGITOVER", some prediction => .ok (decide (prediction < exitDigit))
  | "DIGITUNDER", some prediction => .ok (decide ((exitDigit : Int) < prediction))
  | "DIGITEVEN", _ => .ok (exitDigit % 2 == 0)
  | "DIGITODD", _ => .ok (exitDigit % 2 == 1)
  | _, _ => .error (digitSettlementError "DERIV_DIGIT_CONTRACT_UNSUPPORTED")

/-- The cross-check of a settled digit contract in `on_proposal_open_contract_message`: what
    the exit digit says must be what the broker says. -/
def checkDigitSettlement (product : String) (predictionDigit : Option Int) (status : String)
    (profit : Decimal) (exitTick : Json) : Except DerivException Unit :=
  if digitProducts.contains product then do
    let digit ← exitDigit exitTick
    let won ← digitWon product predictionDigit digit
    if won != (status == "won" || profit.isPositive) then
      .error (digitSettlementError "DERIV_DIGIT_SETTLEMENT_CONFLICT")
    else .ok ()
  else .ok ()

end DerivOrderSession

end TradingLab
