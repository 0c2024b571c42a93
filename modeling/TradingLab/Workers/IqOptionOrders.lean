import TradingLab.Workers.DerivOrders

/-!
# IQ Option order submission

`IQOptionOrderSession.submit_order`.
-/
namespace TradingLab

/-- What a request of the transport, or the session itself, may raise. -/
inductive IqOptionError
  /-- `IQOptionWorkerError` or `IQOptionExternalError`: the session reads the code only. -/
  | raised (reasonCode : String)
  | osError
  | timeoutError
deriving DecidableEq, Repr

structure IqOptionRequest where
  name : String
  msg : Fields

/-- Any behaviour of an IQ Option connection. -/
abbrev IqOptionTransport := Machine.Oracle IqOptionRequest (Exchange IqOptionError)

structure TrackedIqOptionOrder where
  orderId : String
  correlationId : String
  clientOrderRef : String
  brokerOrderId : Option String
  symbol : String
  direction : Direction
  amount : Money
  product : String
  accountId : String
  createdAtUtc : Instant

structure IqOptionOrderSession where
  tracked : List (String × TrackedIqOptionOrder)
  trackedByRef : List (String × TrackedIqOptionOrder)

abbrev IqOptionProgram :=
  Machine.Program IqOptionError
    (Machine.Logged IqOptionRequest (Exchange IqOptionError) IqOptionOrderSession)

open Machine (Logged Program)

/-- The reason code of the first check that fails. -/
def validateIqOptionOrderCommand (command : OrderCommand) : Except IqOptionError Unit :=
  if command.broker ≠ .iqOption then .error (.raised "IQOPTION_BROKER_MISMATCH")
  else if isBlank command.symbol then .error (.raised "IQOPTION_INVALID_SYMBOL")
  else if command.amount.minorUnits ≤ 0 then .error (.raised "IQOPTION_INVALID_AMOUNT")
  else if isBlank command.accountId then .error (.raised "IQOPTION_INVALID_ACCOUNT_ID")
  else if "REAL".toList.isPrefixOf (upperChars command.accountId.toList) then
    .error (.raised "IQOPTION_REAL_ACCOUNT_FORBIDDEN")
  else .ok ()

/-- The number to two decimal places, as `format(value, ".2f")` writes it. -/
def twoPlaces : Decimal → String
  | .finite negative coefficient exponent =>
    let cents := if -2 ≤ exponent then coefficient * 10 ^ (exponent + 2).toNat
      else Decimal.divHalfEven coefficient (10 ^ (-2 - exponent).toNat)
    (if negative then "-" else "") ++ toString (cents / 100) ++ "." ++
      toString (cents % 100 / 10) ++ toString (cents % 10)
  | number => decimalText number

namespace IqOptionOrderSession

def trackedOrder (command : OrderCommand) (now : Instant) : TrackedIqOptionOrder where
  orderId := command.orderId
  correlationId := command.correlationId
  clientOrderRef := command.orderId
  brokerOrderId := none
  symbol := command.symbol
  direction := command.direction
  amount := command.amount
  product := command.product
  accountId := command.accountId
  createdAtUtc := now

/-- `command.direction.value.lower()`. -/
def directionText : Direction → String
  | .call => "call"
  | .put => "put"

def buyPayload (command : OrderCommand) : Fields :=
  [("active", .str command.symbol), ("direction", .str (directionText command.direction)),
    ("price", .str (twoPlaces (stakeOf command.amount.minorUnits))),
    ("client_order_id", .str command.orderId), ("correlation_id", .str command.correlationId),
    ("duration", .int command.duration)]

/-- `response.get("id", nested_id)`. -/
def rawContractId (response : Fields) : Json :=
  Fields.getD response "id"
    (match (Fields.get response "result").asObject with
      | some result => Fields.get result "id"
      | none => .null)

/-- `raw is None or str(raw).strip() in {"", "None"}`. -/
def missingId (raw : Json) : Bool :=
  raw.isNull || [[], "None".toList].contains (stripChars raw.text.toList)

/-- `response.get("reason", response.get("message", "ORDER_REJECTED"))`. -/
def rejectionReason (response : Fields) : String :=
  (Fields.getD response "reason" (Fields.getD response "message" (.str "ORDER_REJECTED"))).text

/-- The session's answer; `messageId` is the fresh `uuid4`. -/
def answer (command : OrderCommand) (messageId : String) (outcome : WorkerOutcome)
    (brokerOrderId reasonCode : Option String) : WorkerSubmissionResult where
  outcome := outcome
  brokerOrderId := brokerOrderId
  responseMessageId := messageId
  correlationId := command.correlationId
  causationId := command.messageId
  reasonCode := reasonCode

/-- The `try` statement once the request has ended. -/
def readReply (command : OrderCommand) (now : Instant) (messageId : String) :
    Except IqOptionError Fields → IqOptionProgram WorkerSubmissionResult
  | .error error => Program.raise error
  | .ok response =>
    if (Fields.get response "status").truthy = false then do
      Logged.update fun session => { session with
        trackedByRef := session.trackedByRef.filter fun entry => entry.1 != command.orderId }
      pure (answer command messageId .rejected none (some (rejectionReason response)))
    else
      let raw := rawContractId response
      if missingId raw then Program.raise (.raised "IQOPTION_ORDER_RESPONSE_INVALID")
      else do
        let bought := { trackedOrder command now with brokerOrderId := some raw.text }
        -- `tracked` is one object: both tables show its new broker order id.
        Logged.update fun session => { session with
          tracked := putEntry session.tracked raw.text bought
          trackedByRef := putEntry session.trackedByRef command.orderId bought }
        pure (answer command messageId .accepted (some raw.text) none)

def attempt (transport : IqOptionTransport) (command : OrderCommand) (now : Instant)
    (messageId : String) : IqOptionProgram WorkerSubmissionResult := do
  Program.lift (validateIqOptionOrderCommand command)
  Logged.update fun session => { session with
    trackedByRef := putEntry session.trackedByRef command.orderId (trackedOrder command now) }
  let exchange ← Logged.ask transport ⟨"buy", buyPayload command⟩
  readReply command now messageId exchange.reply

/-- The outcome that the `except` clauses give an exception, and its reason code. -/
def classify : IqOptionError → WorkerOutcome × String
  | .raised reasonCode =>
    if reasonCode ∈ ["IQOPTION_REQUEST_TIMEOUT", "IQOPTION_NETWORK_ERROR"] then
      (.timeoutAfterPossibleSend, reasonCode)
    else (.rejected, reasonCode)
  | .osError | .timeoutError => (.timeoutAfterPossibleSend, "IQOPTION_REQUEST_TIMEOUT")

def onError (command : OrderCommand) (messageId : String) (error : IqOptionError) :
    IqOptionProgram WorkerSubmissionResult :=
  pure (answer command messageId (classify error).1 none (some (classify error).2))

def submitOrder (transport : IqOptionTransport) (command : OrderCommand) (now : Instant)
    (messageId : String) : IqOptionProgram WorkerSubmissionResult :=
  Program.handle (attempt transport command now messageId) (onError command messageId)

end IqOptionOrderSession

end TradingLab
