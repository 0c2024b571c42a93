import TradingLab.Machine.Oracle
import TradingLab.Workers.Json

/-!
# The Deriv connection

`DerivTransport` says for each request whether it was written and how it ended.
`DerivWebSocketClient` is the one the program uses: a request is registered, written and then waits
for the reader thread, which answers it, or fails everything that is pending.
-/
namespace TradingLab

inductive DerivErrorCategory
  | authFailed
  | rateLimited
  | invalidRequest
  | schemaIncompatible
  | networkError
  | serverError
  | subscriptionError
  | accountModeForbidden
deriving DecidableEq, Repr

structure DerivWorkerError where
  category : DerivErrorCategory
  reasonCode : String
deriving DecidableEq, Repr

/-- What a request of a transport may raise. -/
inductive DerivTransportError
  | workerError (error : DerivWorkerError)
  | osError
  | timeoutError
deriving DecidableEq, Repr

inductive DerivOperation
  | ping
  | time
  | activeSymbols
  | contractsList
  | contractsFor
  | ticks
  | ticksHistory
  | forget
  | forgetAll
  | balance
  | buy
  | proposal
  | proposalOpenContract
  | statement
  | profitTable
  | portfolio
deriving DecidableEq, Repr

def DerivOperation.value : DerivOperation → String
  | .ping => "ping"
  | .time => "time"
  | .activeSymbols => "active_symbols"
  | .contractsList => "contracts_list"
  | .contractsFor => "contracts_for"
  | .ticks => "ticks"
  | .ticksHistory => "ticks_history"
  | .forget => "forget"
  | .forgetAll => "forget_all"
  | .balance => "balance"
  | .buy => "buy"
  | .proposal => "proposal"
  | .proposalOpenContract => "proposal_open_contract"
  | .statement => "statement"
  | .profitTable => "profit_table"
  | .portfolio => "portfolio"

structure DerivRequest where
  operation : DerivOperation
  payload : Fields

/-- How a request went: whether it was written to the connection, and what the caller got. -/
structure Exchange (ε : Type) where
  written : Bool
  reply : Except ε Fields

/-- Any behaviour of a Deriv connection. -/
abbrev DerivTransport := Machine.Oracle DerivRequest (Exchange DerivTransportError)

/-! ### `validate_read_only_request` -/

def forbiddenOperationsDenylist : List String :=
  ["auto_start", "bulk_purchase", "cashier", "deposit", "withdraw", "withdrawal"]

def tradingOperationDenylist : List String :=
  ["buy", "cancel", "contract_update", "proposal", "sell"] ++ forbiddenOperationsDenylist

def readOnlyProposalContractTypes : List String :=
  ["CALL", "PUT", "DIGITDIFF", "DIGITEVEN", "DIGITMATCH", "DIGITODD", "DIGITOVER", "DIGITUNDER"]

def readOnlyProposalAllowedKeys : List String :=
  ["amount", "barrier", "basis", "contract_type", "currency", "duration", "duration_unit",
    "proposal", "req_id", "underlying_symbol"]

def digitBarrierContractTypes : List String :=
  ["DIGITDIFF", "DIGITMATCH", "DIGITOVER", "DIGITUNDER"]

def callPutContractTypes : List String := ["CALL", "PUT"]

/-- `value == n`. -/
def Json.equalsInt (value : Json) (n : Int) : Bool :=
  match value with
  | .int m => m == n
  | .bool b => (if b then 1 else 0) == n
  | .decimal d => Decimal.numEq d (Decimal.ofInt n)
  | _ => false

def Json.equalsText (value : Json) (text : String) : Bool :=
  value.asText == some text

/-- The duration of a proposal: an `int` that is not a `bool`. -/
def proposalDuration (contractType : String) (duration : Json) : Bool :=
  match duration with
  | .int n => decide (0 < n) &&
    if callPutContractTypes.contains contractType then [1, 5, 10].contains n else n == 1
  | _ => false

def validatePublicReadOnlyProposal (payload : Fields) : Bool :=
  let contractType := normalize (Fields.getD payload "contract_type" (.str "")).text
  payload.all (fun entry => readOnlyProposalAllowedKeys.contains entry.1) &&
  (Fields.get payload "proposal").equalsInt 1 &&
  readOnlyProposalContractTypes.contains contractType &&
  (match (Fields.getD payload "amount" (.str "")).asDecimal with
    | some amount => amount.isFinite && amount.isPositive
    | none => false) &&
  (Fields.get payload "basis").equalsText "stake" &&
  (Fields.get payload "currency").equalsText "USD" &&
  (Fields.get payload "duration_unit").equalsText "t" &&
  proposalDuration contractType (Fields.get payload "duration") &&
  (match (Fields.get payload "underlying_symbol").asText with
    | some symbol => !isBlank symbol
    | none => false) &&
  match Fields.lookup payload "barrier", digitBarrierContractTypes.contains contractType with
  | some barrier, true =>
    match barrier.asInt with
    | some n => decide (0 ≤ n ∧ n ≤ 9)
    | none => false
  | none, false => true
  | _, _ => false

def tradingOperationDisabled : DerivWorkerError :=
  ⟨.accountModeForbidden, "DERIV_TRADING_OPERATION_DISABLED"⟩

def validateOutboundDerivRequest (demoAuthenticated : Bool) (request : DerivRequest) :
    Except DerivWorkerError Unit :=
  let opcode := request.operation.value
  if forbiddenOperationsDenylist.contains opcode ||
      request.payload.any (fun entry => forbiddenOperationsDenylist.contains entry.1) then
    .error tradingOperationDisabled
  else if !demoAuthenticated && opcode == "proposal" then
    if validatePublicReadOnlyProposal request.payload then .ok ()
    else .error tradingOperationDisabled
  else if !demoAuthenticated && (tradingOperationDenylist.contains opcode ||
      request.payload.any (fun entry => tradingOperationDenylist.contains entry.1)) then
    .error tradingOperationDisabled
  else .ok ()

def publicReadOnlyOperations : List DerivOperation :=
  [.ping, .time, .activeSymbols, .contractsList, .contractsFor, .ticks, .ticksHistory,
    .proposal, .forget, .forgetAll]

def demoOperations : List DerivOperation :=
  publicReadOnlyOperations ++
    [.balance, .buy, .proposal, .proposalOpenContract, .statement, .profitTable, .portfolio]

def validateReadOnlyRequest (demoAuthenticated : Bool) (request : DerivRequest) :
    Except DerivWorkerError Unit := do
  validateOutboundDerivRequest demoAuthenticated request
  let allowed := if demoAuthenticated then demoOperations else publicReadOnlyOperations
  if !allowed.contains request.operation ||
      (Fields.lookup request.payload request.operation.value).isNone then
    .error ⟨.invalidRequest, "DERIV_OPERATION_NOT_ALLOWLISTED"⟩
  else .ok ()

/-! ### The client -/

def maxConsecutiveParseFailures : Nat := 5

def networkError : DerivWorkerError := ⟨.networkError, "DERIV_NETWORK_ERROR"⟩

/-- The part of the client that decides how a request ends. -/
structure DerivWebSocketClient where
  demoAuthenticated : Bool
  /-- `_connection is not None`. -/
  connected : Bool
  /-- `_reader_error`, as `_as_worker_error` shows it. -/
  readerError : Option DerivWorkerError
  consecutiveParseFailures : Nat
  nextRequestId : Int

/-- What happens on the other threads while a request waits for its response. -/
inductive ReaderEvent
  /-- A frame arrives; `none` if it is not text or not a JSON object. -/
  | frame (decoded : Option Fields)
  /-- `recv` raises `OSError` or `WebSocketException`. -/
  | connectionLost
  | heartbeatKill
  | closed

inductive SendResult
  | sent
  /-- It raises, perhaps after the frame has left. -/
  | failed (written : Bool)

/-- Everything outside the client that a request depends on. -/
structure RequestWeather where
  /-- Whether `reconnect` opens a connection, if it is needed. -/
  reconnects : Bool
  send : SendResult
  /-- What happens before the request times out. -/
  events : List ReaderEvent

namespace DerivWebSocketClient

def failReader (client : DerivWebSocketClient) (error : DerivWorkerError) :
    DerivWebSocketClient :=
  { client with connected := false, readerError := some error }

/-- `response.get("req_id")`, an `int`; a `bool` counts as one. -/
def responseId (response : Fields) : Option Int :=
  match Fields.get response "req_id" with
  | .int n => some n
  | .bool b => some (if b then 1 else 0)
  | _ => none

/-- One round of `_reader_loop` or of the watchdog, and the item that it puts into the
    queue of the request `requestId`, if any. -/
def handle (client : DerivWebSocketClient) (requestId : Int) (event : ReaderEvent) :
    Option (Except DerivWorkerError Fields) × DerivWebSocketClient :=
  match event with
  | .frame (some response) =>
    let client := { client with consecutiveParseFailures := 0 }
    -- Any other response goes to one of the event queues.
    if responseId response = some requestId then (some (.ok response), client) else (none, client)
  | .frame none =>
    let client :=
      { client with consecutiveParseFailures := client.consecutiveParseFailures + 1 }
    let schemaError : DerivWorkerError := ⟨.schemaIncompatible, "DERIV_SCHEMA_INCOMPATIBLE"⟩
    if maxConsecutiveParseFailures ≤ client.consecutiveParseFailures then
      (some (.error schemaError), client.failReader schemaError)
    else (none, client)
  | .connectionLost => (some (.error networkError), client.failReader networkError)
  | .heartbeatKill =>
    let killed : DerivWorkerError := ⟨.networkError, "DERIV_HEARTBEAT_TIMEOUT"⟩
    (some (.error killed), client.failReader killed)
  | .closed => (some (.error networkError), { client with connected := false })

/-- `response_queue.get(timeout=timeout)`: the first item, or the timeout. -/
def await (client : DerivWebSocketClient) (requestId : Int) :
    List ReaderEvent → Except DerivWorkerError Fields × DerivWebSocketClient
  | [] => (.error ⟨.networkError, "DERIV_REQUEST_TIMEOUT"⟩, client)
  | event :: rest =>
    match client.handle requestId event with
    | (some item, client') => (item, client')
    | (none, client') => await client' requestId rest

/-- `if connection is None`: raise the reader's error, or connect. -/
def connect (client : DerivWebSocketClient) (reconnects : Bool) :
    Except DerivWorkerError DerivWebSocketClient :=
  if client.connected then .ok client
  else match client.readerError with
  | some error => .error error
  | none =>
    if reconnects then
      .ok { client with connected := true, readerError := none, consecutiveParseFailures := 0 }
    else .error networkError

def request (client : DerivWebSocketClient) (request : DerivRequest) (weather : RequestWeather) :
    Exchange DerivTransportError × DerivWebSocketClient :=
  match validateReadOnlyRequest client.demoAuthenticated request with
  | .error error => (⟨false, .error (.workerError error)⟩, client)
  | .ok () =>
    match client.connect weather.reconnects with
    | .error error => (⟨false, .error (.workerError error)⟩, client)
    | .ok client =>
      let requestId := client.nextRequestId
      let client := { client with nextRequestId := requestId + 1 }
      match weather.send with
      | .failed written =>
        (⟨written, .error (.workerError networkError)⟩, client.failReader networkError)
      | .sent =>
        let (item, client) := client.await requestId weather.events
        (⟨true, item.mapError .workerError⟩, client)

variable {client client' : DerivWebSocketClient} {requestId : Int}

/-- Among the events there are frames in a row that cannot be decoded, enough of them for
    a reader that has already seen `seen`. -/
inductive GivesUp : Nat → List ReaderEvent → Prop
  | now {seen : Nat} {rest : List ReaderEvent} : maxConsecutiveParseFailures ≤ seen + 1 →
      GivesUp seen (.frame none :: rest)
  | undecodable {seen : Nat} {rest : List ReaderEvent} : GivesUp (seen + 1) rest →
      GivesUp seen (.frame none :: rest)
  | decoded {seen : Nat} {response : Fields} {rest : List ReaderEvent} : GivesUp 0 rest →
      GivesUp seen (.frame (some response) :: rest)

/-- A request that waits in vain gets a network error, unless the reader gives up. -/
theorem await_loss {error : DerivWorkerError} :
    ∀ (events : List ReaderEvent) (client : DerivWebSocketClient),
      client.await requestId events = (.error error, client') →
        error.category = .networkError ∨ GivesUp client.consecutiveParseFailures events := by
  intro events
  induction events with
  | nil =>
    intro client ends
    cases ends
    exact Or.inl rfl
  | cons event rest ih =>
    intro client ends
    cases event with
    | frame decoded =>
      cases decoded with
      | some response =>
        simp only [await, handle] at ends
        by_cases own : responseId response = some requestId
        · simp [own] at ends
        · simp only [own, if_false] at ends
          exact (ih _ ends).imp id GivesUp.decoded
      | none =>
        simp only [await, handle] at ends
        by_cases enough : maxConsecutiveParseFailures ≤ client.consecutiveParseFailures + 1
        · exact Or.inr (GivesUp.now enough)
        · simp only [enough, if_false] at ends
          exact (ih _ ends).imp id GivesUp.undecodable
    | connectionLost =>
      cases ends
      exact Or.inl rfl
    | heartbeatKill =>
      cases ends
      exact Or.inl rfl
    | closed =>
      cases ends
      exact Or.inl rfl

/-- A request that was written and raised ends with a network error, unless the reader
    gave up on undecodable frames while the request was waiting. -/
theorem request_loss {req : DerivRequest} {weather : RequestWeather} {error : DerivTransportError}
    (written : (client.request req weather).1.written = true)
    (lost : (client.request req weather).1.reply = .error error) :
    (∃ reason, error = .workerError ⟨.networkError, reason⟩) ∨
      ∃ connection, client.connect weather.reconnects = .ok connection ∧
        GivesUp connection.consecutiveParseFailures weather.events := by
  unfold request at written lost
  split at written
  · cases written
  · rename_i accepted
    simp only [accepted] at lost
    split at written
    · cases written
    · rename_i connection opened
      simp only [opened] at lost
      split at written
      · rename_i partly sending
        simp only [sending, Except.error.injEq] at lost
        exact Or.inl ⟨_, lost.symm⟩
      · rename_i sending
        simp only [sending] at lost
        -- The request waits from here on.
        cases answered : ({ connection with nextRequestId := connection.nextRequestId + 1 }
            : DerivWebSocketClient).await connection.nextRequestId weather.events with
        | mk item after =>
          rw [answered] at lost
          cases item with
          | ok response => simp [Except.mapError] at lost
          | error failure =>
            simp only [Except.mapError, Except.error.injEq] at lost
            rcases await_loss _ _ answered with network | gaveUp
            · left
              refine ⟨failure.reasonCode, ?_⟩
              rw [← lost, ← network]
            · exact Or.inr ⟨connection, opened, gaveUp⟩

end DerivWebSocketClient

end TradingLab
