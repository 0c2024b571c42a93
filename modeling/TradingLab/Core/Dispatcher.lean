import TradingLab.Persistence.Decomposition

/-!
# The outbox dispatcher

`OutboxDispatcher.dispatch_next` is three steps with commits between them: claim a message, hand
its command to the worker, record what became of it. Other transactions and crashes come between.
-/
namespace TradingLab

inductive WorkerOutcome
  | accepted
  | rejected
  | timeoutAfterPossibleSend
deriving DecidableEq, Repr

def WorkerOutcome.value : WorkerOutcome → String
  | .accepted => "ACCEPTED"
  | .rejected => "REJECTED"
  | .timeoutAfterPossibleSend => "TIMEOUT_AFTER_POSSIBLE_SEND"

inductive DeliveryCertainty
  | notSent
  | possiblySent
  | responseReceived
deriving DecidableEq, Repr

inductive WorkerAnswer
  | result (outcome : WorkerOutcome) (brokerOrderId reasonCode : Option String)
  | dispatchError (delivery : DeliveryCertainty) (code : String)
  | exception
deriving DecidableEq, Repr

def recordAnswer (command : OrderCommand) (answer : WorkerAnswer) (now : Instant) : WriterOp :=
  match answer with
  | .dispatchError .notSent code => .recordDispatchNotSent command code now
  | .dispatchError _ _ | .exception =>
    .recordDispatchResult command WorkerOutcome.timeoutAfterPossibleSend.value none none now
  | .result outcome brokerOrderId reasonCode =>
    .recordDispatchResult command outcome.value brokerOrderId reasonCode now

/-- The command that `OrderCoordinator.submit` makes of a request. -/
def OrderRequest.commandFields (request : OrderRequest) (messageId intentId orderId : String) :
    OrderCommandFields where
  messageId := messageId
  correlationId := request.correlationId
  intentId := intentId
  orderId := orderId
  broker := request.broker
  accountId := request.accountId
  product := request.product
  symbol := request.symbol
  direction := request.direction
  amount := request.amount
  deadlineAt := request.deadlineAt
  duration := request.duration
  durationUnit := request.durationUnit
  predictionDigit := request.predictionDigit

/-! ### Interleaved dispatches -/

/-- Where a call of `dispatch_next` stands after its claim has committed. -/
inductive Dispatch
  | expired (command : OrderCommand) (dispatchTime : Instant)
  | ready (command : OrderCommand) (dispatchTime : Instant)
  | answered (command : OrderCommand) (answer : WorkerAnswer)
deriving DecidableEq

namespace Dispatch

/-- `if command.deadline_at <= dispatch_time`. -/
def start (command : OrderCommand) (dispatchTime : Instant) : Dispatch :=
  if command.deadlineAt ≤ dispatchTime then .expired command dispatchTime
  else .ready command dispatchTime

def command : Dispatch → OrderCommand
  | .expired command _ | .ready command _ | .answered command _ => command

end Dispatch

structure Submission where
  command : OrderCommand
  dispatchTime : Instant
deriving DecidableEq

/-- The database, the calls of `dispatch_next` under way, and what an observer has seen:
    the commands persisted and the commands handed to the worker. -/
structure DispatchSystem where
  db : Database
  underWay : List Dispatch
  persisted : List OrderCommand
  submissions : List Submission

inductive DispatchStep
  /-- Any transaction of any other part of the program. -/
  | writer (op : WriterOp)
  | claim (dispatchTime : Instant) (broker accountId : Option String)
  /-- A dispatch under way takes its next action; `answer` is what the worker says if this
      is the call of `submit_order`. -/
  | advance (dispatch : Dispatch) (answer : WorkerAnswer) (now : Instant)
  | crash

namespace DispatchSystem

def initial : DispatchSystem := ⟨Database.empty, [], [], []⟩

def added (db : Database) (op : WriterOp) : List OrderCommand :=
  match op.body db with
  | .ok _ => op.newCommand.toList
  | .error _ => []

variable (s : DispatchSystem)

def transaction (op : WriterOp) : DispatchSystem :=
  { s with
    db := writerStep s.db op
    persisted := s.persisted ++ added s.db op }

def claim (dispatchTime : Instant) (broker accountId : Option String) : DispatchSystem :=
  match claimNextMessage dispatchTime broker accountId s.db with
  | .ok (some command, db) =>
    { s with db := db, underWay := Dispatch.start command dispatchTime :: s.underWay }
  | .ok (none, db) => { s with db := db }
  | .error _ => s

def act (dispatch : Dispatch) (answer : WorkerAnswer) (now : Instant) : DispatchSystem :=
  match dispatch with
  | .expired command dispatchTime =>
    s.transaction (.cancelExpiredBeforeDispatch command dispatchTime)
  | .ready command dispatchTime =>
    { s with
      underWay := .answered command answer :: s.underWay
      submissions := ⟨command, dispatchTime⟩ :: s.submissions }
  | .answered command answer => s.transaction (recordAnswer command answer now)

def step : DispatchStep → DispatchSystem
  | .writer op => s.transaction op
  | .claim dispatchTime broker accountId => s.claim dispatchTime broker accountId
  | .advance dispatch answer now =>
    if dispatch ∈ s.underWay then
      { s with underWay := s.underWay.erase dispatch }.act dispatch answer now
    else s
  | .crash => { s with underWay := [] }

end DispatchSystem

end TradingLab
