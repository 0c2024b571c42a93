import Mathlib.Data.List.Infix
import TradingLab.Core.CircuitBreaker
import TradingLab.Numeric.Decimal

/-!
# The order coordinator of the enterprise foundation

`OrderCoordinator` submits orders and keeps them in a `SQLiteStateStore`; `OrderReconciler` copies
what the broker reports into the same tables. Each store call is its own transaction, and an event
is a stretch between two `await`s, ended early where the process crashes. Validation and timestamps
of orders, the fencing token and the results are left out.
-/
namespace TradingLab.Foundation

inductive OrderState
  | created
  | admitted
  | reserved
  | submitting
  | accepted
  | rejectedRemote
  | unknown
  | reconciling
  | manualReview
deriving DecidableEq, Repr

def validTransitions : OrderState → List OrderState
  | .created => [.admitted]
  | .admitted => [.reserved]
  | .reserved => [.submitting]
  | .submitting => [.accepted, .rejectedRemote, .unknown]
  | .accepted => []
  | .rejectedRemote => []
  | .unknown => [.reconciling]
  | .reconciling => [.accepted, .rejectedRemote, .manualReview]
  | .manualReview => []

def canTransition (source target : OrderState) : Bool :=
  decide (target ∈ validTransitions source)

structure OrderIntent where
  intentId : String
  dedupeKey : String
  accountId : String
  strategyId : String
  asset : String
  direction : String
  amount : Decimal
  duration : Int
  /-- `metadata.get("currency")`. -/
  currency : Option String := none
deriving DecidableEq

structure Order where
  internalOrderId : String
  dedupeKey : String
  accountId : String
  strategyId : String
  asset : String
  direction : String
  amount : Decimal
  duration : Int
  state : OrderState := .created
deriving DecidableEq

structure Reservation where
  reservationId : String
  orderId : String
  amount : Decimal
  currency : String
  active : Bool := true
deriving DecidableEq

def OrderIntent.order (intent : OrderIntent) (state : OrderState) : Order where
  internalOrderId := intent.intentId
  dedupeKey := intent.dedupeKey
  accountId := intent.accountId
  strategyId := intent.strategyId
  asset := intent.asset
  direction := intent.direction
  amount := intent.amount
  duration := intent.duration
  state := state

def reservationId (orderId : String) : String :=
  "reservation:" ++ orderId

/-! ### The store -/

structure Store where
  orders : List Order := []
  reservations : List Reservation := []
  /-- Dedupe keys with the intents that took them. -/
  idempotencyKeys : List (String × String) := []
  /-- History: the states before and after each update of an order row. -/
  changes : List (OrderState × OrderState) := []

namespace Store

variable (store : Store)

def getOrder (orderId : String) : Option Order :=
  store.orders.find? fun row => row.internalOrderId = orderId

def listOrders (accountId : String) : List Order :=
  store.orders.filter fun row => row.accountId = accountId

/-- An upsert: the row of a known id only takes the new state. -/
def saveOrder (order : Order) : Except String Store :=
  match store.getOrder order.internalOrderId with
  | some known =>
    .ok { store with
      orders := store.orders.map fun row =>
        if row.internalOrderId = order.internalOrderId then { row with state := order.state }
        else row
      changes := store.changes ++ [(known.state, order.state)] }
  | none =>
    if store.orders.any fun row => row.dedupeKey = order.dedupeKey then
      .error "UNIQUE constraint failed: orders.dedupe_key"
    else .ok { store with orders := store.orders ++ [order] }

def saveReservation (reservation : Reservation) : Except String Store :=
  if store.reservations.any fun row => row.reservationId = reservation.reservationId then
    .error "UNIQUE constraint failed: order_reservations.reservation_id"
  else .ok { store with reservations := store.reservations ++ [reservation] }

def releaseReservation (reservationId : String) : Store :=
  { store with
    reservations := store.reservations.map fun row =>
      if row.reservationId = reservationId then { row with active := false } else row }

def hasKey (dedupeKey : String) : Bool :=
  store.idempotencyKeys.any fun row => row.1 = dedupeKey

def insertKey (intent : OrderIntent) : Store :=
  { store with
    idempotencyKeys := store.idempotencyKeys ++ [(intent.dedupeKey, intent.intentId)] }

end Store

inductive Write
  | order (order : Order)
  | reservation (reservation : Reservation)
  | release (reservationId : String)

def Write.apply (store : Store) : Write → Except String Store
  | .order row => store.saveOrder row
  | .reservation row => store.saveReservation row
  | .release id => .ok (store.releaseReservation id)

inductive Ending
  | finished
  | raised (message : String)
  | crashed
deriving DecidableEq

/-- The calls in turn. The process crashes after `limit` of them, if there is a limit; a call that
    raises ends the stretch. -/
def perform : List Write → Option Nat → Store → Ending × Store
  | [], limit, store => (if limit = some 0 then .crashed else .finished, store)
  | write :: rest, limit, store =>
    if limit = some 0 then (.crashed, store)
    else
      match write.apply store with
      | .ok next => perform rest (limit.map (· - 1)) next
      | .error message => (.raised message, store)

/-- What `_submit_serialized` saves for an admitted intent; each of the three states may follow
    the one before it. -/
def OrderIntent.writes (intent : OrderIntent) : List Write :=
  [.order (intent.order .admitted), .order (intent.order .reserved),
    .order (intent.order .submitting),
    .reservation
      { reservationId := reservationId intent.intentId
        orderId := intent.intentId
        amount := intent.amount
        currency := intent.currency.getD "USD" }]

def settlement (order : Order) (state : OrderState) : List Write :=
  .order { order with state := state } ::
    if state = .rejectedRemote then [.release (reservationId order.internalOrderId)] else []

def rebuildProjections (known remote : List Order) : List Write :=
  remote.filterMap fun order =>
    match known.find? fun row => row.internalOrderId = order.internalOrderId with
    | none => some (.order order)
    | some row =>
      if row.state ≠ order.state then some (.order { row with state := order.state }) else none

/-! ### The process -/

structure Coordinator where
  accountId : String
  submitBreaker : Option CircuitConfig := none
  maxsize : Nat := 128

structure Submission where
  lock : String
  order : Order
deriving DecidableEq

structure Node where
  store : Store := {}
  breaker : CircuitBreaker := {}
  queue : List OrderIntent := []
  submissions : List Submission := []
  /-- What each reconciliation that waits for the broker has read. -/
  snapshots : List (List Order) := []
  /-- History: the intents passed to the adapter, with their rows at that time. -/
  calls : List (OrderIntent × Option Order) := []
  /-- History: the orders that crashes left in `SUBMITTING`. -/
  abandoned : List String := []

structure Checks where
  leadership : Bool := true
  connection : Bool := true
  now : ℚ

inductive AdapterOutcome
  | result (state : OrderState)
  /-- `BrokerAdapterError`. -/
  | failed (code : String)
  /-- Any other exception, which `_submit_serialized` does not catch. -/
  | raised

/-- One call of `submit_order`: whether `dequeue` times out, what the checks see, and the number
    of store calls before a crash. -/
structure SubmitCall where
  intent : OrderIntent
  timedOut : Bool := false
  checks : Checks
  crash : Option Nat := none

inductive Event
  | submit (call : SubmitCall)
  | answer (index : Nat) (outcome : AdapterOutcome) (now : ℚ) (crash : Option Nat)
  | tradingAllowed (checks : Checks)
  | beginReconcile
  /-- The broker's open and settled orders, or a query that failed. -/
  | endReconcile (index : Nat) (remote : Option (List Order)) (crash : Option Nat)
  | crash

def getPendingUnknown (accountId : String) (store : Store) : List Order :=
  (store.listOrders accountId).filter fun order =>
    order.state = .unknown ∨ order.state = .reconciling

namespace Coordinator

variable (coordinator : Coordinator)

def admits (now : ℚ) (breaker : CircuitBreaker) : Bool × CircuitBreaker :=
  match coordinator.submitBreaker with
  | none => (true, breaker)
  | some config => breaker.canExecute config now

def isTradingAllowed (checks : Checks) (breaker : CircuitBreaker) (store : Store) :
    Bool × CircuitBreaker :=
  if checks.leadership = false ∨ checks.connection = false then (false, breaker)
  else
    let admission := coordinator.admits checks.now breaker
    (admission.1 && (getPendingUnknown coordinator.accountId store).isEmpty, admission.2)

def record (outcome : AdapterOutcome) (now : ℚ) (breaker : CircuitBreaker) : CircuitBreaker :=
  match coordinator.submitBreaker, outcome with
  | some config, .result _ => breaker.recordSuccess config now
  | some config, .failed _ => breaker.recordFailure config now
  | _, _ => breaker

end Coordinator

def AdapterOutcome.state : AdapterOutcome → Option OrderState
  | .result state => some state
  | .failed code =>
    some (if "TIMEOUT".toList <:+: code.toList then .unknown else .rejectedRemote)
  | .raised => none

namespace Node

variable (coordinator : Coordinator) (node : Node)

def restart : Node where
  store := node.store
  calls := node.calls
  abandoned := node.abandoned ++
    (node.store.orders.filter fun row => row.state = .submitting).map (·.internalOrderId)

def after (performed : Ending × Store) : Node :=
  let node := { node with store := performed.2 }
  if performed.1 = .crashed then node.restart else node

/-- The stretch of `_submit_serialized` up to the call of the adapter. -/
def submitSerialized (call : SubmitCall) (intent : OrderIntent) : Node :=
  if (node.store.listOrders coordinator.accountId).any fun row =>
      row.dedupeKey = intent.dedupeKey then node
  else
    let allowed := coordinator.isTradingAllowed call.checks node.breaker node.store
    let node := { node with breaker := allowed.2 }
    if allowed.1 = false then node
    else if call.crash = some 0 then node.restart
    else if node.store.hasKey intent.dedupeKey then node
    else
      let performed := perform intent.writes (call.crash.map (· - 1)) (node.store.insertKey intent)
      if performed.1 = .finished then
        { node with
          store := performed.2
          submissions := node.submissions ++
            [{ lock := call.intent.asset, order := intent.order .submitting }]
          calls := node.calls ++ [(intent, performed.2.getOrder intent.intentId)] }
      else node.after performed

def dequeued (call : SubmitCall) : OrderIntent :=
  node.queue.headD call.intent

/-- The call goes on to `_submit_serialized`: it is of this account, the lock of its asset is free
    and the queue has taken its intent and given one out. -/
def Proceeds (call : SubmitCall) : Prop :=
  call.intent.accountId = coordinator.accountId ∧
    (∀ submission ∈ node.submissions, submission.lock ≠ call.intent.asset) ∧
    node.queue.length < coordinator.maxsize ∧ call.timedOut = false

instance (call : SubmitCall) : Decidable (node.Proceeds coordinator call) :=
  inferInstanceAs (Decidable (_ ∧ _ ∧ _ ∧ _))

/-- `submit_order` up to the call of the adapter. A call that finds the lock taken waits; an
    intent whose `dequeue` timed out stays in the queue. -/
def submit (call : SubmitCall) : Node :=
  if node.Proceeds coordinator call then
    { node with queue := (node.queue ++ [call.intent]).tail }.submitSerialized coordinator call
      (node.dequeued call)
  else if call.timedOut ∧ node.Proceeds coordinator { call with timedOut := false } then
    { node with queue := node.queue ++ [call.intent] }
  else node

def answer (index : Nat) (outcome : AdapterOutcome) (now : ℚ) (crash : Option Nat) : Node :=
  match node.submissions[index]? with
  | none => node
  | some submission =>
    let node := { node with
      submissions := node.submissions.eraseIdx index
      breaker := coordinator.record outcome now node.breaker }
    match outcome.state with
    | none => node
    | some state => node.after (perform (settlement submission.order state) crash node.store)

/-- The rest of `reconcile`; a query that fails changes nothing. -/
def endReconcile (index : Nat) (remote : Option (List Order)) (crash : Option Nat) : Node :=
  match node.snapshots[index]?, remote with
  | some known, some remote =>
    { node with snapshots := node.snapshots.eraseIdx index }.after
      (perform (rebuildProjections known remote) crash node.store)
  | _, _ => { node with snapshots := node.snapshots.eraseIdx index }

def step : Event → Node
  | .submit call => node.submit coordinator call
  | .answer index outcome now crash => node.answer coordinator index outcome now crash
  | .tradingAllowed checks =>
    { node with
      breaker := (coordinator.isTradingAllowed checks node.breaker node.store).2 }
  | .beginReconcile =>
    { node with
      snapshots := node.snapshots ++ [node.store.listOrders coordinator.accountId] }
  | .endReconcile index remote crash => node.endReconcile index remote crash
  | .crash => node.restart

end Node

end TradingLab.Foundation
