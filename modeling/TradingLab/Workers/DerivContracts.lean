import TradingLab.Machine.Queue
import TradingLab.Relational.Dict
import TradingLab.Workers.DerivReconciliation

/-!
# Contract messages

`DerivLiveOrderSession.on_proposal_open_contract_message`. The counter of the events of a contract
lives in its tracking entry. The session forgets the entry once the contract is settled, and a
message that carries the passthrough of its order makes a new one.
-/
namespace TradingLab

open Machine (Program BoundedQueue)
open Relational (Dict)
open DerivReconciliationHandler (flag number minorUnits)
open Machine.Program

/-- The session together with its queue of events. -/
structure DerivLiveOrderSession extends DerivOrderSession where
  events : BoundedQueue BrokerOrderEvent

/-- A method of the session that does not need an answer of its transport. -/
abbrev SessionProgram := Program DerivException DerivLiveOrderSession

namespace DerivLiveOrderSession

def started (accountId : String) (eventQueueSize : Int) : DerivLiveOrderSession where
  accountId := accountId
  demoAuthenticated := true
  tracked := []
  trackedByOrderId := []
  subscribedContracts := []
  contractSubscriptionIds := []
  events := .empty eventQueueSize

/-! ### Tracking -/

/-- `poc.get("passthrough") or raw.get("passthrough")`, where it is an object. -/
def passthroughOf (raw poc : Fields) : Option Fields :=
  let own := Fields.get poc "passthrough"
  (if own.truthy then own else Fields.get raw "passthrough").asObject

def money (minorUnits : Int) (currency : String) : Except DerivException Money :=
  match Money.make minorUnits currency with
  | .ok amount => .ok amount
  | .error _ => .error .valueError

/-- `int(str(poc["barrier"])) if poc.get("barrier") is not None else None`. -/
def barrierDigit (barrier : Json) : Except DerivException (Option Int) :=
  if barrier.isNull then .ok none
  else match barrier.asInt with
  | some digit => .ok (some digit)
  | none => .error .valueError

def recreateOrder (accountId : String) (raw poc : Fields) (contractId : String) (now : Instant) :
    Except DerivException (Option TrackedDerivOrder) :=
  match passthroughOf raw poc with
  | none => .ok none
  | some passthrough => do
    let orderId := (Fields.getD passthrough "order_id" (.str "")).text
    let correlationId := (Fields.getD passthrough "correlation_id" (.str "")).text
    let contractType := upperText (Fields.getD poc "contract_type" (.str "CALL")).text
    let buyPrice ← number (Fields.getD poc "buy_price" (.int 0))
    if orderId = "" ∨ correlationId = "" then .ok none
    else do
      let buyPriceMinor ← minorUnits buyPrice
      let amount ← money buyPriceMinor (Fields.getD poc "currency" (.str "USD")).text
      let predictionDigit ← barrierDigit (Fields.get poc "barrier")
      .ok (some
        { orderId := orderId
          correlationId := correlationId
          intentId := (Fields.getD passthrough "intent_id" (.str "reconciled-live-order")).text
          symbol := (Fields.getD poc "underlying" (.str "")).text
          direction := if contractType = "PUT" then .put else .call
          amount := amount
          contractId := contractId
          accountId := accountId
          buyPriceMinor := buyPriceMinor
          buyTimeUtc := now
          product := if digitProducts.contains contractType then contractType else "DIGITAL_OPTION"
          predictionDigit := predictionDigit })

/-- `self._tracked[contract_id] = tracked`, and the same under the id of the order. -/
def keepTracked (contractId : String) (tracked : TrackedDerivOrder)
    (session : DerivLiveOrderSession) : DerivLiveOrderSession :=
  { session with
    tracked := putEntry session.tracked contractId tracked
    trackedByOrderId := putEntry session.trackedByOrderId tracked.orderId tracked }

def trackContract (raw poc : Fields) (contractId : String) (now : Instant) :
    SessionProgram (Option TrackedDerivOrder) := do
  let session ← Program.get
  match findEntry session.tracked contractId with
  | some tracked => pure (some tracked)
  | none => do
    let recreated ← Program.lift (recreateOrder session.accountId raw poc contractId now)
    match recreated with
    | none => pure none
    | some tracked => do
      Program.modify (keepTracked contractId tracked)
      pure (some tracked)

/-- The entry of the contract with its counter moved on. Both maps hold the one object. -/
def countUp (contractId : String) (tracked : TrackedDerivOrder)
    (session : DerivLiveOrderSession) : DerivLiveOrderSession :=
  let counted := { tracked with sequenceCounter := tracked.sequenceCounter + 1 }
  { session with
    tracked := putEntry session.tracked contractId counted
    trackedByOrderId := session.trackedByOrderId.map fun entry =>
      if entry.1 = tracked.orderId ∧ entry.2.contractId = contractId then (entry.1, counted)
      else entry }

def nextSequence (contractId : String) (tracked : TrackedDerivOrder) : SessionProgram Nat := do
  Program.modify (countUp contractId tracked)
  pure (tracked.sequenceCounter + 1)

/-! ### The event -/

/-- `str(poc.get("status", "open")).lower()`. -/
def contractStatus (poc : Fields) : String :=
  lowerText (Fields.getD poc "status" (.str "open")).text

def isSettled (poc : Fields) : Except DerivException Bool := do
  let isSold ← flag (Fields.getD poc "is_sold" (.int 0))
  let isExpired ← flag (Fields.getD poc "is_expired" (.int 0))
  .ok (isExpired || isSold || ["won", "lost", "sold"].contains (contractStatus poc))

structure ContractReport where
  externalStatus : ExternalOrderStatus
  resultMinor : Option Int
  resultCurrency : Option String
  secondsRemaining : Option Int
  currentSpot : Option DecimalText

/-- `str(value)`, and what `Decimal` makes of it; `None` stays `None`. -/
def spotText (value : Json) : Option DecimalText :=
  if value.isNull then none
  else some ⟨value.text, match decimalOfText value.text with
    | none => .invalid
    | some number => if number.isFinite then .finite number.value else .notFinite⟩

/-- The profit of a settled contract. `buy_price_minor / 100` is a float whose text is the exact
    quotient for every amount of at most 15 digits. -/
def profitOf (tracked : TrackedDerivOrder) (poc : Fields) : Except DerivException Decimal := do
  let profit := Fields.get poc "profit"
  if profit.isNull = false then number profit
  else do
    let payout ← number (Fields.getD poc "payout" (.int 0))
    let price ← number
      (Fields.getD poc "buy_price" (.decimal (stakeOf tracked.buyPriceMinor)))
    match Decimal.sub decimalPrecision payout price with
    | some difference => .ok difference
    | none => .error .arithmeticError

def settledReport (tracked : TrackedDerivOrder) (poc : Fields) :
    Except DerivException ContractReport := do
  let profit ← profitOf tracked poc
  let resultMinor ← minorUnits profit
  let exitTick := Fields.getD poc "exit_tick" (Fields.get poc "exit_spot")
  DerivOrderSession.checkDigitSettlement tracked.product tracked.predictionDigit
    (contractStatus poc) profit exitTick
  .ok
    { externalStatus := .settled
      resultMinor := some resultMinor
      resultCurrency :=
        some (upperText (Fields.getD poc "currency" (.str tracked.amount.currency)).text)
      secondsRemaining := none
      currentSpot := spotText exitTick }

/-- `max(0, int(expiry_raw) - int(now.timestamp()))` of an `int`; a `bool` counts as one. -/
def secondsUntil (expiry : Json) (now : Instant) : Option Int :=
  match expiry with
  | .int epoch => some (max 0 (epoch - epochSeconds now))
  | .bool b => some (max 0 ((if b then 1 else 0) - epochSeconds now))
  | _ => none

def openReport (poc : Fields) (now : Instant) : ContractReport where
  externalStatus := .opened
  resultMinor := none
  resultCurrency := none
  secondsRemaining := secondsUntil (Fields.get poc "date_expiry") now
  currentSpot := spotText (Fields.getD poc "current_spot" (Fields.get poc "bid_price"))

def report (tracked : TrackedDerivOrder) (poc : Fields) (now : Instant) (settled : Bool) :
    Except DerivException ContractReport :=
  if settled then settledReport tracked poc else .ok (openReport poc now)

def eventFields (tracked : TrackedDerivOrder) (contractId eventId : String) (sequence : Nat)
    (now : Instant) (report : ContractReport) : BrokerOrderEventFields :=
  let fields : BrokerOrderEventFields :=
    { eventId := eventId
      eventVersion := 1
      broker := .deriv
      accountId := tracked.accountId
      clientOrderRef := tracked.orderId
      brokerOrderId := contractId
      correlationId := tracked.correlationId
      externalSequence := some sequence
      externalStatus := report.externalStatus
      occurredAt := now
      observedAt := now
      product := tracked.product
      symbol := tracked.symbol
      direction := tracked.direction
      amount := tracked.amount
      resultMinor := report.resultMinor
      resultCurrency := report.resultCurrency
      evidenceHash := ⟨[]⟩
      secondsRemaining := report.secondsRemaining
      currentSpot := report.currentSpot }
  { fields with evidenceHash := fields.expectedEvidenceHash }

def issueEvent (fields : BrokerOrderEventFields) : Except DerivException BrokerOrderEvent :=
  if valid : fields.postInit = .ok () then .ok ⟨fields, valid⟩ else .error .valueError

/-! ### The message -/

/-- The event is queued, if there is room. Afterwards a settled contract is no longer tracked;
    its subscription is forgotten, however the request for that ends. -/
def emit (contractId orderId : String) (settled : Bool) (event : BrokerOrderEvent)
    (session : DerivLiveOrderSession) : DerivLiveOrderSession :=
  let session := { session with events := session.events.put event }
  if settled then
    { session with
      tracked := Dict.erase session.tracked contractId
      trackedByOrderId := Dict.erase session.trackedByOrderId orderId
      subscribedContracts := session.subscribedContracts.filter (· != contractId)
      contractSubscriptionIds := Dict.erase session.contractSubscriptionIds contractId }
  else session

def reportContract (poc : Fields) (contractId : String) (tracked : TrackedDerivOrder)
    (now : Instant) (eventId : String) : SessionProgram (Option BrokerOrderEvent) := do
  let settled ← Program.lift (isSettled poc)
  let sequence ← nextSequence contractId tracked
  let contract ← Program.lift (report tracked poc now settled)
  let event ← Program.lift (issueEvent (eventFields tracked contractId eventId sequence now
    contract))
  Program.modify (emit contractId tracked.orderId settled event)
  pure (some event)

def contractOf (raw : Fields) : Option (Fields × String) :=
  (Fields.get raw "proposal_open_contract").asObject.bind fun poc =>
    let contractId := Fields.get poc "contract_id"
    if contractId.isNull then none else some (poc, contractId.text)

/-- `on_proposal_open_contract_message`; `now` is the clock and `eventId` the fresh `uuid4`. -/
def onProposalOpenContractMessage (raw : Fields) (now : Instant) (eventId : String) :
    SessionProgram (Option BrokerOrderEvent) :=
  match contractOf raw with
  | none => pure none
  | some (poc, contractId) => do
    let tracked ← trackContract raw poc contractId now
    match tracked with
    | none => pure none
    | some tracked => reportContract poc contractId tracked now eventId

def nextQueuedEvent (session : DerivLiveOrderSession) :
    Option BrokerOrderEvent × DerivLiveOrderSession :=
  (session.events.take.1, { session with events := session.events.take.2 })

/-! ### What a message does -/

variable {raw poc : Fields} {contractId eventId : String} {now : Instant}
  {session session' : DerivLiveOrderSession} {tracked : TrackedDerivOrder}

/-- The entry that a message about the contract continues: the one the session has, or else the
    one that the message brings. -/
def Continues (session : DerivLiveOrderSession) (raw poc : Fields) (contractId : String)
    (now : Instant) (tracked : TrackedDerivOrder) : Prop :=
  findEntry session.tracked contractId = some tracked ∨
    findEntry session.tracked contractId = none ∧
      recreateOrder session.accountId raw poc contractId now = .ok (some tracked)

theorem Continues.unique {other : TrackedDerivOrder}
    (one : session.Continues raw poc contractId now tracked)
    (two : session.Continues raw poc contractId now other) : tracked = other := by
  rcases one with here | ⟨absent, brought⟩ <;> rcases two with here' | ⟨absent', brought'⟩
  · exact Option.some.inj (here.symm.trans here')
  · rw [here] at absent'
    cases absent'
  · rw [here'] at absent
    cases absent
  · exact Option.some.inj (Except.ok.inj (brought.symm.trans brought'))

theorem trackContract_cases (session : DerivLiveOrderSession) (raw poc : Fields)
    (contractId : String) (now : Instant) :
    (∃ tracked session', trackContract raw poc contractId now session =
        (.ok (some tracked), session') ∧
      session.Continues raw poc contractId now tracked ∧ session'.events = session.events) ∨
    (trackContract raw poc contractId now session = (.ok none, session) ∧
      ∀ tracked, ¬ session.Continues raw poc contractId now tracked) ∨
    ∃ error, trackContract raw poc contractId now session = (.error error, session) := by
  cases here : findEntry session.tracked contractId with
  | some tracked =>
    refine .inl ⟨tracked, session, ?_, .inl here, rfl⟩
    rw [trackContract, bind_of_ok get_run]
    simp [here]
  | none =>
    cases brought : recreateOrder session.accountId raw poc contractId now with
    | error error =>
      refine .inr (.inr ⟨error, ?_⟩)
      rw [trackContract, bind_of_ok get_run]
      simp only [here]
      rw [bind_of_error (by rw [lift_run, brought])]
    | ok recreated =>
      cases recreated with
      | none =>
        refine .inr (.inl ⟨?_, ?_⟩)
        · rw [trackContract, bind_of_ok get_run]
          simp only [here]
          rw [bind_of_ok (by rw [lift_run, brought])]
          rfl
        · rintro tracked (found | ⟨-, other⟩)
          · rw [here] at found
            cases found
          · rw [brought] at other
            cases other
      | some tracked =>
        refine .inl ⟨tracked, session.keepTracked contractId tracked, ?_, .inr ⟨here, brought⟩, rfl⟩
        rw [trackContract, bind_of_ok get_run]
        simp only [here]
        rw [bind_of_ok (by rw [lift_run, brought])]
        rfl

/-- What an event of the contract says, given the entry it continues. -/
structure Reports (poc : Fields) (contractId : String) (tracked : TrackedDerivOrder)
    (event : BrokerOrderEvent) (session session' : DerivLiveOrderSession) : Prop where
  contract : event.brokerOrderId = contractId
  sequence : event.externalSequence = some ((tracked.sequenceCounter + 1 : Nat) : Int)
  status : event.externalStatus = .settled ↔ isSettled poc = .ok true
  queued : session'.events = session.events.put event
  untracked : isSettled poc = .ok true → findEntry session'.tracked contractId = none

theorem externalStatus_of_report {settled : Bool} {contract : ContractReport}
    (reported : report tracked poc now settled = .ok contract) :
    contract.externalStatus = .settled ↔ settled = true := by
  unfold report at reported
  split at reported
  · rename_i yes
    simp only [settledReport, Except.bind_ok_iff] at reported
    obtain ⟨profit, -, minor, -, _, -, reported⟩ := reported
    cases reported
    exact ⟨fun _ => yes, fun _ => rfl⟩
  · rename_i no
    cases reported
    exact ⟨fun (other : ExternalOrderStatus.opened = .settled) => absurd other (by decide),
      fun yes => absurd yes no⟩

theorem issueEvent_eq_ok {fields : BrokerOrderEventFields} {event : BrokerOrderEvent}
    (issued : issueEvent fields = .ok event) : event.toBrokerOrderEventFields = fields := by
  unfold issueEvent at issued
  split at issued
  · cases issued
    rfl
  · cases issued

theorem emit_events (contractId orderId : String) (settled : Bool) (event : BrokerOrderEvent)
    (session : DerivLiveOrderSession) :
    (emit contractId orderId settled event session).events = session.events.put event := by
  unfold emit
  split <;> rfl

theorem emit_untracked (contractId orderId : String) (event : BrokerOrderEvent)
    (session : DerivLiveOrderSession) :
    findEntry (emit contractId orderId true event session).tracked contractId = none := by
  have erased : Dict.get? (Dict.erase session.tracked contractId) contractId = none := by
    rw [Dict.get?_erase, if_pos rfl]
  exact erased

theorem reportContract_cases (session : DerivLiveOrderSession) (poc : Fields)
    (contractId : String) (tracked : TrackedDerivOrder) (now : Instant) (eventId : String) :
    (∃ error session', reportContract poc contractId tracked now eventId session =
        (.error error, session') ∧ session'.events = session.events) ∨
    ∃ event session', reportContract poc contractId tracked now eventId session =
        (.ok (some event), session') ∧ Reports poc contractId tracked event session session' := by
  unfold reportContract
  cases settles : isSettled poc with
  | error error =>
    refine .inl ⟨error, session, ?_, rfl⟩
    rw [bind_of_error lift_run]
  | ok settled =>
    rw [bind_of_ok lift_run]
    -- The counter has moved on, whatever happens from here.
    have counts : nextSequence contractId tracked session =
        (.ok (tracked.sequenceCounter + 1), session.countUp contractId tracked) := rfl
    rw [bind_of_ok counts]
    cases reported : report tracked poc now settled with
    | error error =>
      refine .inl ⟨error, _, bind_of_error lift_run, rfl⟩
    | ok contract =>
      rw [bind_of_ok lift_run]
      cases issued : issueEvent (eventFields tracked contractId eventId
          (tracked.sequenceCounter + 1) now contract) with
      | error error =>
        refine .inl ⟨error, _, bind_of_error lift_run, rfl⟩
      | ok event =>
        rw [bind_of_ok lift_run]
        refine .inr ⟨event, _, bind_of_ok modify_run, ?_⟩
        have fields := issueEvent_eq_ok issued
        constructor
        case contract => rw [fields]; rfl
        case sequence => rw [fields]; rfl
        case status =>
          rw [fields, settles, Except.ok.injEq]
          exact externalStatus_of_report reported
        case queued => exact emit_events ..
        case untracked =>
          intro yes
          rw [settles] at yes
          cases yes
          exact emit_untracked _ _ _ _

/-- **What a message does.** It leaves the session alone because the contract is not tracked, or
    it raises without touching the queue, or it reports the next event of the contract. -/
theorem onProposalOpenContractMessage_cases (session : DerivLiveOrderSession) (raw : Fields)
    (now : Instant) (eventId : String) :
    (onProposalOpenContractMessage raw now eventId session = (.ok none, session) ∧
      ∀ poc contractId, contractOf raw = some (poc, contractId) →
        ∀ tracked, ¬ session.Continues raw poc contractId now tracked) ∨
    (∃ error session', onProposalOpenContractMessage raw now eventId session =
        (.error error, session') ∧ session'.events = session.events) ∨
    ∃ poc contractId tracked event session', contractOf raw = some (poc, contractId) ∧
      session.Continues raw poc contractId now tracked ∧
      onProposalOpenContractMessage raw now eventId session = (.ok (some event), session') ∧
      Reports poc contractId tracked event session session' := by
  unfold onProposalOpenContractMessage
  cases named : contractOf raw with
  | none => exact .inl ⟨rfl, fun _ _ absurd => (nomatch absurd)⟩
  | some pair =>
    obtain ⟨poc, contractId⟩ := pair
    rcases trackContract_cases session raw poc contractId now with
      ⟨tracked, found, tracks, continues, events⟩ | ⟨tracks, untracked⟩ | ⟨error, tracks⟩
    · simp only [bind_of_ok tracks]
      rcases reportContract_cases found poc contractId tracked now eventId with
        ⟨error, after, raises, same⟩ | ⟨event, after, ends, reports⟩
      · exact .inr (.inl ⟨error, after, raises, same.trans events⟩)
      · refine .inr (.inr ⟨poc, contractId, tracked, event, after, rfl, continues, ends, ?_⟩)
        exact { reports with queued := by rw [reports.queued, events] }
    · simp only [bind_of_ok tracks]
      refine .inl ⟨rfl, fun poc' contractId' named' tracked => ?_⟩
      cases named'
      exact untracked tracked
    · simp only [bind_of_error tracks]
      exact .inr (.inl ⟨error, session, rfl, rfl⟩)

end DerivLiveOrderSession

end TradingLab
