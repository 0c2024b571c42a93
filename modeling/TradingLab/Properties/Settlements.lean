import TradingLab.Persistence.Moves
import TradingLab.Properties.Delivery

/-!
# What settles an order

Two operations settle orders with a result: a broker event and reconciliation evidence. Each settles
at most one order and counts a digit order in the digit row in the same transaction.
-/
namespace TradingLab

open Relational
open Database
open Operation

/-! ### Settled orders -/

namespace Database

/-- The P&L of the intent's order, if the order is SETTLED. -/
def settledPnl (db : Database) (intentId : String) : Option (Option Int) :=
  (db.order intentId).bind fun o => if o.state = .settled then some o.realizedPnlMinor else none

def hasSettled (db : Database) (intentId : String) : Bool :=
  (db.settledPnl intentId).isSome

def isDigitIntent (db : Database) (intentId : String) : Bool :=
  (db.intent intentId).any fun ti => isDigitProduct ti.product

variable {db : Database} {i : String} {o : OrderRow}

theorem settledPnl_of_settled (found : db.order i = some o) (settled : o.state = .settled) :
    db.settledPnl i = some o.realizedPnlMinor := by
  simp only [settledPnl, found, Option.bind_some, if_pos settled]

theorem settledPnl_of_open
    (found : db.order i = some o) (open_ : o.state ≠ .settled) : db.settledPnl i = none := by
  simp only [settledPnl, found, Option.bind_some, if_neg open_]

theorem settledPnl_eq_some {pnl : Option Int} (h : db.settledPnl i = some pnl) :
    ∃ o, db.order i = some o ∧ o.state = .settled ∧ o.realizedPnlMinor = pnl := by
  simp only [settledPnl, Option.bind_eq_some_iff] at h
  obtain ⟨o, found, h⟩ := h
  split at h
  · rename_i settled
    exact ⟨o, found, settled, Option.some.inj h⟩
  · cases h

end Database

variable {db : Database}

theorem Reachable.settledPnl_kept (reachable : Reachable db) (op : WriterOp)
    {i : String} {pnl : Option Int} (before : db.settledPnl i = some pnl) :
    (writerStep db op).settledPnl i = some pnl := by
  obtain ⟨o, found, settled, given⟩ := settledPnl_eq_some before
  have frozen := reachable.exposure_frozen found (by rw [settled]; rfl) [op]
  rw [Machine.run_cons, Machine.run_nil] at frozen
  obtain ⟨r, -, reserved, -⟩ := reachable.encoded found
  simp only [exposure, found, reserved, Option.bind_some, Option.map_some,
    Option.bind_eq_some_iff, Option.map_eq_some_iff] at frozen
  obtain ⟨o', found', r', -, same⟩ := frozen
  simp only [Exposure.of, Exposure.mk.injEq] at same
  rw [settledPnl_of_settled found' (same.1.trans settled), same.2.1, given]

/-! ### What one operation settles -/

/-- No order settles, and the daily P&L of the digit row stays. A row that was not there
    before starts at zero. -/
structure SettlesNone (db db' : Database) : Prop where
  none : ∀ i, db'.hasSettled i = true → db.hasSettled i = true
  daily : ∀ row', db'.digitRiskRuntime = some row' →
    (∃ row, db.digitRiskRuntime = some row ∧ row'.dailyPnlMinor = row.dailyPnlMinor) ∨
      db.digitRiskRuntime = .none ∧ row'.dailyPnlMinor = 0
  configured : db'.digitRiskRuntime = .none → db.digitRiskRuntime = .none

/-- The order of the intent settles with the result, and a digit order is counted. -/
structure SettlesOne (db db' : Database) (intentId : String) (result : Int) : Prop where
  before : db.hasSettled intentId = false
  after : db'.settledPnl intentId = some (some result)
  others : ∀ j, j ≠ intentId → db'.order j = db.order j
  counted : if db.isDigitIntent intentId then
      ∃ row row', db.digitRiskRuntime = some row ∧ db'.digitRiskRuntime = some row' ∧
        row'.dailyPnlMinor = row.dailyPnlMinor + result
    else db'.digitRiskRuntime = db.digitRiskRuntime

section Operations
variable {db db' : Database} {target : OrderState} {event : BrokerOrderEvent}
  {answer : ReconciliationApplyResult} {attemptId : String} {resolvedAt : Instant}

theorem SettlesNone.of_same (orders : ∀ i, db'.hasSettled i = true → db.hasSettled i = true)
    (digit : db'.digitRiskRuntime = db.digitRiskRuntime) : SettlesNone db db' where
  none := orders
  daily row' present := .inl ⟨row', digit ▸ present, rfl⟩
  configured missing := digit ▸ missing

theorem SettlesNone.trans {middle : Database} (first : SettlesNone db middle)
    (second : SettlesNone middle db') : SettlesNone db db' := by
  constructor
  · intro i settled
    exact first.none i (second.none i settled)
  · intro row' present
    rcases second.daily row' present with ⟨row, between, same⟩ | ⟨missing, zero⟩
    · rcases first.daily row between with ⟨row₀, before, same₀⟩ | ⟨missing, zero⟩
      · exact .inl ⟨row₀, before, same.trans same₀⟩
      · exact .inr ⟨missing, same.trans zero⟩
    · exact .inr ⟨first.configured missing, zero⟩
  · intro missing
    exact first.configured (second.configured missing)

theorem OrderMoved.settlesNone {intentId : String}
    (moved : OrderMoved db db' intentId target) (other : target ≠ .settled) :
    SettlesNone db db' := by
  apply SettlesNone.of_same
  · intro i settled
    by_cases here : i = intentId
    · subst here
      obtain ⟨_, o', -, found', -, state, -⟩ := moved.here
      rw [Database.hasSettled, settledPnl_of_open found' (state ▸ other)] at settled
      cases settled
    · rw [Database.hasSettled, Database.settledPnl, ← moved.elsewhere i here]
      exact settled
  · rw [moved.frame]

theorem MovedAlong.settlesNone {allowed : OrderState → Prop} (chain : MovedAlong allowed db db')
    (other : ¬ allowed .settled) : SettlesNone db db' := by
  induction chain with
  | refl => exact .of_same (fun _ settled => settled) rfl
  | tail _ step ih =>
    obtain ⟨i, s, permitted, moved⟩ := step
    apply ih.trans (moved.settlesNone _)
    rintro rfl
    exact other permitted

/-! #### Events and evidence -/

theorem counted_of_settlement {base next : Database} (reachable : Reachable db) {o : OrderRow}
    {ti : IntentRow} (found : db.orderById o.orderId = some o) (open_ : o.state ≠ .settled)
    (intent : db.intent o.intentId = some ti) (same : base.digitRiskRuntime = db.digitRiskRuntime)
    {symbol currency settlementId : String} {result : Int} {occurredAt : Instant}
    (applied : base.applyDigitRuntimeSettlement ti.product symbol currency result o.orderId
      settlementId occurredAt = .ok next) (stored : db'.digitRiskRuntime = next.digitRiskRuntime) :
    if db.isDigitIntent o.intentId then
      ∃ row row', db.digitRiskRuntime = some row ∧ db'.digitRiskRuntime = some row' ∧
        row'.dailyPnlMinor = row.dailyPnlMinor + result
    else db'.digitRiskRuntime = db.digitRiskRuntime := by
  have kind : db.isDigitIntent o.intentId = isDigitProduct ti.product := by
    simp only [Database.isDigitIntent, intent, Option.any_some]
  rw [stored]
  generalize db.isDigitIntent o.intentId = digit at kind ⊢
  rcases applyDigitRuntimeSettlement_eq_ok applied with
    ⟨other, after⟩ | ⟨row, isDigit, present, -, ⟨seen, -⟩ | ⟨-, after⟩⟩
  · rw [kind.trans other, if_neg Bool.false_ne_true, after, same]
  · -- The row has counted settled orders only.
    exact absurd seen (reachable.lastOrderId_ne found open_ (same ▸ present))
  · rw [kind.trans isDigit, if_pos rfl, after]
    exact ⟨row, _, same ▸ present, rfl, rfl⟩

theorem SettlesNone.of_order {i : String} {o' : OrderRow}
    (order : ∀ j, db'.order j = if j = i then some o' else db.order j)
    (kept : o'.state = .settled → db.hasSettled i = true)
    (digit : db'.digitRiskRuntime = db.digitRiskRuntime) : SettlesNone db db' := by
  apply SettlesNone.of_same _ digit
  intro j settled
  by_cases here : j = i
  · subst here
    obtain ⟨pnl, present⟩ := Option.isSome_iff_exists.mp settled
    obtain ⟨o, found, state, -⟩ := settledPnl_eq_some present
    rw [order, if_pos rfl] at found
    cases found
    exact kept state
  · rw [Database.hasSettled, Database.settledPnl, ← (order j).trans (if_neg here)]
    exact settled

def BrokerEventApplyResult.settles (answer : BrokerEventApplyResult) : Prop :=
  (answer.status = .applied ∨ answer.status = .appliedWithGap) ∧
    answer.orderState = some .settled

instance (answer : BrokerEventApplyResult) : Decidable answer.settles := by
  unfold BrokerEventApplyResult.settles
  infer_instance

theorem externalStatus_eq_settled {status : ExternalOrderStatus}
    (named : orderStateForExternalStatus status = some .settled) : status = .settled := by
  cases status <;> first | rfl | cases named

theorem open_of_live {row : OrderRow}
    (live : terminalBrokerEventResult row event target = none) : row.state ≠ .settled := by
  intro ended
  obtain ⟨reply, answered⟩ := terminalBrokerEventResult_of_settled ended event target
  rw [answered] at live
  cases live

theorem appliedStatus_applied (row : OrderRow) (event : BrokerOrderEvent) :
    appliedStatus row event = .applied ∨ appliedStatus row event = .appliedWithGap := by
  unfold appliedStatus
  split
  · exact .inr rfl
  · exact .inl rfl

/-- **An event settles an order exactly when it is applied and names SETTLED.** -/
theorem event_settlement (reachable : Reachable db)
    {receivedAt : Instant} {answer : BrokerEventApplyResult}
    (h : applyNormalizedBrokerEvent event receivedAt db = .ok (answer, db')) :
    (¬ answer.settles ∧ SettlesNone db db' ∧ db'.digitRiskRuntime = db.digitRiskRuntime) ∨
      answer.settles ∧ ∃ o result, db.orderById event.clientOrderRef = some o ∧
        event.resultMinor = some result ∧ SettlesOne db db' o.intentId result := by
  rcases applyNormalizedBrokerEvent_cases h with
    ⟨inbox, status⟩ | ⟨row, ti, target, moved, -, byId, intent, classified, -, effect, settles, rfl⟩
  · refine .inl ⟨?_, ?_, ?_⟩
    · rintro ⟨applied, -⟩
      rcases status with s | s | s <;> rw [s] at applied <;> rcases applied with a | a <;> cases a
    · rw [inbox]
      exact .of_same (fun _ settled => settled) rfl
    · rw [inbox]
  obtain ⟨named, agrees, -, live, -⟩ := classifyEvent_target classified
  have order : ∀ j, db'.order j = if j = row.intentId then
      some (row.afterEvent event target receivedAt) else db.order j := by
    obtain ⟨digitRow, rfl⟩ := settleDigitEvent_frame settles
    exact effect.order
  by_cases settled : target = .settled
  · subst settled
    have status := externalStatus_eq_settled named
    have open_ := open_of_live live
    have found := order_of_orderById byId
    obtain ⟨result, currency, given, paid⟩ := event.result_of_settled status
    refine .inr ⟨⟨appliedStatus_applied row event, rfl⟩, row, result, byId, given, ?_⟩
    constructor
    case before => rw [Database.hasSettled, settledPnl_of_open found open_]; rfl
    case after =>
      rw [settledPnl_of_settled ((order row.intentId).trans (if_pos rfl))
        (row.afterEvent_state event .settled receivedAt)]
      exact congrArg some (row.afterEvent_realizedPnlMinor event receivedAt open_ given)
    case others => exact fun j other => (order j).trans (if_neg other)
    case counted =>
      obtain ⟨-, ⟨product, -⟩, -⟩ := brokerEventMatchingConflict_eq_none.mp agrees
      simp only [settleDigitEvent, given, paid, if_true, product] at settles
      rw [← (Table.mem_of_lookup byId).2] at byId
      exact counted_of_settlement reachable byId open_ intent effect.digit settles rfl
  · left
    have digit : db'.digitRiskRuntime = db.digitRiskRuntime := by
      rw [← effect.digit]
      simp only [settleDigitEvent, if_neg settled] at settles
      split at settles <;> cases settles <;> rfl
    refine ⟨fun answered => settled (Option.some.inj answered.2), ?_, digit⟩
    exact .of_order order (fun state => absurd state (by rwa [OrderRow.afterEvent_state])) digit

/-- **Evidence settles an order exactly when it resolves an order that was not SETTLED, and
    reports SETTLED.** -/
theorem evidence_settlement (reachable : Reachable db) {evidence : ReconciliationEvidence}
    (h : applyReconciliationEvidence attemptId evidence resolvedAt db = .ok (answer, db')) :
    ∃ o, db.orderOfStartedAttempt attemptId = some o ∧
      ((¬ (answer.status = .resolved ∧ answer.orderState = .settled ∧ o.state ≠ .settled) ∧
          SettlesNone db db' ∧ db'.digitRiskRuntime = db.digitRiskRuntime) ∨
        (answer.status = .resolved ∧ answer.orderState = .settled ∧ o.state ≠ .settled) ∧
          ∃ result, evidence.realizedPnlMinor = some result ∧
            SettlesOne db db' o.intentId result) := by
  obtain ⟨row, ti, started, intent, -, ⟨only, unresolved, -⟩ | ⟨target, -, named, applied, rfl⟩⟩ :=
    applyReconciliationEvidence_cases h
  · refine ⟨row, started, .inl ⟨fun resolved => unresolved resolved.1, ?_, ?_⟩⟩
    · rw [only]
      exact .of_same (fun _ settled => settled) rfl
    · rw [only]
  obtain ⟨attempt, -, -, byId⟩ := orderOfStartedAttempt_spec started
  have found := order_of_orderById byId
  rw [← (Table.mem_of_lookup byId).2] at byId
  refine ⟨row, started, ?_⟩
  have digit := applied.digit
  simp only [settleDigitEvidence] at digit
  by_cases settled : target = .settled ∧ row.state ≠ .settled
  · obtain ⟨rfl, open_⟩ := settled
    obtain ⟨result, given⟩ := evidence.pnl_of_settled (externalStatus_eq_settled named)
    refine .inr ⟨⟨rfl, rfl, open_⟩, result, given, ?_⟩
    constructor
    case before => rw [Database.hasSettled, settledPnl_of_open found open_]; rfl
    case after =>
      rw [settledPnl_of_settled ((applied.order row.intentId).trans (if_pos rfl))
        (row.afterEvidence_state evidence .settled resolvedAt)]
      exact congrArg some (row.afterEvidence_realizedPnlMinor evidence resolvedAt open_ given)
    case others => exact fun j other => (applied.order j).trans (if_neg other)
    case counted =>
      simp only [given, ne_eq, open_, not_false_eq_true, and_self, if_true] at digit
      exact counted_of_settlement reachable byId open_ intent rfl digit rfl
  · have same : db'.digitRiskRuntime = db.digitRiskRuntime := by
      simp only [if_neg settled] at digit
      split at digit
      all_goals exact (congrArg Database.digitRiskRuntime (Except.ok.inj digit)).symm
    refine .inl ⟨fun resolved => settled resolved.2, .of_order applied.order ?_ same, same⟩
    -- Evidence that settles again finds its order settled.
    intro state
    rw [OrderRow.afterEvidence_state] at state
    have ended : row.state = .settled := by
      by_contra open_
      exact settled ⟨state, open_⟩
    rw [Database.hasSettled, settledPnl_of_settled found ended]
    rfl

/-! #### The other operations -/

theorem settlesNone_of_creates (created : Creates db db') : SettlesNone db db' := by
  obtain ⟨request, _, intentId, _, orderId, createdAt, _, persisted⟩ := created
  obtain ⟨-, -, -, -, frame⟩ := persist_inserts persisted
  have order : ∀ j, db'.order j = if j = intentId then
      some (newOrder request intentId orderId createdAt) else db.order j := by
    intro j
    rw [order_created persisted]
    simp only [eq_comm]
  apply SettlesNone.of_order order _ (by rw [frame])
  intro state
  cases state

theorem notFound_settlesNone {evidence : NotFoundEvidence} {policy : NotFoundPolicy}
    (h : applyReconciliationNotFound attemptId evidence policy resolvedAt db = .ok (answer, db')) :
    SettlesNone db db' ∧ db'.digitRiskRuntime = db.digitRiskRuntime := by
  obtain ⟨row, -, -, ⟨frame, -⟩ | ⟨-, applied, -⟩⟩ := applyReconciliationNotFound_cases h
  · rw [frame]
    exact ⟨.of_same (fun _ settled => settled) rfl, rfl⟩
  · have digit : db'.digitRiskRuntime = db.digitRiskRuntime := by rw [applied.frame]
    refine ⟨.of_order applied.order ?_ digit, digit⟩
    intro state
    rw [OrderRow.afterNotFound_state] at state
    cases state

theorem dispatchOutcome_ne_settled {outcome : String} {reasonCode : Option String}
    {outboxState : OutboxState} {reason : Option String}
    (h : dispatchOutcome outcome reasonCode = some (outboxState, target, reason)) :
    target ≠ .settled := by
  unfold dispatchOutcome at h
  repeat' split at h
  all_goals cases h <;> decide

theorem configure_settlesNone {policy : DigitRuntimePolicy} {reset : Bool} {now : Instant}
    (h : configureDigitRiskRuntime policy reset now db = .ok ((), db')) : SettlesNone db db' := by
  obtain ⟨-, row', rfl, kind⟩ := configureDigitRiskRuntime_cases h
  constructor
  case none => exact fun _ settled => settled
  case configured =>
    intro missing
    cases missing
  case daily =>
    intro row present
    cases present
    rcases kind with ⟨missing, fields⟩ | ⟨row, present, -, fields⟩
    · exact .inr ⟨missing, by rw [fields]; rfl⟩
    · refine .inl ⟨row, present, ?_⟩
      rw [fields]
      cases reset <;> rfl

theorem expire_settlesNone {checkedAt : Instant} {answer : Option DigitRiskRuntime}
    (h : expireDigitCooldown checkedAt db = .ok (answer, db')) : SettlesNone db db' := by
  obtain ⟨-, rfl | ⟨row, row', present, rfl, fields⟩⟩ := expireDigitCooldown_cases h
  · exact .of_same (fun _ settled => settled) rfl
  constructor
  case none => exact fun _ settled => settled
  case configured =>
    intro missing
    cases missing
  case daily =>
    intro row₁ same
    cases same
    exact .inl ⟨row, present, by rw [fields]; rfl⟩

end Operations

/-- Operations that the Core uses: all but the legacy event and the explicit release after
    a reconciliation, which end an order without a result. -/
def WriterOp.isRegular : WriterOp → Bool
  | .applyBrokerEvent _ _ => false
  | .releaseAfterReconciliation _ _ _ _ => false
  | _ => true

def WriterOp.isReset : WriterOp → Bool
  | .resetDigitTestSessionIfFlat _ => true
  | _ => false

/-- **Every committed operation settles no order, or exactly one.** -/
theorem WriterOp.settlement {op : WriterOp} {db' : Database} (reachable : Reachable db)
    (regular : op.isRegular = true) (kept : op.isReset = false) (h : op.body db = .ok ((), db')) :
    SettlesNone db db' ∨ ∃ i result, SettlesOne db db' i result := by
  cases op with
  | persistIntentReservationOutbox =>
    exact .inl (settlesNone_of_creates ⟨_, _, _, _, _, _, _, h⟩)
  | claimNextMessage =>
    obtain ⟨_, h⟩ := silent_eq_ok h
    rcases claimNextMessage_moved h with ⟨-, rfl⟩ | ⟨_, moved⟩
    · exact .inl (.of_same (fun _ settled => settled) rfl)
    · exact .inl (moved.settlesNone (by decide))
  | recordDispatchResult =>
    obtain ⟨_, _, _, named, moved⟩ := recordDispatchResult_moved h
    exact .inl (moved.settlesNone (dispatchOutcome_ne_settled named))
  | recordDispatchNotSent => exact .inl ((recordDispatchNotSent_moved h).settlesNone (by decide))
  | cancelExpiredBeforeDispatch =>
    simp only [WriterOp.body, TradingLab.cancelExpiredBeforeDispatch, Except.bind_ok_iff] at h
    obtain ⟨next, cancelled, h⟩ := h
    cases h
    exact .inl ((cancel_moved cancelled).settlesNone (by decide))
  | recoverInterruptedDispatches =>
    obtain ⟨_, h⟩ := silent_eq_ok h
    exact .inl ((recoverInterruptedDispatches_moved h).settlesNone (by decide))
  | cancelExpiredPendingMessages =>
    obtain ⟨_, h⟩ := silent_eq_ok h
    exact .inl ((cancelExpiredPendingMessages_moved h).settlesNone (by decide))
  | applyBrokerEvent => cases regular
  | applyNormalizedBrokerEvent =>
    obtain ⟨_, h⟩ := silent_eq_ok h
    rcases event_settlement reachable h with ⟨-, none, -⟩ | ⟨-, o, result, -, -, one⟩
    · exact .inl none
    · exact .inr ⟨o.intentId, result, one⟩
  | beginReconciliationAttempt =>
    rw [(beginReconciliationAttempt_begins h).1]
    exact .inl (.of_same (fun _ settled => settled) rfl)
  | completeReconciliationAttempt =>
    rw [(completeReconciliationAttempt_finished h).1]
    exact .inl (.of_same (fun _ settled => settled) rfl)
  | applyReconciliationEvidence =>
    obtain ⟨_, h⟩ := silent_eq_ok h
    obtain ⟨o, -, ⟨-, none, -⟩ | ⟨-, result, -, one⟩⟩ := evidence_settlement reachable h
    · exact .inl none
    · exact .inr ⟨o.intentId, result, one⟩
  | applyReconciliationNotFound =>
    obtain ⟨_, h⟩ := silent_eq_ok h
    exact .inl (notFound_settlesNone h).1
  | releaseReservation =>
    rw [releaseReservation_frame h]
    exact .inl (.of_same (fun _ settled => settled) rfl)
  | releaseAfterReconciliation => cases regular
  | configureDigitRiskRuntime => exact .inl (configure_settlesNone h)
  | resetDigitTestSessionIfFlat => cases kept
  | expireDigitCooldown =>
    obtain ⟨_, h⟩ := silent_eq_ok h
    exact .inl (expire_settlesNone h)

end TradingLab
