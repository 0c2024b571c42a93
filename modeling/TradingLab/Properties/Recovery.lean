import TradingLab.Properties.AtMostOnce

/-!
# Recovery after a crash

`cancel_expired_pending_messages` always succeeds. `recover_interrupted_dispatches` raises when a
broker event has moved an order on while the message of its dispatch was still DISPATCHING.
-/
namespace TradingLab

open Relational
open Database

/-! ### The recovery loop -/

section RecoveryLoop
variable {db db' : Database} {recoveredAt : Instant} {intentId : String} {intents : List String}

theorem order_recoverDispatch (h : recoverDispatch recoveredAt db intentId = .ok db') (j : String) :
    db'.order j = if j = intentId then
      (db.order j).map fun o => o.reach .unknown recoveredAt none none else db.order j :=
  order_of_transitionOrder h j

theorem canReach_unknown_iff {s : OrderState} :
    s.CanReach .unknown ↔ s = .dispatching ∨ s = .unknown := by
  cases s <;> decide

/-- The order of an interrupted dispatch can be declared UNKNOWN. -/
def Database.Recoverable (db : Database) (intentId : String) : Prop :=
  ∃ o, db.order intentId = some o ∧ o.state.CanReach .unknown

theorem recoverable_iff_of_recoverDispatch
    (h : recoverDispatch recoveredAt db intentId = .ok db') (j : String) :
    db'.Recoverable j ↔ db.Recoverable j := by
  have here : db.Recoverable intentId := by
    obtain ⟨o, found, moved⟩ := transitionOrder_eq_ok h
    exact ⟨o, found, moved.imp (fun same => same.1) fun allowed => allowed.2.1⟩
  by_cases same : j = intentId
  · subst same
    obtain ⟨o, found, can⟩ := here
    refine iff_of_true ⟨_, ?_, .inl (OrderRow.reach_state o .unknown recoveredAt none none)⟩
      ⟨o, found, can⟩
    rw [order_recoverDispatch h, if_pos rfl, found, Option.map_some]
  · rw [Database.Recoverable, Database.Recoverable, order_recoverDispatch h, if_neg same]

theorem recover_loop_ok_iff (recoveredAt : Instant) (intents : List String) :
    (∃ db', intents.foldlM (recoverDispatch recoveredAt) db = .ok db') ↔
      ∀ i ∈ intents, db.Recoverable i := by
  induction intents generalizing db with
  | nil => simp [pure, Except.pure]
  | cons i rest ih =>
    rw [List.foldlM_cons]
    simp only [Except.bind_ok_iff, List.forall_mem_cons]
    constructor
    · rintro ⟨db', next, first, loop⟩
      have remaining := ih.mp ⟨db', loop⟩
      refine ⟨?_, fun j member => (recoverable_iff_of_recoverDispatch first j).mp
        (remaining j member)⟩
      obtain ⟨o, found, moved⟩ := transitionOrder_eq_ok first
      exact ⟨o, found, moved.imp (fun same => same.1) fun allowed => allowed.2.1⟩
    · rintro ⟨⟨o, found, can⟩, remaining⟩
      have found' : (db.updateOutbox (fun m => m.intentId == i && m.state == .dispatching)
          (fun m => { m with state := .ambiguous, stateReason := some "INTERRUPTED_DISPATCH" })
          fun _ => ⟨rfl, rfl⟩).order i = some o := found
      obtain ⟨next, first⟩ : ∃ next, recoverDispatch recoveredAt db i = .ok next :=
        transitionOrder_of_canReach recoveredAt none none found' can
      obtain ⟨db', loop⟩ := ih.mpr fun j member =>
        (recoverable_iff_of_recoverDispatch first j).mpr (remaining j member)
      exact ⟨db', next, first, loop⟩

theorem order_recover_loop
    (h : intents.foldlM (recoverDispatch recoveredAt) db = .ok db') {j : String}
    (elsewhere : j ∉ intents) : db'.order j = db.order j := by
  refine Except.foldlM_invariant (fun next => next.order j = db.order j)
    (fun next i member next' same turn => ?_) h rfl
  have differs : j ≠ i := fun here => elsewhere (here ▸ member)
  rw [order_recoverDispatch turn, if_neg differs, same]

theorem not_dispatching_recover_loop (h : intents.foldlM (recoverDispatch recoveredAt) db = .ok db')
    (all : ∀ m ∈ db.outboxMessages.rows, m.state = .dispatching → m.intentId ∈ intents) :
    ∀ m ∈ db'.outboxMessages.rows, m.state ≠ .dispatching := by
  induction intents generalizing db with
  | nil =>
    cases h
    intro m member state
    exact nomatch all m member state
  | cons i rest ih =>
    rw [List.foldlM_cons, Except.bind_ok_iff] at h
    obtain ⟨next, first, loop⟩ := h
    refine ih loop fun m member state => ?_
    rw [transitionOrder_frame first] at member
    obtain ⟨old, oldMember, rfl⟩ := List.mem_map.mp member
    unfold Table.change at state ⊢
    split at state
    · cases state
    · rename_i kept
      rw [if_neg kept]
      rcases List.mem_cons.mp (all old oldMember state) with here | later
      · exact absurd (by simp [here, state]) kept
      · exact later

end RecoveryLoop

/-! ### The cancellation loop -/

section CancellationLoop
variable {db db' : Database} {checkedAt at_ : Instant} {messageId intentId reason j : String}
  {state : OutboxState} {entries : List (OutboxRow × OrderRow)}

/-- An order that was never sent, or has been rejected already. -/
def Database.Unsent (db : Database) (intentId : String) : Prop :=
  ∃ o, db.order intentId = some o ∧ (o.state = .outboxed ∨ o.state = .rejected)

theorem order_cancel
    (h : (db.cancelMessage messageId state).rejectUnsent intentId at_ reason = .ok db')
    (j : String) : db'.order j = if j = intentId then
      (db.order j).map fun o => o.reach .rejected at_ none none else db.order j := by
  simp only [rejectUnsent, Except.bind_ok_iff] at h
  obtain ⟨moved, transition, h⟩ := h
  cases h
  exact order_of_transitionOrder transition j

theorem cancel_of_unsent (messageId reason : String) (state : OutboxState)
    (at_ : Instant) (unsent : db.Unsent intentId) :
    ∃ db', (db.cancelMessage messageId state).rejectUnsent intentId at_ reason = .ok db' := by
  obtain ⟨o, found, waiting⟩ := unsent
  have found' : (db.cancelMessage messageId state).order intentId = some o := found
  have can : o.state.CanReach .rejected := by
    rcases waiting with state | state <;> rw [state] <;> decide
  obtain ⟨moved, transition⟩ := transitionOrder_of_canReach at_ none none found' can
  exact ⟨_, by rw [rejectUnsent, transition]; rfl⟩

section

variable (h : (db.cancelMessage messageId state).rejectUnsent intentId at_ reason = .ok db')
include h

theorem unsent_cancel (unsent : db.Unsent j) : db'.Unsent j := by
  obtain ⟨o, found, waiting⟩ := unsent
  by_cases same : j = intentId
  · refine ⟨_, by rw [order_cancel h, if_pos same, found, Option.map_some], .inr ?_⟩
    exact OrderRow.reach_state o .rejected at_ none none
  · exact ⟨o, by rw [order_cancel h, if_neg same, found], waiting⟩

theorem order_cancel_of_moved {o : OrderRow} (found : db.order j = some o)
    (kept : o.state ∈ [OrderState.accepted, .opened, .settled, .rejected]) :
    db'.order j = some o := by
  rw [order_cancel h, found]
  split
  · rename_i here
    have found' : (db.cancelMessage messageId state).order intentId = some o := here ▸ found
    simp only [rejectUnsent, Except.bind_ok_iff] at h
    obtain ⟨moved, transition, -⟩ := h
    obtain ⟨row, found'', can⟩ := transitionOrder_eq_ok transition
    rw [found'] at found''
    cases found''
    have rejected : o.state = .rejected := by
      rcases can with ⟨same, -⟩ | ⟨-, allowed, -⟩
      · exact same
      · cases state : o.state <;> rw [state] at kept allowed <;>
          first | rfl | (simp [allowedTransitions] at allowed; done) | simp at kept
    rw [Option.map_some, OrderRow.reach, if_pos rejected]
  · rfl

theorem not_dispatching_cancel (none : ∀ m ∈ db.outboxMessages.rows, m.state ≠ .dispatching) :
    ∀ m ∈ db'.outboxMessages.rows, m.state ≠ .dispatching := by
  simp only [rejectUnsent, Except.bind_ok_iff] at h
  obtain ⟨moved, transition, h⟩ := h
  cases h
  intro m member
  have member : m ∈ moved.outboxMessages.rows := member
  rw [transitionOrder_frame transition] at member
  obtain ⟨old, oldMember, rfl⟩ := List.mem_map.mp member
  unfold Table.change
  split
  · intro sending
    cases sending
  · exact none old oldMember

end

theorem cancel_loop_invariant (holds : Database → Prop)
    (keeps : ∀ (next next' : Database) (messageId intentId : String), holds next →
      (next.cancelMessage messageId .pending).rejectUnsent intentId checkedAt
        "DEADLINE_EXPIRED_ON_RECOVERY" = .ok next' → holds next')
          {acc acc' : List String × Database}
    (loop : entries.foldlM (cancelExpiredPending checkedAt) acc = .ok acc')
    (start : holds acc.2) : holds acc'.2 := by
  refine Except.foldlM_invariant (fun acc => holds acc.2) (fun acc entry _ acc' start turn => ?_)
    loop start
  rcases cancelExpiredPending_cases turn with same | cancelled
  · rw [same]
    exact start
  · exact keeps _ _ _ _ start cancelled

theorem cancel_loop_ok (checkedAt : Instant) (acc : List String × Database)
    (readable : ∀ entry ∈ entries, ∃ command,
      readCommand (entry.1.payload.setDefault "order_id" (.text entry.2.orderId)) = .ok command)
    (unsent : ∀ entry ∈ entries, acc.2.Unsent entry.1.intentId) :
    ∃ acc', entries.foldlM (cancelExpiredPending checkedAt) acc = .ok acc' := by
  induction entries generalizing acc with
  | nil => exact ⟨acc, rfl⟩
  | cons entry rest ih =>
    obtain ⟨command, read⟩ := readable entry List.mem_cons_self
    obtain ⟨next, turn⟩ : ∃ next, cancelExpiredPending checkedAt acc entry = .ok next := by
      rw [cancelExpiredPending, read, Except.ok_bind]
      split
      · exact ⟨acc, rfl⟩
      · obtain ⟨db', cancelled⟩ := cancel_of_unsent entry.1.messageId
          "DEADLINE_EXPIRED_ON_RECOVERY" .pending checkedAt (unsent entry List.mem_cons_self)
        exact ⟨_, by rw [cancelled]; rfl⟩
    obtain ⟨acc', loop⟩ := ih next (fun e member => readable e (List.mem_cons_of_mem _ member))
      fun e member => show next.2.Unsent _ by
        have before := unsent e (List.mem_cons_of_mem _ member)
        rcases cancelExpiredPending_cases turn with same | cancelled
        · rw [same]
          exact before
        · exact unsent_cancel cancelled before
    exact ⟨acc', by rw [List.foldlM_cons, turn]; exact loop⟩

end CancellationLoop

/-! ### Interleavings of dispatches and events -/

/-- The steps of dispatches, of the event processor and of earlier recoveries; commands are
    made by `submit`. -/
def DispatchStep.Interleaves : DispatchStep → Prop
  | .writer (.persistIntentReservationOutbox request command intentId _ orderId _ _) =>
    command.toOrderCommandFields = request.commandFields command.messageId intentId orderId
  | .writer (.applyNormalizedBrokerEvent _ _) => True
  | .writer (.recoverInterruptedDispatches _) => True
  | .writer (.cancelExpiredPendingMessages _) => True
  | .writer _ => False
  | .claim _ _ _ | .advance _ _ _ | .crash => True

def Database.Waits (db : Database) : Prop :=
  ∀ id m, db.message id = some m → m.state = .pending → db.Unsent m.intentId

section Waits
variable {db db' : Database} {command : OrderCommand} {now : Instant}

theorem waits_of_changes (waits : db.Waits) (changes : Changes db db')
    (orders : ∀ id m, db.message id = some m → db'.message id = some m → m.state = .pending →
      db'.order m.intentId = db.order m.intentId ∨
        ∃ o, db'.order m.intentId = some o ∧ o.state = .rejected) : db'.Waits := by
  intro id m found pending
  have before := message_of_pending changes found pending
  rcases orders id m before found pending with same | ⟨o, there, rejected⟩
  · obtain ⟨o, here, waiting⟩ := waits id m before pending
    exact ⟨o, same.trans here, waiting⟩
  · exact ⟨o, there, .inr rejected⟩

theorem waits_creates (waits : db.Waits) (creates : Creates db db') : db'.Waits := by
  obtain ⟨request, command, intentId, _, _, _, _, h⟩ := creates
  intro id m found pending
  rw [message_created h] at found
  split at found
  · cases found
    exact ⟨_, by rw [order_created h]; exact if_pos rfl, .inl rfl⟩
  · obtain ⟨o, here, waiting⟩ := waits id m found pending
    refine ⟨o, ?_, waiting⟩
    rw [order_created h, if_neg]
    · exact here
    · intro same
      rw [← same, order_fresh h] at here
      cases here

theorem waits_claim {claimedAt : Instant} {broker accountId : Option String}
    {answer : Option OrderCommand} (waits : db.Waits)
    (h : claimNextMessage claimedAt broker accountId db = .ok (answer, db')) : db'.Waits := by
  refine waits_of_changes waits (claimNextMessage_changes h).changes fun id m found found' pending
    => .inl ?_
  rcases claimNextMessage_spec h with ⟨-, rfl⟩ | ⟨message, _, _, -, here, waiting, -, -, moved⟩
  · rfl
  · rw [order_of_transitionOrder moved]
    refine if_neg fun same => ?_
    -- The claimed message is the only one of its intent, and it is PENDING no more.
    have : m = message := message_unique found here same
    subst this
    have id_eq : m.messageId = id := (Table.mem_of_lookup found).2
    have claimed : db'.message id = some (m.claim claimedAt) := by
      rw [transitionOrder_frame moved, ← id_eq]
      refine (message_updateOutbox _ (OutboxRow.claim_keys claimedAt) _).trans ?_
      rw [here, Option.map_some, Table.change_of_true]
      simp [waiting]
    rw [found'] at claimed
    rw [Option.some.inj claimed] at pending
    cases pending

theorem waits_cancelExpiredBeforeDispatch {cancelledAt : Instant}
    (waits : db.Waits) (h : cancelExpiredBeforeDispatch command cancelledAt db = .ok ((), db')) :
    db'.Waits := by
  refine waits_of_changes waits (cancelExpiredBeforeDispatch_changes h).changes fun id m found _
    pending => ?_
  simp only [cancelExpiredBeforeDispatch, Except.bind_ok_iff] at h
  obtain ⟨next, cancelled, h⟩ := h
  cases h
  rw [order_cancel cancelled]
  split
  · obtain ⟨o, here, -⟩ := waits id m found pending
    rw [here]
    exact .inr ⟨_, rfl, OrderRow.reach_state o .rejected cancelledAt none none⟩
  · exact .inl rfl

def Database.Records (db db' : Database) (command : OrderCommand) : Prop :=
  ∃ row, db.message command.messageId = some row ∧ row.state = .dispatching ∧
    ∀ j, j ≠ command.intentId → db'.order j = db.order j

theorem recordDispatchResult_records {outcome : String} {brokerOrderId reasonCode : Option String}
    (h : recordDispatchResult command outcome brokerOrderId reasonCode now db = .ok ((), db')) :
    db.Records db' command := by
  unfold recordDispatchResult at h
  split at h
  · cases h
  rename_i row found
  split at h
  · rename_i sending
    split at h
    · cases h
    · simp only [Except.bind_ok_iff] at h
      obtain ⟨moved, transition, h⟩ := h
      refine ⟨row, found, sending, fun j elsewhere => ?_⟩
      have order := order_of_transitionOrder transition j
      rw [if_neg elsewhere] at order
      split at h <;> cases h <;> exact order
  · cases h

theorem recordDispatchNotSent_records {code : String}
    (h : recordDispatchNotSent command code now db = .ok ((), db')) :
    db.Records db' command := by
  unfold recordDispatchNotSent at h
  simp only at h
  split at h
  · rename_i one
    obtain ⟨row, found, sending⟩ := (Table.rowCount_eq_one_iff unique_outboxRow_messageId
      fun r chosen => by simp only [Bool.and_eq_true, beq_iff_eq] at chosen; exact chosen.1).mp one
    simp only [Bool.and_eq_true, beq_iff_eq] at sending
    simp only [Except.bind_ok_iff] at h
    obtain ⟨moved, transition, h⟩ := h
    cases h
    refine ⟨row, found, sending.2, fun j elsewhere => ?_⟩
    have order := order_of_transitionOrder transition j
    rwa [if_neg elsewhere] at order
  · cases h

theorem recordAnswer_records {answer : WorkerAnswer}
    (h : (recordAnswer command answer now).body db = .ok ((), db')) : db.Records db' command := by
  have possiblySent : recordDispatchResult command
      WorkerOutcome.timeoutAfterPossibleSend.value none none now db = .ok ((), db') →
      db.Records db' command := recordDispatchResult_records
  cases answer with
  | result outcome brokerOrderId reasonCode => exact recordDispatchResult_records h
  | exception => exact possiblySent h
  | dispatchError delivery code =>
    cases delivery with
    | notSent => exact recordDispatchNotSent_records h
    | possiblySent | responseReceived => exact possiblySent h

theorem waits_records (waits : db.Waits) (changes : Changes db db')
    (records : db.Records db' command)
    (addressed : ∀ m, db.message command.messageId = some m → m.intentId = command.intentId) :
    db'.Waits := by
  obtain ⟨row, here, sending, others⟩ := records
  refine waits_of_changes waits changes fun id m found _ pending => .inl (others _ fun same => ?_)
  have : m = row := message_unique found here (same.trans (addressed row here).symm)
  subst this
  rw [sending] at pending
  cases pending

theorem waits_event {event : BrokerOrderEvent} {receivedAt : Instant}
    {result : BrokerEventApplyResult} (waits : db.Waits)
    (h : applyNormalizedBrokerEvent event receivedAt db = .ok (result, db')) : db'.Waits := by
  refine waits_of_changes waits (applyNormalizedBrokerEvent_changes h).changes fun id m found _
    pending => ?_
  rcases applyNormalizedBrokerEvent_cases h with ⟨inbox, -⟩ | ⟨row, ti, target, moved, -, byId, -,
    classified, can, effect, settled, -⟩
  · rw [inbox]
    exact .inl rfl
  obtain ⟨digit, rfl⟩ := settleDigitEvent_frame settled
  have order : moved.order m.intentId = _ := effect.order m.intentId
  by_cases same : m.intentId = row.intentId
  · refine .inr ⟨_, order.trans (if_pos same), ?_⟩
    obtain ⟨o, here, waiting⟩ := waits id m found pending
    rw [same, order_of_orderById byId] at here
    cases here
    obtain ⟨named, -, -, live, -⟩ := classifyEvent_target classified
    rw [OrderRow.afterEvent_state]
    rcases waiting with state | state
    · -- From OUTBOXED no event leads anywhere but to REJECTED.
      rw [state] at can
      cases status : event.externalStatus <;> rw [status] at named <;> cases named <;>
        first | rfl | (exact absurd can (by decide))
    · simp [terminalBrokerEventResult, state, OrderState.isTerminal] at live
      split at live <;> cases live
  · exact .inl (order.trans (if_neg same))

theorem waits_recover {recoveredAt : Instant} {count : Nat} (waits : db.Waits)
    (h : recoverInterruptedDispatches recoveredAt db = .ok (count, db')) : db'.Waits := by
  refine waits_of_changes waits (recoverInterruptedDispatches_changes h).changes fun id m found _
    pending =>
    .inl ?_
  simp only [recoverInterruptedDispatches, Except.bind_ok_iff] at h
  obtain ⟨next, loop, h⟩ := h
  cases h
  refine order_recover_loop loop fun interrupted => ?_
  simp only [interruptedIntents, List.mem_map, List.mem_filter, beq_iff_eq] at interrupted
  obtain ⟨m', ⟨member, sending⟩, same⟩ := interrupted
  have : m' = m := message_unique (Table.lookup_of_mem unique_outboxRow_messageId member) found same
  rw [this, pending] at sending
  cases sending

theorem waits_cancelPending {checkedAt : Instant} {cancelled : List String} (waits : db.Waits)
    (h : cancelExpiredPendingMessages checkedAt db = .ok (cancelled, db')) : db'.Waits := by
  intro id m found pending
  have before := message_of_pending (cancelExpiredPendingMessages_changes h).changes found pending
  exact cancel_loop_invariant (fun next => next.Unsent m.intentId)
    (fun _ _ _ _ unsent cancelled => unsent_cancel cancelled unsent) h (waits id m before pending)

end Waits

namespace DispatchSystem

structure Orderly (s : DispatchSystem) : Prop where
  sound : s.Sound
  addressed : ∀ c ∈ s.persisted, ∀ m, s.db.message c.messageId = some m → m.intentId = c.intentId
  waits : s.db.Waits

theorem orderly_initial : initial.Orderly :=
  ⟨sound_initial, fun _ member => (nomatch member), fun _ _ found => (nomatch found)⟩

variable {s : DispatchSystem}

section

variable (orderly : s.Orderly)
include orderly

theorem Orderly.erase (dispatch : Dispatch) :
    ({ s with underWay := s.underWay.erase dispatch } : DispatchSystem).Orderly :=
  ⟨orderly.sound.erase dispatch, orderly.addressed, orderly.waits⟩

theorem addressed_changes {db' : Database} (changes : Changes s.db db') :
    ∀ c ∈ s.persisted, ∀ m, db'.message c.messageId = some m → m.intentId = c.intentId := by
  intro c member m' found'
  obtain ⟨m, found, -, same⟩ := message_sameCommand changes found'
  exact same.trans (orderly.addressed c member m found)

theorem Orderly.transaction {op : WriterOp} (old : op.newCommand = none)
    (waits : ∀ db', op.body s.db = .ok ((), db') → db'.Waits) : (s.transaction op).Orderly := by
  have sound := orderly.sound.transaction op
  rcases s.transaction_cases op with same | ⟨db', committed, next⟩
  · rw [same]
    exact orderly
  · rw [next, old] at sound ⊢
    refine ⟨sound, fun c member => ?_, waits db' committed⟩
    rw [Option.toList_none, List.append_nil] at member
    exact addressed_changes orderly (op.changes old committed) c member

theorem Orderly.persist (request : OrderRequest)
    (command : OrderCommand) (intentId reservationId orderId : String) (createdAt : Instant)
    (limits : ExposureLimits)
    (made : command.toOrderCommandFields = request.commandFields command.messageId intentId orderId)
      :
    (s.transaction (.persistIntentReservationOutbox request command intentId reservationId orderId
      createdAt limits)).Orderly := by
  have sound := orderly.sound.transaction (.persistIntentReservationOutbox request command intentId
    reservationId orderId createdAt limits)
  rcases s.transaction_cases (.persistIntentReservationOutbox request command intentId
    reservationId orderId createdAt limits) with same | ⟨db', committed, next⟩
  · rw [same]
    exact orderly
  rw [next] at sound ⊢
  have names : command.intentId = intentId := congrArg OrderCommandFields.intentId made
  refine ⟨sound, fun c member m found => ?_, waits_creates orderly.waits
    ⟨_, _, _, _, _, _, _, committed⟩⟩
  have found : db'.message c.messageId = some m := found
  rw [message_created committed] at found
  rcases List.mem_append.mp member with older | new
  · rw [if_neg] at found
    · exact orderly.addressed c older m found
    · -- A persisted command has a message, so its id is not the new one.
      intro same
      obtain ⟨m', member', sameId⟩ : ∃ m' ∈ s.db.outboxMessages.rows, m'.messageId =
        c.messageId := by
        have stored : (c.messageId, c.toPayload) ∈ s.db.commands := by
          rw [orderly.sound.stored]
          exact List.mem_map_of_mem older
        obtain ⟨m', member', pair⟩ := List.mem_map.mp stored
        exact ⟨m', member', congrArg Prod.fst pair⟩
      exact Table.lookup_eq_none_iff.mp (message_fresh committed) m' member'
        (sameId.trans same.symm)
  · have : c = command := by simpa [WriterOp.newCommand] using new
    subst this
    rw [if_pos rfl] at found
    cases found
    exact names.symm

theorem Orderly.claim (dispatchTime : Instant)
    (broker accountId : Option String) : (s.claim dispatchTime broker accountId).Orderly := by
  have sound := orderly.sound.claim dispatchTime broker accountId
  unfold DispatchSystem.claim at sound ⊢
  split
  · rename_i command db' h
    rw [h] at sound
    exact ⟨sound, addressed_changes orderly (claimNextMessage_changes h).changes,
      waits_claim orderly.waits h⟩
  · rename_i db' h
    rw [h] at sound
    exact ⟨sound, addressed_changes orderly (claimNextMessage_changes h).changes,
      waits_claim orderly.waits h⟩
  · exact orderly

theorem Orderly.step (step : DispatchStep)
    (interleaves : step.Interleaves) : (s.step step).Orderly := by
  cases step with
  | writer op =>
    cases op <;> try exact interleaves.elim
    case persistIntentReservationOutbox => exact orderly.persist _ _ _ _ _ _ _ interleaves
    case applyNormalizedBrokerEvent =>
      refine orderly.transaction rfl fun db' h => ?_
      obtain ⟨_, h⟩ := Operation.silent_eq_ok h
      exact waits_event orderly.waits h
    case recoverInterruptedDispatches =>
      refine orderly.transaction rfl fun db' h => ?_
      obtain ⟨_, h⟩ := Operation.silent_eq_ok h
      exact waits_recover orderly.waits h
    case cancelExpiredPendingMessages =>
      refine orderly.transaction rfl fun db' h => ?_
      obtain ⟨_, h⟩ := Operation.silent_eq_ok h
      exact waits_cancelPending orderly.waits h
  | claim dispatchTime broker accountId => exact orderly.claim dispatchTime broker accountId
  | advance dispatch answer now =>
    unfold DispatchSystem.step
    simp only
    split
    · rename_i member
      cases dispatch with
      | expired command dispatchTime =>
        exact (orderly.erase _).transaction rfl fun db' h =>
          waits_cancelExpiredBeforeDispatch orderly.waits h
      | ready command dispatchTime =>
        exact ⟨orderly.sound.submit member answer, orderly.addressed, orderly.waits⟩
      | answered command given =>
        have old : (recordAnswer command given now).newCommand = none := by
          unfold recordAnswer
          split <;> rfl
        refine (orderly.erase _).transaction old fun db' h => ?_
        exact waits_records orderly.waits (WriterOp.changes old h) (recordAnswer_records h)
          (orderly.addressed command (orderly.sound.known _ member))
    · exact orderly
  | crash => exact ⟨orderly.sound.step .crash, orderly.addressed, orderly.waits⟩

end

theorem orderly_run {steps : List DispatchStep} (interleave : ∀ step ∈ steps, step.Interleaves) :
    (Machine.run step initial steps).Orderly :=
  Machine.guarded_invariant Orderly (fun _ step orderly allowed => orderly.step step allowed)
    orderly_initial
    (Machine.guarded_of_forall interleave initial)

end DispatchSystem

/-! ### Recovery -/

/-- The recovery of the next start does its work: it does not raise, it leaves no message
    in DISPATCHING, and it does not touch orders that are accepted, open or ended. -/
def Database.Recovers (db : Database) (now : Instant) : Prop :=
  ∃ count cancelled recovered final,
    recoverInterruptedDispatches now db = .ok (count, recovered) ∧
    cancelExpiredPendingMessages now recovered = .ok (cancelled, final) ∧
    (∀ m ∈ final.outboxMessages.rows, m.state ≠ .dispatching) ∧
    ∀ i o, db.order i = some o → o.state ∈ [OrderState.accepted, .opened, .settled, .rejected] →
      final.order i = some o

/-- No order has moved on while the message of its dispatch was still DISPATCHING. -/
def Database.DispatchesInStep (db : Database) : Prop :=
  ∀ m ∈ db.outboxMessages.rows, m.state = .dispatching →
    ∃ o, db.order m.intentId = some o ∧ (o.state = .dispatching ∨ o.state = .unknown)

variable {db : Database}

theorem mem_interruptedIntents {i : String} :
    i ∈ db.interruptedIntents ↔
      ∃ m ∈ db.outboxMessages.rows, m.state = .dispatching ∧ m.intentId = i := by
  simp [interruptedIntents, and_assoc]

theorem dispatchesInStep_iff :
    db.DispatchesInStep ↔ ∀ i ∈ db.interruptedIntents, db.Recoverable i := by
  constructor
  · intro inStep i interrupted
    obtain ⟨m, member, sending, rfl⟩ := mem_interruptedIntents.mp interrupted
    obtain ⟨o, found, state⟩ := inStep m member sending
    exact ⟨o, found, canReach_unknown_iff.mpr state⟩
  · intro recoverable m member sending
    obtain ⟨o, found, can⟩ := recoverable _ (mem_interruptedIntents.mpr ⟨m, member, sending, rfl⟩)
    exact ⟨o, found, canReach_unknown_iff.mp can⟩

theorem DispatchSystem.Orderly.cancels {s : DispatchSystem} (orderly : s.Orderly) (now : Instant) :
    ∃ cancelled final, cancelExpiredPendingMessages now s.db = .ok (cancelled, final) := by
  have readable : ∀ entry ∈ s.db.pendingMessages, ∃ command,
      readCommand (entry.1.payload.setDefault "order_id" (.text entry.2.orderId)) =
        .ok command := by
    intro entry member
    obtain ⟨c, -, -, samePayload⟩ :=
      orderly.sound.persisted_of_message (Table.mem_of_lookup (mem_pendingMessages member).1).1
    refine ⟨c, ?_⟩
    rw [← samePayload, OrderCommand.setDefault_toPayload, readCommand,
      OrderCommand.fromPayload_toPayload]
  have unsent : ∀ entry ∈ s.db.pendingMessages, s.db.Unsent entry.1.intentId := by
    intro entry member
    obtain ⟨found, pending, -⟩ := mem_pendingMessages member
    exact orderly.waits _ _ found pending
  obtain ⟨acc, loop⟩ := cancel_loop_ok now ([], s.db) readable unsent
  exact ⟨acc.1, acc.2, loop⟩

/-- **Recovery succeeds exactly when no order has overtaken its dispatch**, at every state that
    dispatches and events can reach, with a crash after any prefix. -/
theorem recovers_iff_dispatchesInStep (steps : List DispatchStep)
    (interleave : ∀ step ∈ steps, step.Interleaves) (now : Instant) :
    (Machine.run DispatchSystem.step DispatchSystem.initial steps).db.Recovers now ↔
      (Machine.run DispatchSystem.step DispatchSystem.initial steps).db.DispatchesInStep := by
  generalize reached : Machine.run DispatchSystem.step DispatchSystem.initial steps = s
  have orderly : s.Orderly := reached ▸ DispatchSystem.orderly_run interleave
  rw [dispatchesInStep_iff, ← recover_loop_ok_iff now]
  constructor
  · rintro ⟨count, -, recovered, -, recovers, -⟩
    simp only [recoverInterruptedDispatches, Except.bind_ok_iff] at recovers
    obtain ⟨next, loop, -⟩ := recovers
    exact ⟨next, loop⟩
  · rintro ⟨recovered, loop⟩
    have recovers : recoverInterruptedDispatches now s.db =
        .ok (s.db.interruptedIntents.length, recovered) := by
      rw [recoverInterruptedDispatches, loop]
      rfl
    have next : s.step (.writer (.recoverInterruptedDispatches now)) =
        { s with db := recovered, persisted := s.persisted ++ [] } := by
      have committed : (WriterOp.recoverInterruptedDispatches now).body s.db =
        .ok ((), recovered) := by
        simp only [WriterOp.body, Operation.silent, recovers]
      simp only [DispatchSystem.step, DispatchSystem.transaction, DispatchSystem.added, writerStep,
        Machine.transact_of_ok committed, committed]
      rfl
    have orderly' := orderly.step (.writer (.recoverInterruptedDispatches now)) trivial
    rw [next] at orderly'
    obtain ⟨cancelled, final, cancels⟩ := orderly'.cancels now
    refine ⟨_, cancelled, recovered, final, recovers, cancels, ?_, fun i o found kept => ?_⟩
    · have none := not_dispatching_recover_loop loop fun m member sending =>
        mem_interruptedIntents.mpr ⟨m, member, sending, rfl⟩
      exact cancel_loop_invariant (fun next => ∀ m ∈ next.outboxMessages.rows,
        m.state ≠ .dispatching)
        (fun _ _ _ _ none cancelled => not_dispatching_cancel cancelled none) cancels none
    · have elsewhere : i ∉ s.db.interruptedIntents := by
        intro interrupted
        obtain ⟨o', found', can⟩ := (recover_loop_ok_iff now _).mp ⟨recovered, loop⟩ i interrupted
        rw [found] at found'
        cases found'
        rcases canReach_unknown_iff.mp can with state | state <;> rw
          [state] at kept <;> simp at kept
      have first : recovered.order i = some o := (order_recover_loop loop elsewhere).trans found
      exact cancel_loop_invariant (fun next => next.order i = some o)
        (fun _ _ _ _ found cancelled => order_cancel_of_moved cancelled found kept) cancels first

namespace Sample

def acceptedEvent : BrokerOrderEvent :=
  ⟨hashed (eventFields "event-0" (some 1) .accepted none), by decide⟩

def interruptedSteps : List DispatchStep :=
  [.writer persistOp, .claim 1 none none, .advance (.ready command 1) .exception 2, .crash]

def overtakenSteps : List DispatchStep :=
  [.writer persistOp, .claim 1 none none, .advance (.ready command 1) .exception 2,
    .writer (.applyNormalizedBrokerEvent acceptedEvent 12), .crash]

end Sample

theorem interrupted_sample_recovers :
    (Machine.run DispatchSystem.step DispatchSystem.initial Sample.interruptedSteps).db.Recovers
      20 := by
  refine (recovers_iff_dispatchesInStep Sample.interruptedSteps ?_ 20).mpr ?_
  · simp [Sample.interruptedSteps, Sample.persistOp, DispatchStep.Interleaves]
    rfl
  · intro m member sending
    have rows : (Machine.run DispatchSystem.step DispatchSystem.initial
        Sample.interruptedSteps).db.outboxMessages.rows =
        [(newOutboxMessage Sample.request Sample.command "intent-1" 0).claim 1] := by decide
    rw [rows] at member
    cases List.mem_singleton.mp member
    exact ⟨_, rfl, .inl rfl⟩

/-- An event that overtakes the dispatch makes the recovery raise. -/
theorem overtaken_sample_raises :
    (∀ step ∈ Sample.overtakenSteps, step.Interleaves) ∧
      recoverInterruptedDispatches 20
        (Machine.run DispatchSystem.step DispatchSystem.initial Sample.overtakenSteps).db =
          .error (.invalidOrderTransition .accepted .unknown) := by
  refine ⟨?_, by decide⟩
  simp [Sample.overtakenSteps, Sample.persistOp, DispatchStep.Interleaves]
  rfl

end TradingLab
