import TradingLab.Core.HealthGate
import TradingLab.Persistence.Attempts
import TradingLab.Properties.DigitProgression
import TradingLab.Properties.Recovery
import TradingLab.Properties.References

/-!
# What the writer keeps

No operation removes a row or rewrites what it records, so every run of the writer extends the
history it starts from. What was delivered before is recognised, what was interrupted is recovered
once, and an order that may be at the broker keeps the gate closed at the next start.
-/
namespace TradingLab

open Relational Database Machine

/-! ### The history -/

/-- Everything that the one database has recorded is found in the other. -/
structure Database.Keeps (db db' : Database) : Prop where
  intents : ∀ row ∈ db.tradeIntents.rows, row ∈ db'.tradeIntents.rows
  orders : ∀ i o, db.order i = some o → ∃ o', db'.order i = some o' ∧ o'.orderId = o.orderId ∧
    o'.broker = o.broker ∧ o'.accountId = o.accountId ∧
    Relation.ReflTransGen (fun s s' => s' ∈ allowedTransitions s) o.state o'.state
  messages : ∀ id m, db.message id = some m → ∃ m', db'.message id = some m' ∧ m'.SameCommand m
  events : ∀ e ∈ db.brokerOrderEvents.rows,
    ∃ e' ∈ db'.brokerOrderEvents.rows, e'.event = e.event ∧ e'.orderId = e.orderId
  evidence : ∀ id, (db.evidence id).isSome → (db'.evidence id).isSome

namespace Database.Keeps

variable {db db' : Database}

theorem refl (db : Database) : db.Keeps db :=
  ⟨fun _ => id, fun _ o found => ⟨o, found, rfl, rfl, rfl, .refl⟩,
    fun _ m found => ⟨m, found, rfl, rfl, rfl, rfl⟩, fun e member => ⟨e, member, rfl, rfl⟩,
    fun _ => id⟩

theorem trans {middle : Database} (first : db.Keeps middle) (second : middle.Keeps db') :
    db.Keeps db' := by
  refine ⟨fun row => second.intents row ∘ first.intents row, fun i o found => ?_,
    fun id m found => ?_, fun e member => ?_, fun id => second.evidence id ∘ first.evidence id⟩
  · obtain ⟨o₁, found₁, id₁, broker₁, account₁, path₁⟩ := first.orders i o found
    obtain ⟨o₂, found₂, id₂, broker₂, account₂, path₂⟩ := second.orders i o₁ found₁
    exact ⟨o₂, found₂, id₂.trans id₁, broker₂.trans broker₁, account₂.trans account₁,
      path₁.trans path₂⟩
  · obtain ⟨m₁, found₁, a, b, c, d⟩ := first.messages id m found
    obtain ⟨m₂, found₂, a', b', c', d'⟩ := second.messages id m₁ found₁
    exact ⟨m₂, found₂, a'.trans a, b'.trans b, c'.trans c, d'.trans d⟩
  · obtain ⟨e₁, member₁, same₁, owner₁⟩ := first.events e member
    obtain ⟨e₂, member₂, same₂, owner₂⟩ := second.events e₁ member₁
    exact ⟨e₂, member₂, same₂.trans same₁, owner₂.trans owner₁⟩

theorem of_creates (created : Creates db db') : db.Keeps db' := by
  obtain ⟨_, _, _, _, _, _, _, persisted⟩ := created
  obtain ⟨inserted, -, -, -, frame⟩ := persist_inserts persisted
  refine ⟨fun row member => ?_, fun i o found => ?_, fun id m found => ?_, ?_, ?_⟩
  · rw [(Table.insert_eq_some_iff.mp inserted).2]
    exact List.mem_append_left _ member
  · -- The id of the new order was free.
    refine ⟨o, ?_, rfl, rfl, rfl, .refl⟩
    rw [order_created persisted, if_neg, found]
    rintro rfl
    rw [order_fresh persisted] at found
    cases found
  · refine ⟨m, ?_, rfl, rfl, rfl, rfl⟩
    rw [message_created persisted, if_neg, found]
    rintro rfl
    rw [message_fresh persisted] at found
    cases found
  · rw [frame]
    exact (refl db).events
  · rw [frame]
    exact fun _ => id

theorem of_change (change : Change db db') : db.Keeps db' := by
  refine ⟨fun row member => by rwa [tradeIntents_change change], fun i o found => ?_,
    fun id m found => ?_, fun e => events_change change, fun id => evidence_change change⟩
  · have step := order_change change i
    rw [found] at step
    generalize db'.order i = next at step
    cases step with
    | some step =>
      refine ⟨_, rfl, step.orderId, step.broker, step.accountId, ?_⟩
      rcases step.state with same | allowed
      · rw [same]
      · exact .single allowed
  · have step := message_change change id
    rw [found] at step
    generalize db'.message id = next at step
    cases step with
    | some step => exact ⟨_, rfl, step.sameCommand⟩

end Database.Keeps

theorem keeps_writerStep (db : Database) (op : WriterOp) : db.Keeps (writerStep db op) := by
  refine transact_cases db.Keeps (.refl db) fun _ next committed => ?_
  rcases op.creates_or_changes committed with created | changes
  · exact .of_creates created
  · exact Changes.invariant db.Keeps (fun _ _ before change => before.trans (.of_change change))
      (.refl db) changes

theorem keeps_run (db : Database) (ops : List WriterOp) : db.Keeps (run writerStep db ops) :=
  run_rel (fun _ => True) Database.Keeps .refl .trans (fun _ _ _ => trivial)
    (fun db op _ => keeps_writerStep db op) trivial ops

/-- **Every run of the writer extends its history**, from any point on. -/
theorem history_kept (before after : List WriterOp) :
    (run writerStep Database.empty before).Keeps
      (run writerStep Database.empty (before ++ after)) := by
  rw [run_append]
  exact keeps_run _ after

/-! ### What comes again -/

/-- **A delivery that is repeated changes nothing**, however much has happened since the inbox has
    recorded it. -/
theorem redelivery_ignored (db : Database) (ops : List WriterOp) (later : Instant) (e : EventRow)
    (listed : e ∈ db.brokerOrderEvents.rows) :
    ∃ state, applyNormalizedBrokerEvent e.event later (run writerStep db ops) =
      .ok (⟨.duplicate, state, none⟩, run writerStep db ops) := by
  obtain ⟨kept, member, same, -⟩ := (keeps_run db ops).events e listed
  have found : (run writerStep db ops).brokerEvent e.event.eventId = some kept :=
    (Table.lookup_eq_some_iff unique_eventRow_eventId).mpr ⟨member, by rw [← same]; rfl⟩
  exact ⟨_, applyNormalizedBrokerEvent_of_duplicate later found same⟩

/-- The event that has settled the sample order comes again. -/
theorem settled_sample_ignored :
    let db := run writerStep Database.empty Sample.settleOps
    ∃ state, applyNormalizedBrokerEvent Sample.settledEvent 30 db =
      .ok (⟨.duplicate, state, none⟩, db) :=
  redelivery_ignored (run writerStep Database.empty Sample.settleOps) [] 30 _ (List.Mem.head _)

/-- **Recovery is idempotent**: a second one finds no dispatch to recover. -/
theorem recovery_idempotent {db db' : Database} {recoveredAt : Instant} {count : Nat}
    (recovered : recoverInterruptedDispatches recoveredAt db = .ok (count, db')) (later : Instant) :
    recoverInterruptedDispatches later db' = .ok (0, db') := by
  simp only [recoverInterruptedDispatches, Except.bind_ok_iff] at recovered
  obtain ⟨next, loop, ends⟩ := recovered
  cases ends
  have none := not_dispatching_recover_loop loop fun m member sending =>
    mem_interruptedIntents.mpr ⟨m, member, sending, rfl⟩
  have nothing : db'.interruptedIntents = [] := by
    rw [List.eq_nil_iff_forall_not_mem]
    intro i interrupted
    obtain ⟨m, member, sending, -⟩ := mem_interruptedIntents.mp interrupted
    exact none m member sending
  rw [recoverInterruptedDispatches, nothing]
  rfl

theorem interrupted_sample_recovered_once :
    let db := run writerStep Database.empty [Sample.persistOp, .claimNextMessage 1 none none]
    ∃ db', recoverInterruptedDispatches 20 db = .ok (1, db') ∧
      recoverInterruptedDispatches 30 db' = .ok (0, db') := by
  intro db
  have recovered : recoverInterruptedDispatches 20 db = .ok (1, _) := rfl
  exact ⟨_, recovered, recovery_idempotent recovered 30⟩

/-! ### What the rows say -/

/-- **The columns of every reachable database refer to rows that it has.** -/
theorem references_hold (ops : List WriterOp) :
    let db := run writerStep Database.empty ops
    db.Linked ∧ db.Attempted ∧ db.Sequenced ∧ db.Evidenced ∧ db.LastSettled := by
  have reachable : Reachable (run writerStep Database.empty ops) := ⟨ops, rfl⟩
  exact ⟨reachable.linked, reachable.attempted, reachable.sequenced, reachable.evidenced,
    reachable.lastSettled⟩

/-- **The tables refine the life of an exposure**: between any two states of a run, every intent
    has followed the steps of the abstract machine. -/
theorem exposures_advance (before after : List WriterOp) (intentId : String) :
    ∃ l l' : Option Lifecycle, Advances none l ∧ Advances l l' ∧
      (run writerStep Database.empty before).exposure intentId = l.map Lifecycle.exposure ∧
      (run writerStep Database.empty (before ++ after)).exposure intentId =
        l'.map Lifecycle.exposure := by
  obtain ⟨lives, refines, first⟩ := refines_run refines_empty before
  obtain ⟨later, refinesLater, second⟩ := refines_run refines after
  rw [run_append]
  exact ⟨lives intentId, later intentId, first intentId, second intentId, refines intentId,
    refinesLater intentId⟩

/-- The intents of `safe_pending`. -/
def Database.safeIntents (db : Database) : List String :=
  (db.outboxMessages.rows.filter fun m => m.state == .pending &&
    (db.order m.intentId).any fun o => o.state == .outboxed).map OutboxRow.intentId

/-- `unsafe_nonterminal`, of the rows of `list_nonterminal_orders`. -/
def Database.unsafeOrders (db : Database) : List OrderRow :=
  db.orders.rows.filter fun o => (db.intent o.intentId).isSome && !o.state.isTerminal &&
    !(o.state == .outboxed && db.safeIntents.contains o.intentId)

/-- `RecoveryCoordinator.recover`; its answer is the gate it leaves. -/
def recover (recoveredAt : Instant) (gate : HealthGate) : Operation HealthGate := fun db => do
  let (_, db) ← recoverInterruptedDispatches recoveredAt db
  let (_, db) ← cancelExpiredPendingMessages recoveredAt db
  .ok (if db.outboxMessages.rows.any fun m => m.state == .ambiguous then
      gate.block "HG_ORDER_UNKNOWN"
    else if db.unsafeOrders ≠ [] then gate.block "HG_RECONCILIATION_REQUIRED"
    else gate, db)

/-- An order that has been claimed and not ended is unsafe. -/
theorem unsafeOrders_of_claimed {db : Database} {m : OutboxRow} {o : OrderRow}
    (linked : db.Linked) (found : m ∈ db.outboxMessages.rows) (claimed : m.state ≠ .pending)
    (ordered : db.order m.intentId = some o) (isOpen : o.state.isTerminal = false) :
    o ∈ db.unsafeOrders := by
  obtain ⟨member, same⟩ := order_eq_some_iff.mp ordered
  have outside : o.intentId ∉ db.safeIntents := by
    intro safe
    simp only [safeIntents, List.mem_map, List.mem_filter, Bool.and_eq_true, beq_iff_eq] at safe
    obtain ⟨waiting, ⟨listed, pending, -⟩, its⟩ := safe
    -- An intent has one message.
    have one := Table.lookup_of_mem unique_outboxRow_intentId listed
    rw [its, same, Table.lookup_of_mem unique_outboxRow_intentId found] at one
    cases one
    exact claimed pending
  have intent : (db.intent o.intentId).isSome = true := by
    rw [← linked.order, same, ordered]
    rfl
  simp [unsafeOrders, member, intent, isOpen, outside]

namespace DispatchSystem

theorem Sound.attempts_pos {s : DispatchSystem} {x : Submission} (sound : s.Sound)
    (sent : x ∈ s.submissions) : 0 < s.db.attempts x.command.messageId := by
  refine lt_of_lt_of_le (Nat.add_pos_left ?_ _) (sound.paid x.command.messageId)
  exact List.countP_pos_iff.mpr ⟨x, sent, beq_self_eq_true _⟩

/-- **After a restart no account enters an order while one that was handed to the worker is
    open**, whatever has happened before. -/
theorem restart_closes_gate (steps : List DispatchStep) (recoveredAt : Instant)
    (gate gate' : HealthGate) (db : Database)
    (recovered : recover recoveredAt gate (run step initial steps).db = .ok (gate', db))
    (x : Submission) (sent : x ∈ (run step initial steps).submissions) :
    ∃ m o, db.message x.command.messageId = some m ∧ db.order m.intentId = some o ∧
      (o.state.isTerminal = true ∨
        ∀ broker accountId, (gate'.canEnterOrder broker accountId).1 = false) := by
  have sound := sound_run steps
  generalize run step initial steps = s at recovered sent sound
  simp only [recover, Except.bind_ok_iff] at recovered
  obtain ⟨⟨count, first⟩, interrupted, ⟨cancelled, last⟩, expired, ends⟩ := recovered
  cases ends
  have one : (WriterOp.recoverInterruptedDispatches recoveredAt).body s.db = .ok ((), first) := by
    simp only [WriterOp.body, Operation.silent, interrupted]
  have two : (WriterOp.cancelExpiredPendingMessages recoveredAt).body first = .ok ((), last) := by
    simp only [WriterOp.body, Operation.silent, expired]
  have reachable : Reachable last := by
    have again := (sound.reachable.step (.recoverInterruptedDispatches recoveredAt)).step
      (.cancelExpiredPendingMessages recoveredAt)
    rwa [writerStep, writerStep, transact_of_ok one, transact_of_ok two] at again
  have claimed : 0 < last.attempts x.command.messageId :=
    lt_of_lt_of_le (sound.attempts_pos sent)
      ((attempts_le_of_ok one _).trans (attempts_le_of_ok two _))
  obtain ⟨m, found, attempted⟩ : ∃ m, last.message x.command.messageId = some m ∧
      0 < m.attemptCount := by
    unfold Database.attempts at claimed
    cases found : last.message x.command.messageId with
    | none => simp [found] at claimed
    | some m => exact ⟨m, rfl, by simpa [found] using claimed⟩
  have listed := (Table.mem_of_lookup found).1
  obtain ⟨o, ordered⟩ : ∃ o, last.order m.intentId = some o := by
    rw [← Option.isSome_iff_exists, reachable.linked.order, ← reachable.linked.outbox]
    exact Option.isSome_iff_exists.mpr ⟨m, Table.lookup_of_mem unique_outboxRow_intentId listed⟩
  refine ⟨m, o, found, ordered, ?_⟩
  cases isOpen : o.state.isTerminal with
  | true => exact .inl rfl
  | false =>
    have left_ : o ∈ last.unsafeOrders := unsafeOrders_of_claimed reachable.linked listed
      (fun pending => attempted.ne' ((reachable.claimedOnce _ m found).1 pending)) ordered isOpen
    refine .inr fun broker accountId => ?_
    rw [if_pos (List.ne_nil_of_mem left_)]
    split <;> exact HealthGate.canEnterOrder_of_mem (HealthGate.mem_block.mpr (.inr rfl)) _ _

theorem interrupted_sample_closes_gate :
    ∃ gate db, recover 20 {} (run step initial Sample.interruptedSteps).db = .ok (gate, db) ∧
      ∃ m o, db.message Sample.command.messageId = some m ∧ db.order m.intentId = some o ∧
        (o.state.isTerminal = true ∨
          ∀ broker accountId, (gate.canEnterOrder broker accountId).1 = false) :=
  ⟨_, _, rfl, restart_closes_gate Sample.interruptedSteps 20 {} _ _ rfl ⟨Sample.command, 1⟩
    (by decide)⟩

end DispatchSystem

end TradingLab
