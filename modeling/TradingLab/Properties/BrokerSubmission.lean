import TradingLab.Core.OrderCoordinator
import TradingLab.Machine.Run

/-!
# At most one submission for each signal

The idempotency key of an intent is taken before the adapter is called and never given back. But
`save_order` updates only the state of a row whose id is known, so an intent whose id was used
before, with another dedupe key, is submitted on the row of the older intent.
-/
namespace TradingLab.Foundation

open Store

/-! ### What the store calls do -/

namespace Store

variable {store next : Store}

theorem getOrder_saveOrder {order : Order} (saved : store.saveOrder order = .ok next)
    (orderId : String) :
    next.getOrder orderId =
      if orderId = order.internalOrderId then
        some ((store.getOrder orderId).elim order fun row => { row with state := order.state })
      else store.getOrder orderId := by
  unfold saveOrder at saved
  split at saved
  · -- The row is known: the update keeps the ids, and with them which row is found.
    rename_i known found
    cases saved
    have same : (fun row : Order => decide (row.internalOrderId = orderId)) ∘ (fun row =>
        if row.internalOrderId = order.internalOrderId then { row with state := order.state }
        else row) = fun row => decide (row.internalOrderId = orderId) := by
      funext row
      simp only [Function.comp_apply]
      split <;> rfl
    simp only [getOrder, List.find?_map, same]
    split
    · rename_i here
      subst here
      have chosen := List.find?_some found
      rw [getOrder] at found
      simp only [found, Option.map_some, Option.elim_some]
      rw [if_pos (of_decide_eq_true chosen)]
    · rename_i other
      cases elsewhere : store.orders.find? fun row => decide (row.internalOrderId = orderId) with
      | none => rfl
      | some row =>
        have chosen := List.find?_some elsewhere
        rw [decide_eq_true_eq] at chosen
        rw [Option.map_some, if_neg (chosen ▸ other)]
  · rename_i missing
    split at saved
    · cases saved
    · cases saved
      simp only [getOrder, List.find?_append]
      split
      · rename_i here
        subst here
        rw [getOrder] at missing
        simp [missing]
      · rename_i other
        simp [Ne.symm other]

end Store

variable {store : Store} {write : Write} {limit : Option Nat}

theorem Write.apply_keys {next : Store}
    (applied : write.apply store = .ok next) : next.idempotencyKeys = store.idempotencyKeys := by
  cases write with
  | order row =>
    simp only [Write.apply, Store.saveOrder] at applied
    split at applied
    · cases applied
      rfl
    · split at applied <;> cases applied
      rfl
  | reservation row =>
    simp only [Write.apply, saveReservation] at applied
    split at applied <;> cases applied
    rfl
  | release id =>
    cases applied
    rfl

theorem perform_invariant (holds : Store → Prop)
    (keeps : ∀ (write : Write) (store next : Store), holds store →
      write.apply store = .ok next → holds next)
    (writes : List Write) (limit : Option Nat) (initial : holds store) :
    holds (perform writes limit store).2 := by
  induction writes generalizing limit store with
  | nil => exact initial
  | cons write rest ih =>
    unfold perform
    split
    · exact initial
    · split
      · rename_i next applied
        exact ih _ (keeps write store next initial applied)
      · exact initial

theorem perform_keys (writes : List Write) (limit : Option Nat) (store : Store) :
    (perform writes limit store).2.idempotencyKeys = store.idempotencyKeys :=
  perform_invariant (fun other => other.idempotencyKeys = store.idempotencyKeys)
    (fun _ _ _ same applied => (Write.apply_keys applied).trans same) writes limit rfl

theorem perform_finished {rest : List Write}
    (finished : (perform (write :: rest) limit store).1 = .finished) :
    ∃ next, write.apply store = .ok next ∧
      perform (write :: rest) limit store = perform rest (limit.map (· - 1)) next := by
  simp only [perform] at finished ⊢
  split at finished
  · cases finished
  · rename_i going
    rw [if_neg going]
    split at finished
    · rename_i next applied
      exact ⟨next, applied, rfl⟩
    · cases finished

theorem getOrder_writes {intent : OrderIntent}
    (finished : (perform intent.writes limit store).1 = .finished) :
    (perform intent.writes limit store).2.getOrder intent.intentId =
      some ((store.getOrder intent.intentId).elim (intent.order .submitting) fun row =>
        { row with state := .submitting }) := by
  unfold OrderIntent.writes at finished ⊢
  obtain ⟨first, admitted, same⟩ := perform_finished finished
  rw [same] at finished ⊢
  obtain ⟨second, reserved, same⟩ := perform_finished finished
  rw [same] at finished ⊢
  obtain ⟨third, submitting, same⟩ := perform_finished finished
  rw [same] at finished ⊢
  obtain ⟨last, held, same⟩ := perform_finished finished
  rw [same]
  -- A reservation does not touch the orders.
  have orders : last.getOrder intent.intentId = third.getOrder intent.intentId := by
    simp only [Write.apply, saveReservation] at held
    split at held <;> cases held
    rfl
  change last.getOrder intent.intentId = _
  rw [orders, getOrder_saveOrder submitting, getOrder_saveOrder reserved,
    getOrder_saveOrder admitted]
  cases store.getOrder intent.intentId <;> simp [OrderIntent.order]

/-! ### One submission -/

namespace Node

variable (coordinator : Coordinator) (node : Node) {call : SubmitCall}

/-- The call asks whether trading is allowed: no row of the account has the dedupe key. -/
def Asks (call : SubmitCall) : Prop :=
  node.Proceeds coordinator call ∧
    ∀ row ∈ node.store.listOrders coordinator.accountId,
      row.dedupeKey ≠ (node.dequeued call).dedupeKey

def performed (call : SubmitCall) : Ending × Store :=
  perform (node.dequeued call).writes (call.crash.map (· - 1))
    (node.store.insertKey (node.dequeued call))

/-- The call reaches the adapter: trading is allowed, the key is new and every store call
    succeeds. -/
def Reaches (call : SubmitCall) : Prop :=
  node.Asks coordinator call ∧
    (coordinator.isTradingAllowed call.checks node.breaker node.store).1 = true ∧
    call.crash ≠ some 0 ∧ node.store.hasKey (node.dequeued call).dedupeKey = false ∧
    (node.performed call).1 = .finished

def checked (call : SubmitCall) : Node :=
  { node with
    queue := (node.queue ++ [call.intent]).tail
    breaker := (coordinator.isTradingAllowed call.checks node.breaker node.store).2 }

variable {coordinator node}

theorem submit_of_reaches (reaches : node.Reaches coordinator call) :
    node.submit coordinator call =
      { node.checked coordinator call with
        store := (node.performed call).2
        submissions := node.submissions ++
          [{ lock := call.intent.asset, order := (node.dequeued call).order .submitting }]
        calls := node.calls ++ [(node.dequeued call,
          (node.performed call).2.getOrder (node.dequeued call).intentId)] } := by
  obtain ⟨⟨proceeds, unknown⟩, allowed, going, fresh, finished⟩ := reaches
  have missing : ((node.store.listOrders coordinator.accountId).any fun row =>
      row.dedupeKey = (node.dequeued call).dedupeKey) = false := by
    simpa using unknown
  rw [performed] at finished
  simp [submit, proceeds, submitSerialized, missing, allowed, going, fresh, finished, performed,
    checked]

theorem submit_of_not_reaches (misses : ¬ node.Reaches coordinator call) (holds : Node → Prop)
    (waits : ¬ node.Asks coordinator call → ∀ queue, holds { node with queue := queue })
    (refused : node.Asks coordinator call →
      (coordinator.isTradingAllowed call.checks node.breaker node.store).1 = false ∨
        call.crash ≠ some 0 ∧ node.store.hasKey (node.dequeued call).dedupeKey = true →
      holds (node.checked coordinator call))
    (stopped : node.Asks coordinator call →
      (coordinator.isTradingAllowed call.checks node.breaker node.store).1 = true →
      call.crash = some 0 → holds (node.checked coordinator call).restart)
    (broken : node.Asks coordinator call →
      (coordinator.isTradingAllowed call.checks node.breaker node.store).1 = true →
      call.crash ≠ some 0 → node.store.hasKey (node.dequeued call).dedupeKey = false →
      (node.performed call).1 ≠ .finished →
      holds ((node.checked coordinator call).after (node.performed call))) :
    holds (node.submit coordinator call) := by
  unfold submit
  split
  · rename_i proceeds
    simp only [submitSerialized]
    split
    · rename_i known
      refine waits (fun asks => ?_) _
      simp only [List.any_eq_true, decide_eq_true_eq] at known
      obtain ⟨row, member, same⟩ := known
      exact asks.2 row member same
    · rename_i unknown
      have asks : node.Asks coordinator call := ⟨proceeds, by simpa using unknown⟩
      split
      · rename_i refusal
        exact refused asks (.inl refusal)
      · rename_i allowed
        rw [Bool.not_eq_false] at allowed
        split
        · rename_i crash
          exact stopped asks allowed crash
        · rename_i going
          split
          · rename_i taken
            exact refused asks (.inr ⟨going, taken⟩)
          · rename_i fresh
            rw [Bool.not_eq_true] at fresh
            split
            · -- Every check passed: the call reaches the adapter after all.
              rename_i finished
              exact absurd ⟨asks, allowed, going, fresh, finished⟩ misses
            · rename_i unfinished
              exact broken asks allowed going fresh unfinished
  · rename_i holdsBack
    have waiting : ¬ node.Asks coordinator call := fun asks => holdsBack asks.1
    split
    · exact waits waiting _
    · exact waits waiting node.queue

end Node

/-! ### Whole runs -/

namespace Node

/-- Every dedupe key was passed to the adapter at most once, with the intent whose row was saved. -/
def SubmitsOnce (node : Node) : Prop :=
  (node.calls.map fun call => call.1.dedupeKey).Nodup ∧
    ∀ call ∈ node.calls, ∃ state, call.2 = some (call.1.order state)

/-- A submission that reaches the adapter finds no row of another intent under its id. -/
def FindsOwnRow (coordinator : Coordinator) (node : Node) : Event → Prop
  | .submit call => node.Reaches coordinator call →
    ∀ row, node.store.getOrder (node.dequeued call).intentId = some row →
      ∃ state, row = (node.dequeued call).order state
  | _ => True

def Keyed (node : Node) : Prop :=
  ∀ call ∈ node.calls, node.store.hasKey call.1.dedupeKey = true

variable {coordinator : Coordinator} {node : Node} {call : SubmitCall}

theorem step_calls (event : Event)
    (misses : ∀ call, event = .submit call → ¬ node.Reaches coordinator call) :
    (node.step coordinator event).calls = node.calls ∧
      ∀ key, node.store.hasKey key = true →
        (node.step coordinator event).store.hasKey key = true := by
  have settled : ∀ (other : Node) (writes : List Write) (crash : Option Nat),
      (other.after (perform writes crash node.store)).calls = other.calls ∧
        ∀ key, node.store.hasKey key = true →
          (other.after (perform writes crash node.store)).store.hasKey key = true := by
    intro other writes crash
    simp only [after]
    split <;>
      exact ⟨rfl, fun key known => by
        simp only [restart, hasKey, perform_keys]
        exact known⟩
  cases event with
  | submit call =>
    refine submit_of_not_reaches (misses call rfl) (fun next => next.calls = node.calls ∧
      ∀ key, node.store.hasKey key = true → next.store.hasKey key = true)
      (fun _ _ => ⟨rfl, fun _ known => known⟩) (fun _ _ => ⟨rfl, fun _ known => known⟩)
      (fun _ _ _ => ⟨rfl, fun _ known => known⟩) (fun _ _ _ _ _ => ?_)
    simp only [after]
    split <;>
      exact ⟨rfl, fun key known => by
        simp only [restart, performed, hasKey, perform_keys, insertKey,
          List.any_append, Bool.or_eq_true]
        exact .inl known⟩
  | answer index outcome now crash =>
    simp only [step, answer]
    split
    · exact ⟨rfl, fun _ known => known⟩
    · split
      · exact ⟨rfl, fun _ known => known⟩
      · exact settled _ _ _
  | tradingAllowed checks => exact ⟨rfl, fun _ known => known⟩
  | beginReconcile => exact ⟨rfl, fun _ known => known⟩
  | endReconcile index remote crash =>
    simp only [step, endReconcile]
    split
    · exact settled _ _ _
    · exact ⟨rfl, fun _ known => known⟩
  | crash => exact ⟨rfl, fun _ known => known⟩

theorem submit_keys (reaches : node.Reaches coordinator call) {key : String}
    (known : node.store.hasKey key = true ∨ key = (node.dequeued call).dedupeKey) :
    (node.submit coordinator call).store.hasKey key = true := by
  rw [submit_of_reaches reaches]
  simp only [performed, hasKey, perform_keys, insertKey, List.any_append, List.any_cons,
    List.any_nil, Bool.or_false, Bool.or_eq_true, decide_eq_true_eq]
  exact known.imp_right Eq.symm

theorem submit_row (reaches : node.Reaches coordinator call) :
    (∃ state, (node.performed call).2.getOrder (node.dequeued call).intentId =
        some ((node.dequeued call).order state)) ↔
      ∀ row, node.store.getOrder (node.dequeued call).intentId = some row →
        ∃ state, row = (node.dequeued call).order state := by
  rw [performed, getOrder_writes reaches.2.2.2.2]
  change (∃ state, some (Option.elim (node.store.getOrder _) _ _) = _) ↔ _
  cases node.store.getOrder (node.dequeued call).intentId with
  | none => simp
  | some row =>
    constructor
    · rintro ⟨state, own⟩ _ ⟨⟩
      -- The update changed the state of the row and nothing else.
      have fields := Option.some.inj own
      refine ⟨row.state, ?_⟩
      cases row
      simp only [Option.elim_some, OrderIntent.order, Order.mk.injEq] at fields ⊢
      simp [fields]
    · intro own
      obtain ⟨state, rfl⟩ := own row rfl
      exact ⟨.submitting, rfl⟩

theorem step_once (event : Event) (once : node.SubmitsOnce ∧ node.Keyed)
    (own : node.FindsOwnRow coordinator event) :
    (node.step coordinator event).SubmitsOnce ∧ (node.step coordinator event).Keyed := by
  by_cases reaching : ∃ call, event = .submit call ∧ node.Reaches coordinator call
  · obtain ⟨call, rfl, reaches⟩ := reaching
    have row := (submit_row reaches).mpr (own reaches)
    have keys : (node.submit coordinator call).Keyed := by
      intro made member
      apply submit_keys reaches
      rw [submit_of_reaches reaches] at member
      rcases List.mem_append.mp member with old | new
      · exact .inl (once.2 made old)
      · exact .inr (by rw [List.mem_singleton.mp new])
    refine ⟨?_, keys⟩
    change (node.submit coordinator call).SubmitsOnce
    rw [submit_of_reaches reaches]
    constructor
    · -- The key was new, and the keys of the earlier calls were not.
      simp only [List.map_append, List.map_cons, List.map_nil]
      refine List.nodup_append.mpr ⟨once.1.1, by simp, ?_⟩
      rintro key old _ new rfl
      obtain ⟨made, member, same⟩ := List.mem_map.mp old
      rw [List.mem_singleton.mp new] at same
      have taken := once.2 made member
      rw [same, reaches.2.2.2.1] at taken
      cases taken
    · intro made member
      rcases List.mem_append.mp member with old | new
      · exact once.1.2 made old
      · rw [List.mem_singleton.mp new]
        exact row
  · obtain ⟨calls, keys⟩ := step_calls event
      (fun call same reaches => reaching ⟨call, same, reaches⟩)
    refine ⟨?_, fun made member => keys _ (once.2 made (calls ▸ member))⟩
    rw [SubmitsOnce, calls]
    exact once.1

theorem findsOwnRow_of_step (event : Event) (good : (node.step coordinator event).SubmitsOnce) :
    node.FindsOwnRow coordinator event := by
  cases event with
  | submit call =>
    intro reaches
    rw [← submit_row reaches]
    change (node.submit coordinator call).SubmitsOnce at good
    rw [submit_of_reaches reaches] at good
    exact good.2 _ (List.mem_append_right _ List.mem_cons_self)
  | _ => trivial

end Node

/-- Whatever the store holds at first. -/
theorem submits_once_iff (coordinator : Coordinator) (store : Store) (events : List Event) :
    Machine.Always (Node.step coordinator) Node.SubmitsOnce { store := store } events ↔
      Machine.Guarded (Node.step coordinator) (Node.FindsOwnRow coordinator) { store := store }
        events := by
  refine Machine.always_iff_guarded
    (fun (node : Node) (both : node.SubmitsOnce ∧ node.Keyed) => both.1)
    (fun _ event both (_ : True) own => Node.step_once event both own)
    (fun _ event _ _ good => Node.findsOwnRow_of_step event good) ?_ fun _ _ => trivial
  exact ⟨⟨List.nodup_nil, fun _ member => absurd member List.not_mem_nil⟩,
    fun _ member => absurd member List.not_mem_nil⟩

namespace ReusedId

def intent : OrderIntent where
  intentId := "intent-1"
  dedupeKey := "signal-1"
  accountId := "demo"
  strategyId := "trend"
  asset := "EURUSD"
  direction := "CALL"
  amount := Decimal.ofInt 1
  duration := 60

def put : OrderIntent :=
  { intent with dedupeKey := "signal-2", direction := "PUT" }

def events : List Event :=
  [.submit { intent := intent, checks := { now := 0 }, crash := some 4 },
    .submit { intent := put, checks := { now := 1 } }]

theorem calls : (Machine.run (Node.step { accountId := "demo" }) {} events).calls =
    [(put, some (intent.order .submitting))] := by
  decide

/-- The adapter gets the put order; the row that was saved is the call order. -/
theorem put_submitted_on_call_row :
    ¬ Machine.Always (Node.step { accountId := "demo" }) Node.SubmitsOnce {} events := by
  intro always
  have last : (Machine.run (Node.step { accountId := "demo" }) {} events).SubmitsOnce :=
    always.2.2
  obtain ⟨state, own⟩ := last.2 (put, some (intent.order .submitting)) (by rw [calls]; simp)
  have direction : "CALL" = "PUT" := congrArg Order.direction (Option.some.inj own)
  exact absurd direction (by decide)

end ReusedId

end TradingLab.Foundation
