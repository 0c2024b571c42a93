import TradingLab.Properties.BrokerSubmission

/-!
# The order book of the foundation

A crash between two transactions leaves an order without its reservation, or a refused order with
one; the reconciler copies the broker's states whatever the transition table or the reservations
say; and an order that a crash left in `SUBMITTING` is not among the pending ones.
-/
namespace TradingLab.Foundation

def needsReservation : OrderState → Bool
  | .reserved | .submitting | .unknown | .reconciling | .accepted | .manualReview => true
  | .created | .admitted | .rejectedRemote => false

namespace Store

variable (store : Store)

def Knows (orderId : String) : Prop :=
  ∃ row ∈ store.orders, row.internalOrderId = orderId

def Reserved (orderId : String) : Prop :=
  ∃ row ∈ store.reservations, row.orderId = orderId ∧ row.active = true

def Covers (orderId : String) (state : OrderState) : Prop :=
  (needsReservation state = true → store.Reserved orderId) ∧
    (state = .rejectedRemote → ¬ store.Reserved orderId)

def Lawful : Prop :=
  ∀ change ∈ store.changes, change.1 = change.2 ∨ canTransition change.1 change.2 = true

def Booked : Prop :=
  ∀ row ∈ store.orders, store.Covers row.internalOrderId row.state

def Linked : Prop :=
  ∀ row ∈ store.reservations, row.reservationId = reservationId row.orderId ∧
    store.Knows row.orderId

def Takes (order : Order) : Prop :=
  (∀ row ∈ store.orders, row.internalOrderId = order.internalOrderId →
    row.state = order.state ∨ canTransition row.state order.state = true) ∧
    store.Covers order.internalOrderId order.state

/-- While an abandoned order of the account is in `SUBMITTING`, an unknown one is pending. -/
def Blocks (accountId : String) (abandoned : List String) : Prop :=
  ∀ row ∈ store.orders, row.accountId = accountId → row.state = .submitting →
    row.internalOrderId ∈ abandoned → getPendingUnknown accountId store ≠ []

/-- A crash now would abandon no order, or leave trading blocked. -/
def CrashSafe (accountId : String) : Prop :=
  ∀ row ∈ store.orders, row.accountId = accountId → row.state = .submitting →
    getPendingUnknown accountId store ≠ []

end Store

/-- The calls save orders only, each where its state may follow the stored one and goes with the
    reservations. -/
def Faithful : List Write → Store → Prop
  | [], _ => True
  | .order row :: rest, store =>
    store.Takes row ∧ ∀ next, store.saveOrder row = .ok next → Faithful rest next
  | _ :: _, _ => False

namespace Node

variable (coordinator : Coordinator) (node : Node)

/-- The transition table and the reservations hold, and an order that a crash left in
    `SUBMITTING` makes `is_trading_allowed` false, whatever its other checks say. -/
def OrderBook : Prop :=
  node.store.Lawful ∧ node.store.Booked ∧
    ∀ row ∈ node.store.orders, row.accountId = coordinator.accountId → row.state = .submitting →
      row.internalOrderId ∈ node.abandoned → ∀ submitBreaker checks breaker,
        ({ coordinator with submitBreaker := submitBreaker }.isTradingAllowed checks breaker
          node.store).1 = false

/-- An admitted submission has a new order id, and no crash cuts it before the adapter is called; a
    broker's answer may follow `SUBMITTING`, and no crash splits a refusal from the release; a
    reconciliation copies only states that may follow; a crash leaves no order of the account in
    `SUBMITTING`, or an unknown one pending. -/
def Careful : Event → Prop
  | .submit call => node.Asks coordinator call →
    (coordinator.isTradingAllowed call.checks node.breaker node.store).1 = true →
    (∀ row ∈ node.store.orders, row.internalOrderId ≠ (node.dequeued call).intentId) ∧
      ∀ count, call.crash = some count → count ≤ 2 ∧ node.store.CrashSafe coordinator.accountId ∨
        6 ≤ count
  | .answer index outcome _ crash => ∀ submission state,
    node.submissions[index]? = some submission → outcome.state = some state →
    (∀ row ∈ node.store.orders, row.internalOrderId = submission.order.internalOrderId →
      row.state = .submitting) ∧
    canTransition .submitting state = true ∧ (state = .rejectedRemote → crash ≠ some 1) ∧
    ((perform (settlement submission.order state) crash node.store).1 = .crashed →
      (perform (settlement submission.order state) crash node.store).2.CrashSafe
        coordinator.accountId)
  | .endReconcile index remote crash => ∀ known orders,
    node.snapshots[index]? = some known → remote = some orders →
    Faithful (rebuildProjections known orders) node.store ∧
    (perform (rebuildProjections known orders) crash node.store).2.Blocks coordinator.accountId
      node.abandoned ∧
    ((perform (rebuildProjections known orders) crash node.store).1 = .crashed →
      (perform (rebuildProjections known orders) crash node.store).2.CrashSafe
        coordinator.accountId)
  | .crash => node.store.CrashSafe coordinator.accountId
  | _ => True

end Node

/-! ### One store call -/

namespace Store

variable {store next : Store} {order : Order}

structure Saved (store : Store) (order : Order) (next : Store) : Prop where
  rows : ∀ row ∈ next.orders,
    row ∈ store.orders ∧ row.internalOrderId ≠ order.internalOrderId ∨
      row.internalOrderId = order.internalOrderId ∧ row.state = order.state
  kept : ∀ row ∈ store.orders, row.internalOrderId ≠ order.internalOrderId → row ∈ next.orders
  known : next.Knows order.internalOrderId
  reservations : next.reservations = store.reservations
  changes : next.changes = store.changes ∨
    ∃ row ∈ store.orders, row.internalOrderId = order.internalOrderId ∧
      next.changes = store.changes ++ [(row.state, order.state)]

theorem saved_of_saveOrder (saved : store.saveOrder order = .ok next) : Saved store order next := by
  unfold saveOrder at saved
  split at saved
  · rename_i known found
    have member := List.mem_of_find?_eq_some found
    have same : known.internalOrderId = order.internalOrderId := by
      simpa using List.find?_some found
    cases saved
    refine ⟨?_, ?_, ⟨_, List.mem_map_of_mem member, by simp [same]⟩, rfl,
      .inr ⟨known, member, same, rfl⟩⟩
    · intro row updated
      obtain ⟨old, oldMember, rfl⟩ := List.mem_map.mp updated
      by_cases here : old.internalOrderId = order.internalOrderId
      · exact .inr (by simp [here])
      · exact .inl (by simp [here, oldMember])
    · intro row old other
      exact List.mem_map.mpr ⟨row, old, if_neg other⟩
  · rename_i missing
    have fresh : ∀ row ∈ store.orders, row.internalOrderId ≠ order.internalOrderId := by
      simpa [getOrder] using missing
    split at saved
    · cases saved
    · cases saved
      refine ⟨?_, fun row old _ => List.mem_append_left _ old,
        ⟨order, List.mem_append_right _ List.mem_cons_self, rfl⟩, rfl, .inl rfl⟩
      intro row member
      rcases List.mem_append.mp member with old | new
      · exact .inl ⟨old, fresh row old⟩
      · exact .inr (by simp [List.mem_singleton.mp new])

theorem saveOrder_of_knows (knows : store.Knows order.internalOrderId) :
    ∃ next, store.saveOrder order = .ok next := by
  obtain ⟨row, member, same⟩ := knows
  unfold saveOrder
  split
  · exact ⟨_, rfl⟩
  · rename_i missing
    have fresh : ∀ row ∈ store.orders, row.internalOrderId ≠ order.internalOrderId := by
      simpa [getOrder] using missing
    exact absurd same (fresh row member)

namespace Saved

variable (saved : Saved store order next)

include saved

theorem knows {orderId : String} (before : store.Knows orderId) : next.Knows orderId := by
  obtain ⟨row, member, rfl⟩ := before
  by_cases here : row.internalOrderId = order.internalOrderId
  · exact here ▸ saved.known
  · exact ⟨row, saved.kept row member here, rfl⟩

theorem state_of {row : Order} (member : row ∈ next.orders)
    (here : row.internalOrderId = order.internalOrderId) : row.state = order.state := by
  rcases saved.rows row member with ⟨-, other⟩ | ⟨-, state⟩
  · exact absurd here other
  · exact state

theorem covers_iff (orderId : String) (state : OrderState) :
    next.Covers orderId state ↔ store.Covers orderId state := by
  simp only [Covers, Reserved, saved.reservations]

theorem linked (linked : store.Linked) : next.Linked := by
  intro row member
  rw [saved.reservations] at member
  exact ⟨(linked row member).1, saved.knows (linked row member).2⟩

theorem lawful (lawful : store.Lawful)
    (follows : ∀ row ∈ store.orders, row.internalOrderId = order.internalOrderId →
      row.state = order.state ∨ canTransition row.state order.state = true) : next.Lawful := by
  rcases saved.changes with same | ⟨row, member, here, logged⟩
  · rw [Lawful, same]
    exact lawful
  · intro change logs
    rw [logged] at logs
    rcases List.mem_append.mp logs with old | new
    · exact lawful change old
    · rw [List.mem_singleton.mp new]
      exact follows row member here

theorem booked (others : ∀ row ∈ store.orders, row.internalOrderId ≠ order.internalOrderId →
      store.Covers row.internalOrderId row.state)
    (covers : store.Covers order.internalOrderId order.state) : next.Booked := by
  intro row member
  rw [saved.covers_iff]
  rcases saved.rows row member with ⟨old, other⟩ | ⟨here, state⟩
  · exact others row old other
  · rw [here, state]
    exact covers

end Saved

theorem reservationId_inj {one other : String} (same : reservationId one = reservationId other) :
    one = other := by
  simpa [reservationId] using same

structure Ledger (store : Store) : Prop where
  lawful : store.Lawful
  booked : store.Booked
  linked : store.Linked

theorem Ledger.takes (ledger : store.Ledger) (takes : store.Takes order)
    (saved : Saved store order next) : next.Ledger :=
  ⟨saved.lawful ledger.lawful takes.1, saved.booked (fun row member _ => ledger.booked row member)
    takes.2, saved.linked ledger.linked⟩

end Store

open Store

variable {store next : Store} {order : Order} {limit : Option Nat}

theorem Store.Ledger.perform_faithful {writes : List Write} (ledger : store.Ledger)
    (faithful : Faithful writes store) (limit : Option Nat) :
    (perform writes limit store).2.Ledger ∧
      ∀ orderId, store.Knows orderId → (perform writes limit store).2.Knows orderId := by
  induction writes generalizing store limit with
  | nil => exact ⟨ledger, fun _ known => known⟩
  | cons write rest ih =>
    cases write with
    | order row =>
      simp only [perform]
      split
      · exact ⟨ledger, fun _ known => known⟩
      · split
        · rename_i next applied
          have saved := saved_of_saveOrder applied
          obtain ⟨kept, knows⟩ := ih (ledger.takes faithful.1 saved) (faithful.2 next applied)
            (limit.map (· - 1))
          exact ⟨kept, fun orderId known => knows orderId (saved.knows known)⟩
        · exact ⟨ledger, fun _ known => known⟩
    | reservation row => exact faithful.elim
    | release id => exact faithful.elim

/-! ### An answer of the broker -/

theorem Store.Ledger.release (ledger : store.Ledger)
    (saved : Saved store order next) (refused : order.state = .rejectedRemote)
    (follows : ∀ row ∈ store.orders, row.internalOrderId = order.internalOrderId →
      row.state = order.state ∨ canTransition row.state order.state = true) :
    (next.releaseReservation (reservationId order.internalOrderId)).Ledger := by
  have linked := saved.linked ledger.linked
  -- The release clears the reservations of this order and no others.
  have reserved : ∀ orderId,
      (next.releaseReservation (reservationId order.internalOrderId)).Reserved orderId ↔
        orderId ≠ order.internalOrderId ∧ store.Reserved orderId := by
    intro orderId
    have named : ∀ row ∈ store.reservations, row.reservationId =
        reservationId order.internalOrderId ↔ row.orderId = order.internalOrderId := by
      intro row member
      rw [(ledger.linked row member).1]
      exact ⟨reservationId_inj, fun same => by rw [same]⟩
    simp only [Reserved, releaseReservation, List.mem_map, saved.reservations]
    constructor
    · rintro ⟨_, ⟨row, member, rfl⟩, here, active⟩
      by_cases own : row.orderId = order.internalOrderId
      · rw [if_pos ((named row member).mpr own)] at active
        cases active
      · rw [if_neg (mt (named row member).mp own)] at here active
        exact ⟨here ▸ own, row, member, here, active⟩
    · rintro ⟨other, row, member, here, active⟩
      have own : row.orderId ≠ order.internalOrderId := here ▸ other
      exact ⟨row, ⟨row, member, if_neg (mt (named row member).mp own)⟩, here, active⟩
  refine ⟨saved.lawful ledger.lawful follows, ?_, ?_⟩
  · intro row member
    rcases saved.rows row member with ⟨old, other⟩ | ⟨here, state⟩
    · simpa only [Covers, reserved, other, ne_eq, not_false_iff, true_and] using
        ledger.booked row old
    · rw [here, state, refused]
      exact ⟨(fun needs => by cases needs), fun _ held => ((reserved _).mp held).1 rfl⟩
  · intro row member
    obtain ⟨old, oldMember, rfl⟩ := List.mem_map.mp member
    have was := linked old oldMember
    split <;> exact was

structure Moves (store : Store) (orderId : String) (next : Store) : Prop where
  rows : ∀ row ∈ next.orders, row ∈ store.orders ∨ row.internalOrderId = orderId
  kept : ∀ row ∈ store.orders, row.internalOrderId ≠ orderId → row ∈ next.orders
  knows : ∀ other, store.Knows other → next.Knows other

namespace Moves

variable {store middle next : Store} {orderId : String}

theorem of_orders (same : next.orders = store.orders) : Moves store orderId next :=
  ⟨fun _ member => .inl (same ▸ member), fun _ member _ => same ▸ member,
    fun _ ⟨row, member, here⟩ => ⟨row, same ▸ member, here⟩⟩

theorem trans (first : Moves store orderId middle) (second : Moves middle orderId next) :
    Moves store orderId next :=
  ⟨fun row member => (second.rows row member).elim (first.rows row) .inr,
    fun row member other => second.kept row (first.kept row member other) other,
    fun other known => second.knows other (first.knows other known)⟩

theorem of_saved {order : Order} (saved : Saved store order next)
    (here : order.internalOrderId = orderId) : Moves store orderId next := by
  subst here
  exact ⟨fun row member => (saved.rows row member).imp And.left And.left, saved.kept,
    fun _ known => saved.knows known⟩

end Moves

theorem pending_ne_nil {accountId : String} :
    getPendingUnknown accountId store ≠ [] ↔
      ∃ row ∈ store.orders, row.accountId = accountId ∧
        (row.state = .unknown ∨ row.state = .reconciling) := by
  simp only [getPendingUnknown, listOrders, ne_eq, List.filter_eq_nil_iff, List.mem_filter,
    decide_eq_true_eq, not_forall, not_not]
  exact ⟨fun ⟨row, ⟨member, account⟩, state⟩ => ⟨row, member, account, state⟩,
    fun ⟨row, member, account, state⟩ => ⟨row, ⟨member, account⟩, state⟩⟩

theorem Store.Ledger.settlement {state : OrderState}
    (ledger : store.Ledger) (knows : store.Knows order.internalOrderId)
    (waiting : ∀ row ∈ store.orders, row.internalOrderId = order.internalOrderId →
      row.state = .submitting) (allowed : canTransition .submitting state = true)
    {crash : Option Nat} (whole : state = .rejectedRemote → crash ≠ some 1) :
    (perform (settlement order state) crash store).2.Ledger ∧
      Moves store order.internalOrderId (perform (settlement order state) crash store).2 ∧
      ∀ row ∈ (perform (settlement order state) crash store).2.orders,
        row ∈ store.orders ∨ row.state = state := by
  simp only [Foundation.settlement, perform]
  split
  · exact ⟨ledger, .of_orders rfl, fun _ member => .inl member⟩
  · rename_i going
    obtain ⟨next, applied⟩ : ∃ next, store.saveOrder { order with state := state } = .ok next :=
      saveOrder_of_knows knows
    have saved := saved_of_saveOrder applied
    have follows : ∀ row ∈ store.orders, row.internalOrderId = order.internalOrderId →
        row.state = state ∨ canTransition row.state state = true :=
      fun row member here => .inr (by rw [waiting row member here]; exact allowed)
    have rows : ∀ row ∈ next.orders, row ∈ store.orders ∨ row.state = state :=
      fun row member => (saved.rows row member).imp And.left And.right
    have moved : Moves store order.internalOrderId next := .of_saved saved rfl
    simp only [Write.apply, applied]
    by_cases refused : state = .rejectedRemote
    · -- Either both calls are made, or the crash comes before the first.
      simp only [if_pos refused, perform]
      have second : crash.map (· - 1) ≠ some 0 := by
        have split := whole refused
        rcases crash with _ | count
        · simp
        · simp only [ne_eq, Option.some.injEq] at going split
          simp only [Option.map_some, ne_eq, Option.some.injEq]
          omega
      rw [if_neg second]
      have released := ledger.release saved refused follows
      exact ⟨released, moved.trans (.of_orders rfl), rows⟩
    · simp only [if_neg refused, perform]
      obtain ⟨row, member, here⟩ := knows
      have reserved : store.Reserved order.internalOrderId := by
        have covers := ledger.booked row member
        rw [waiting row member here, here] at covers
        exact covers.1 rfl
      have takes : store.Takes { order with state := state } :=
        ⟨follows, fun _ => reserved, fun other => absurd other refused⟩
      exact ⟨ledger.takes takes saved, moved, rows⟩

/-! ### A submission -/

theorem Store.Ledger.insertKey (ledger : store.Ledger) (intent : OrderIntent) :
    (store.insertKey intent).Ledger :=
  ⟨ledger.lawful, ledger.booked, ledger.linked⟩

theorem perform_of_length_lt {writes : List Write}
    (beyond : ∀ count, limit = some count → writes.length < count) (store : Store) :
    perform writes limit store = perform writes none store := by
  have going : limit ≠ some 0 := fun zero => absurd (beyond 0 zero) (Nat.not_lt_zero _)
  induction writes generalizing limit store with
  | nil => simp [perform, going]
  | cons write rest ih =>
    have later : ∀ count, limit.map (· - 1) = some count → rest.length < count := by
      rintro count same
      obtain ⟨before, rfl, rfl⟩ := Option.map_eq_some_iff.mp same
      have far := beyond before rfl
      rw [List.length_cons] at far
      omega
    have next := fun following => ih later following
      (fun zero => absurd (later 0 zero) (Nat.not_lt_zero _))
    simp only [perform, if_neg going, next, Option.map_none, reduceCtorEq, if_false]

theorem Store.Ledger.reserve {reservation : Reservation} (active : reservation.active = true)
    (named : reservation.reservationId = reservationId reservation.orderId)
    (owned : reservation.orderId = order.internalOrderId)
    (lawful : next.Lawful) (linked : next.Linked) (known : next.Knows order.internalOrderId)
    (others : ∀ row ∈ next.orders, row.internalOrderId ≠ order.internalOrderId →
      next.Covers row.internalOrderId row.state)
    (own : ∀ row ∈ next.orders, row.internalOrderId = order.internalOrderId →
      row.state = .submitting) :
    { next with reservations := next.reservations ++ [reservation] : Store }.Ledger := by
  refine ⟨lawful, ?_, ?_⟩
  · intro row member
    by_cases here : row.internalOrderId = order.internalOrderId
    · rw [here, own row member here]
      refine ⟨fun _ => ⟨_, List.mem_append_right _ List.mem_cons_self, owned, active⟩,
        fun other => ?_⟩
      cases other
    · have same : ∀ state, Covers { next with reservations := next.reservations ++ [reservation] }
          row.internalOrderId state ↔ next.Covers row.internalOrderId state := by
        intro state
        simp [Covers, Reserved, or_and_right, exists_or, owned, Ne.symm here]
      exact (same _).mpr (others row member here)
  · intro row member
    rcases List.mem_append.mp member with old | new
    · exact linked row old
    · rw [List.mem_singleton.mp new]
      exact ⟨named, owned ▸ known⟩

theorem Store.Ledger.writes {intent : OrderIntent} (ledger : store.Ledger)
    (fresh : ∀ row ∈ store.orders, row.internalOrderId ≠ intent.intentId)
    (bounded : ∀ count, limit = some count → count ≤ 1 ∨ 5 ≤ count) :
    (perform intent.writes limit store).2.Ledger ∧
      Moves store intent.intentId (perform intent.writes limit store).2 ∧
      ((perform intent.writes limit store).1 = .finished →
        (perform intent.writes limit store).2.Knows intent.intentId) ∧
      ((perform intent.writes limit store).1 = .crashed →
        (∃ count, limit = some count ∧ count ≤ 1) ∧
          ∀ row ∈ (perform intent.writes limit store).2.orders,
            row ∈ store.orders ∨ row.state = .admitted) := by
  by_cases now : limit = some 0
  · subst now
    refine ⟨ledger, .of_orders rfl, fun finished => ?_,
      fun _ => ⟨⟨0, rfl, zero_le_one⟩, fun row member => .inl member⟩⟩
    cases finished
  cases admitted : store.saveOrder (intent.order .admitted) with
  | error message =>
    -- Another row has the dedupe key: the first call raises.
    simp only [OrderIntent.writes, perform, if_neg now, Write.apply, admitted]
    refine ⟨ledger, .of_orders rfl, fun finished => ?_, fun crashed => ?_⟩
    · cases finished
    · cases crashed
  | ok first =>
    have one := saved_of_saveOrder admitted
    have takes : store.Takes (intent.order .admitted) :=
      ⟨fun row member here => absurd here (fresh row member), by simp [Covers, needsReservation,
        OrderIntent.order]⟩
    by_cases early : limit = some 1
    · subst early
      simp only [OrderIntent.writes, perform, Write.apply, admitted, Option.map_some,
        Nat.sub_self, if_true, Option.some.injEq, one_ne_zero, if_false]
      refine ⟨ledger.takes takes one, .of_saved one rfl, fun finished => ?_,
        fun _ => ⟨⟨1, rfl, le_rfl⟩, fun row member => (one.rows row member).imp And.left And.right⟩⟩
      cases finished
    · rw [perform_of_length_lt (fun count same => ?_)]
      · obtain ⟨second, reserved⟩ : ∃ second,
            first.saveOrder (intent.order .reserved) = .ok second := saveOrder_of_knows one.known
        have two := saved_of_saveOrder reserved
        obtain ⟨third, submitting⟩ : ∃ third,
            second.saveOrder (intent.order .submitting) = .ok third := saveOrder_of_knows two.known
        have three := saved_of_saveOrder submitting
        have moves : Moves store intent.intentId third :=
          ((Moves.of_saved one rfl).trans (.of_saved two rfl)).trans (.of_saved three rfl)
        have reservations : third.reservations = store.reservations := by
          rw [three.reservations, two.reservations, one.reservations]
        -- The id is new, and so is the name of its reservation.
        have unnamed : (third.reservations.any fun row =>
            row.reservationId = reservationId intent.intentId) = false := by
          rw [List.any_eq_false]
          intro row member named
          rw [reservations] at member
          obtain ⟨name, owner, known, here⟩ := ledger.linked row member
          rw [decide_eq_true_eq, name] at named
          exact fresh owner known (here.trans (reservationId_inj named))
        have lawful : third.Lawful :=
          three.lawful (two.lawful (one.lawful ledger.lawful takes.1) fun row member here =>
            .inr (by rw [one.state_of member here]; rfl)) fun row member here =>
              .inr (by rw [two.state_of member here]; rfl)
        have others : ∀ row ∈ third.orders, row.internalOrderId ≠ intent.intentId →
            third.Covers row.internalOrderId row.state := by
          intro row member other
          rw [three.covers_iff, two.covers_iff, one.covers_iff]
          exact ledger.booked row ((moves.rows row member).resolve_right other)
        have linked := three.linked (two.linked (one.linked ledger.linked))
        simp only [OrderIntent.writes, perform, Write.apply, admitted, reserved, submitting,
          saveReservation, unnamed, Option.map_none, reduceCtorEq, if_false, Bool.false_eq_true]
        refine ⟨.reserve rfl rfl rfl lawful linked three.known others
          fun row member here => three.state_of member here,
          moves.trans (.of_orders rfl), fun _ => three.known, fun crashed => ?_⟩
        cases crashed
      · have late := bounded count same
        change 4 < count
        have : count ≠ 0 := fun zero => now (zero ▸ same)
        have : count ≠ 1 := fun last => early (last ▸ same)
        omega

/-! ### Whole runs -/

namespace Node

variable {coordinator : Coordinator} {node : Node} {call : SubmitCall}

structure Kept (coordinator : Coordinator) (node : Node) : Prop where
  ledger : node.store.Ledger
  blocks : node.store.Blocks coordinator.accountId node.abandoned
  tracked : ∀ submission ∈ node.submissions, node.store.Knows submission.order.internalOrderId
  traced : ∀ orderId ∈ node.abandoned, node.store.Knows orderId

theorem pending_of_allowed {checks : Checks} {breaker : CircuitBreaker} {store : Store}
    (allowed : (coordinator.isTradingAllowed checks breaker store).1 = true) :
    getPendingUnknown coordinator.accountId store = [] := by
  simp only [Coordinator.isTradingAllowed] at allowed
  split at allowed
  · cases allowed
  · rw [Bool.and_eq_true, List.isEmpty_iff] at allowed
    exact allowed.2

section

variable (kept : node.Kept coordinator)
include kept

theorem Kept.orderBook : node.OrderBook coordinator := by
  refine ⟨kept.ledger.lawful, kept.ledger.booked, ?_⟩
  intro row member account state left submitBreaker checks breaker
  by_contra allowed
  rw [Bool.not_eq_false] at allowed
  have pending := pending_of_allowed allowed
  exact kept.blocks row member account state left pending

theorem Kept.restart
    (safe : node.store.CrashSafe coordinator.accountId) : node.restart.Kept coordinator := by
  refine ⟨kept.ledger, fun row member account state _ => safe row member account state,
    fun _ none => absurd none List.not_mem_nil, ?_⟩
  intro orderId left
  rcases List.mem_append.mp left with old | new
  · exact kept.traced orderId old
  · obtain ⟨row, member, rfl⟩ := List.mem_map.mp new
    exact ⟨row, (List.mem_filter.mp member).1, rfl⟩

theorem Kept.after {performed : Ending × Store}
    (ledger : performed.2.Ledger) (knows : ∀ orderId, node.store.Knows orderId →
      performed.2.Knows orderId) (blocks : performed.2.Blocks coordinator.accountId node.abandoned)
    (safe : performed.1 = .crashed → performed.2.CrashSafe coordinator.accountId) :
    (node.after performed).Kept coordinator := by
  have next : { node with store := performed.2 }.Kept coordinator :=
    ⟨ledger, blocks, fun submission waits => knows _ (kept.tracked submission waits),
      fun orderId left => knows _ (kept.traced orderId left)⟩
  simp only [Node.after]
  split
  · rename_i crashed
    exact next.restart (safe crashed)
  · exact next

theorem Kept.performed
    (careful : node.Careful coordinator (.submit call)) (asks : node.Asks coordinator call)
    (allowed : (coordinator.isTradingAllowed call.checks node.breaker node.store).1 = true) :
    (node.performed call).2.Ledger ∧
      Moves node.store (node.dequeued call).intentId (node.performed call).2 ∧
      (node.performed call).2.Blocks coordinator.accountId node.abandoned ∧
      ((node.performed call).1 = .finished →
        (node.performed call).2.Knows (node.dequeued call).intentId) ∧
      ((node.performed call).1 = .crashed →
        (node.performed call).2.CrashSafe coordinator.accountId) := by
  obtain ⟨fresh, early⟩ := careful asks allowed
  have pending := pending_of_allowed allowed
  have bounded : ∀ count, call.crash.map (· - 1) = some count → count ≤ 1 ∨ 5 ≤ count := by
    intro count same
    obtain ⟨before, set, rfl⟩ := Option.map_eq_some_iff.mp same
    rcases early before set with ⟨soon, -⟩ | late <;> omega
  obtain ⟨ledger, moves, known, crashed⟩ :=
    (kept.ledger.insertKey (node.dequeued call)).writes fresh bounded
  have keyed : Moves node.store (node.dequeued call).intentId
      (node.store.insertKey (node.dequeued call)) := .of_orders rfl
  refine ⟨ledger, keyed.trans moves, ?_, known, ?_⟩
  · -- No unknown order is pending, so no abandoned order is left; the new id is not one of them.
    intro row member account state left
    rcases moves.rows row member with old | here
    · exact absurd pending (kept.blocks row old account state left)
    · obtain ⟨other, known, same⟩ := kept.traced _ left
      exact absurd (same.trans here) (fresh other known)
  · intro stopped row member account state
    obtain ⟨⟨count, limit, soon⟩, rows⟩ := crashed stopped
    obtain ⟨before, set, rfl⟩ := Option.map_eq_some_iff.mp limit
    rcases rows row member with old | admitted
    · rcases early before set with ⟨-, safe⟩ | late
      · exact absurd pending (safe row old account state)
      · omega
    · rw [admitted] at state
      cases state

theorem Kept.submit (careful : node.Careful coordinator (.submit call)) :
    (node.submit coordinator call).Kept coordinator := by
  by_cases reaches : node.Reaches coordinator call
  · have ⟨asks, allowed, _, _, finished⟩ := reaches
    obtain ⟨ledger, moves, blocks, known, -⟩ := kept.performed careful asks allowed
    rw [submit_of_reaches reaches]
    refine ⟨ledger, blocks, ?_, fun orderId left => moves.knows _ (kept.traced orderId left)⟩
    intro submission waits
    rcases List.mem_append.mp waits with old | new
    · exact moves.knows _ (kept.tracked submission old)
    · rw [List.mem_singleton.mp new]
      exact known finished
  · have checked : (node.checked coordinator call).Kept coordinator :=
      ⟨kept.ledger, kept.blocks, kept.tracked, kept.traced⟩
    refine submit_of_not_reaches reaches (·.Kept coordinator)
      (fun _ _ => ⟨kept.ledger, kept.blocks, kept.tracked, kept.traced⟩) (fun _ _ => checked)
      (fun asks allowed crash => ?_) (fun asks allowed _ _ _ => ?_)
    · rcases (careful asks allowed).2 0 crash with ⟨-, safe⟩ | late
      · exact checked.restart safe
      · omega
    · obtain ⟨ledger, moves, blocks, -, safe⟩ := kept.performed careful asks allowed
      exact checked.after ledger moves.knows blocks safe

theorem Kept.answer {index : Nat} {outcome : AdapterOutcome} {now : ℚ} {crash : Option Nat}
    (careful : node.Careful coordinator (.answer index outcome now crash)) :
    (node.answer coordinator index outcome now crash).Kept coordinator := by
  unfold Node.answer
  split
  · exact kept
  · rename_i submission waiting
    have answered : ∀ breaker, { node with
        submissions := node.submissions.eraseIdx index
        breaker := breaker }.Kept coordinator := fun breaker =>
      ⟨kept.ledger, kept.blocks, fun submission waits =>
        kept.tracked submission (List.mem_of_mem_eraseIdx waits), kept.traced⟩
    cases answer : outcome.state with
    | none => exact answered _
    | some state =>
      obtain ⟨still, allowed, whole, safe⟩ := careful submission state waiting answer
      have known := kept.tracked submission (List.mem_of_getElem? waiting)
      obtain ⟨ledger, moves, rows⟩ := kept.ledger.settlement known still allowed whole
      refine (answered _).after ledger moves.knows ?_ safe
      intro row member account submitting left
      -- The order that was answered is in `SUBMITTING` no longer, and it was not a pending one.
      rcases rows row member with old | moved
      · obtain ⟨other, there, pending⟩ := pending_ne_nil.mp (kept.blocks row old account submitting
          left)
        refine pending_ne_nil.mpr ⟨other, moves.kept other there fun here => ?_, pending⟩
        rw [still other there here] at pending
        rcases pending.2 with state | state <;> cases state
      · rw [← moved, submitting] at allowed
        cases allowed

theorem Kept.step (event : Event) (careful : node.Careful coordinator event) :
    (node.step coordinator event).Kept coordinator := by
  cases event with
  | submit call => exact kept.submit careful
  | answer index outcome now crash => exact kept.answer careful
  | tradingAllowed checks => exact ⟨kept.ledger, kept.blocks, kept.tracked, kept.traced⟩
  | beginReconcile => exact ⟨kept.ledger, kept.blocks, kept.tracked, kept.traced⟩
  | endReconcile index remote crash =>
    have dropped : { node with snapshots := node.snapshots.eraseIdx index }.Kept coordinator :=
      ⟨kept.ledger, kept.blocks, kept.tracked, kept.traced⟩
    simp only [Node.step, Node.endReconcile]
    split
    · rename_i known orders read
      obtain ⟨faithful, blocks, safe⟩ := careful known orders read rfl
      obtain ⟨ledger, knows⟩ := kept.ledger.perform_faithful faithful crash
      exact dropped.after ledger knows blocks safe
    · exact dropped
  | crash => exact kept.restart careful

end

end Node

namespace SampleBook

def coordinator : Coordinator where
  accountId := "demo"

open ReusedId (intent)

def submission : Event :=
  .submit { intent := intent, checks := { now := 0 } }

def refused : List Event :=
  [submission, .answer 0 (.failed "REJECTED") 1 none]

theorem submitted : (Node.step coordinator {} submission).submissions =
      [{ lock := "EURUSD", order := intent.order .submitting }] ∧
    (Node.step coordinator {} submission).store.orders = [intent.order .submitting] := by
  decide

def unreserved : List Event :=
  [.submit { intent := intent, checks := { now := 0 }, crash := some 3 }]

def abandoned : List Event :=
  [submission, .crash]

def contradicted : List Event :=
  [submission, .answer 0 (.result .accepted) 1 none, .beginReconcile,
    .endReconcile 0 (some [intent.order .rejectedRemote]) none]

theorem unreserved_store : (Machine.run (Node.step coordinator) {} unreserved).store.orders =
      [intent.order .reserved] ∧
    (Machine.run (Node.step coordinator) {} unreserved).store.reservations = [] := by
  decide

theorem abandoned_store : (Machine.run (Node.step coordinator) {} abandoned).store.orders =
      [intent.order .submitting] ∧
    (Machine.run (Node.step coordinator) {} abandoned).abandoned = ["intent-1"] ∧
    (coordinator.isTradingAllowed { now := 2 } {}
      (Machine.run (Node.step coordinator) {} abandoned).store).1 = true := by
  decide

theorem contradicted_store :
    (OrderState.accepted, OrderState.rejectedRemote) ∈
      (Machine.run (Node.step coordinator) {} contradicted).store.changes := by
  decide

end SampleBook

end TradingLab.Foundation
