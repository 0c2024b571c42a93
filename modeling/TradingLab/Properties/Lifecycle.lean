import TradingLab.Persistence.Decomposition

/-!
# The life of an exposure

An intent's exposure is live in some non-terminal state, or has settled (with or without a realized
P&L), or was rejected. The order and the reservation of every intent always encode one of these
states, and every writer operation moves along their steps.
-/
namespace TradingLab

open Relational
open Database

/-! ### The abstract machine -/

abbrev LiveState := { s : OrderState // s.isTerminal = false }

inductive Lifecycle
  | live (state : LiveState)
  | settled (pnl : Option Int)
  | rejected
deriving DecidableEq

namespace Lifecycle

def created : Lifecycle := live ⟨.outboxed, rfl⟩

inductive Step : Lifecycle → Lifecycle → Prop
  | move {s s' : LiveState} (allowed : s'.1 ∈ allowedTransitions s.1) : Step (live s) (live s')
  | settle {s : LiveState} (pnl : Option Int) (allowed : .settled ∈ allowedTransitions s.1) :
      Step (live s) (settled pnl)
  | reject {s : LiveState} (allowed : .rejected ∈ allowedTransitions s.1) :
      Step (live s) rejected

def state : Lifecycle → OrderState
  | live s => s.1
  | settled _ => .settled
  | rejected => .rejected

variable {l l' : Lifecycle}

theorem not_step_of_terminal (ended : l.state.isTerminal = true) :
    ¬ Step l l' := by
  intro step
  cases l with
  | live s => exact absurd ended (by simp [state, s.2])
  | settled | rejected => cases step

theorem eq_of_terminal (ended : l.state.isTerminal = true)
    (path : Relation.ReflTransGen Step l l') : l' = l := by
  induction path with
  | refl => rfl
  | tail _ step ih =>
    subst ih
    exact absurd step (not_step_of_terminal ended)

end Lifecycle

/-- What an intent may become: it is created live, and then takes steps. -/
inductive Advances : Option Lifecycle → Option Lifecycle → Prop
  | absent : Advances none none
  | created {l : Lifecycle} (path : Relation.ReflTransGen Lifecycle.Step .created l) :
      Advances none (some l)
  | steps {l l' : Lifecycle} (path : Relation.ReflTransGen Lifecycle.Step l l') :
      Advances (some l) (some l')

namespace Advances

theorem refl : ∀ l : Option Lifecycle, Advances l l
  | none => .absent
  | some _ => .steps .refl

theorem trans {a b c : Option Lifecycle} (first : Advances a b) (second : Advances b c) :
    Advances a c := by
  cases first with
  | absent => exact second
  | created path =>
    cases second with
    | steps rest => exact .created (path.trans rest)
  | steps path =>
    cases second with
    | steps rest => exact .steps (path.trans rest)

end Advances

/-! ### Exposures in the tables -/

@[ext] structure Exposure where
  order : OrderState
  realizedPnlMinor : Option Int
  pnlApplicationCount : Nat
  reservation : RiskReservationState
  releaseCount : Nat
deriving DecidableEq

def Exposure.of (o : OrderRow) (r : ReservationRow) : Exposure :=
  ⟨o.state, o.realizedPnlMinor, o.pnlApplicationCount, r.state, r.releaseCount⟩

def Database.exposure (db : Database) (intentId : String) : Option Exposure :=
  (db.order intentId).bind fun o => (db.reservation intentId).map fun r => Exposure.of o r

/-- How the tables encode a state of the abstract machine. -/
def Lifecycle.exposure : Lifecycle → Exposure
  | live s => ⟨s.1, none, 0, .active, 0⟩
  | settled pnl => ⟨.settled, pnl, if pnl.isSome then 1 else 0, .released, 1⟩
  | rejected => ⟨.rejected, none, 0, .released, 1⟩

@[simp] theorem Lifecycle.exposure_order (l : Lifecycle) : l.exposure.order = l.state := by
  cases l <;> rfl

def Exposure.transition (e : Exposure) (s : OrderState) (pnl : Option Int) : Exposure :=
  if e.order = s then e
  else { e with
    order := s
    realizedPnlMinor := pnl.or e.realizedPnlMinor
    pnlApplicationCount :=
      e.pnlApplicationCount + if s = .settled ∧ pnl.isSome then 1 else 0 }

def Exposure.release (e : Exposure) : Exposure :=
  if e.reservation = .active then
    { e with reservation := .released, releaseCount := e.releaseCount + 1 }
  else e

section Primitives
variable {db db' : Database}

theorem exposure_transitionOrder {intentId : String} {s : OrderState} {at_ : Instant}
    {brokerOrderId : Option String} {pnl : Option Int}
    (h : db.transitionOrder intentId s at_ brokerOrderId pnl = .ok db') (j : String) :
    db'.exposure j =
      if j = intentId then (db.exposure j).map fun e => e.transition s pnl else db.exposure j := by
  obtain ⟨row, found, ⟨same, rfl⟩ | ⟨differs, -, rfl⟩⟩ := transitionOrder_eq_ok h
  · split
    · rename_i here
      rw [← here] at found
      simp only [exposure, found, Option.bind_some, Option.map_map]
      congr 1
      funext r
      simp [Exposure.transition, Exposure.of, same]
    · rfl
  · have reservation : (db.updateOrders (fun o => o.intentId == intentId)
        (fun o => o.transition s at_ brokerOrderId pnl)
        (OrderRow.transition_keys s at_ brokerOrderId pnl)).reservation j = db.reservation j := rfl
    rw [exposure, order_updateOrders_intent, reservation]
    split
    · rename_i here
      subst here
      simp only [exposure, found, Option.map_some, Option.bind_some, Option.map_map]
      congr 1
      funext r
      simp [Exposure.transition, Exposure.of, differs, OrderRow.transition]
    · rfl

theorem exposure_releaseForIntent (intentId : String) (releasedAt : Instant) (reason : String)
    (evidence : Option String) (j : String) :
    (db.releaseForIntent intentId releasedAt reason evidence).exposure j =
      if j = intentId then (db.exposure j).map Exposure.release else db.exposure j := by
  have order : (db.releaseForIntent intentId releasedAt reason evidence).order j = db.order j := rfl
  have only : ∀ r : ReservationRow, (r.intentId == intentId && r.state == .active) = true →
      r.intentId = intentId := by
    intro r h
    simp only [Bool.and_eq_true, beq_iff_eq] at h
    exact h.1
  have reservation : (db.releaseForIntent intentId releasedAt reason evidence).reservation j =
      if j = intentId then (db.reservation intentId).map (Table.change
        (fun r => r.intentId == intentId && r.state == .active)
        fun r => r.release releasedAt reason evidence) else db.reservation j :=
    Table.lookup_update_key (ReservationRow.release_keeps releasedAt reason evidence)
      (fun _ => rfl) only j
  rw [exposure, order, reservation]
  split
  · rename_i here
    subst here
    simp only [exposure]
    cases db.order j with
    | none => rfl
    | some o =>
      cases found : db.reservation j with
      | none => rfl
      | some r =>
        have holds : r.intentId = j := (Table.mem_of_lookup found).2
        by_cases active : r.state = .active <;>
          simp [Exposure.release, Exposure.of, Table.change, holds, active, ReservationRow.release]
  · rfl

theorem exposure_note {p : OrderRow → Bool} {f : OrderRow → OrderRow}
    {keys : OrderRow.SameKeys f} (same : ∀ o, (f o).SameFacts o) (j : String) :
    (db.updateOrders p f keys).exposure j = db.exposure j := by
  have reservation : (db.updateOrders p f keys).reservation j = db.reservation j := rfl
  rw [exposure, order_updateOrders, reservation, exposure]
  cases db.order j with
  | none => rfl
  | some o =>
    have facts : ∀ r, Exposure.of (Table.change p f o) r = Exposure.of o r := by
      intro r
      simp only [Exposure.of, Table.column_change (fun o => (same o).state) o,
        Table.column_change (fun o => (same o).realizedPnlMinor) o,
        Table.column_change (fun o => (same o).pnlApplicationCount) o]
    simp only [Option.map_some, Option.bind_some, facts]

end Primitives

/-! ### Refinement -/

/-- The tables encode, intent by intent, the states `lives`. -/
def Refines (db : Database) (lives : String → Option Lifecycle) : Prop :=
  ∀ intentId, db.exposure intentId = (lives intentId).map Lifecycle.exposure

theorem refines_empty : Refines Database.empty fun _ => none :=
  fun _ => rfl

variable {db db' : Database} {lives : String → Option Lifecycle} {intentId : String} {l : Lifecycle}
  {s : OrderState} {pnl : Option Int}

theorem Refines.congr (same : ∀ j, db'.exposure j = db.exposure j) (refines : Refines db lives) :
    Refines db' lives :=
  fun j => (same j).trans (refines j)

theorem Refines.updateOutbox
    (refines : Refines db lives) (p : OutboxRow → Bool) {f : OutboxRow → OutboxRow}
    (keys : OutboxRow.SameKeys f) : Refines (db.updateOutbox p f keys) lives :=
  fun j => refines j

theorem Refines.update (refines : Refines db lives) (here : db'.exposure intentId = some l.exposure)
    (others : ∀ j, j ≠ intentId → db'.exposure j = db.exposure j) :
    Refines db' (Function.update lives intentId (some l)) := by
  intro j
  by_cases same : j = intentId
  · subst same
    simp [here]
  · simp only [Function.update_of_ne same, others j same, refines j]

theorem Lifecycle.exposure_move (live : s.isTerminal = false)
    (allowed : l.state = s ∨ s ∈ allowedTransitions l.state) :
    ∃ l', Relation.ReflTransGen Step l l' ∧ l.exposure.transition s none = l'.exposure := by
  by_cases same : l.state = s
  · exact ⟨l, .refl, by simp [Exposure.transition, same]⟩
  · have allowed := allowed.resolve_left same
    cases l with
    | live s₀ =>
      refine ⟨.live ⟨s, live⟩, .single (.move allowed), ?_⟩
      have differs : ¬ s₀.1 = s := same
      simp [Exposure.transition, Lifecycle.exposure, differs]
    | settled | rejected => cases allowed

theorem Lifecycle.exposure_close
    (terminal : s.isTerminal = true) (onlySettled : pnl ≠ none → s = .settled)
    (allowed : l.state = s ∨ s ∈ allowedTransitions l.state) :
    ∃ l', Relation.ReflTransGen Step l l' ∧
      (l.exposure.transition s pnl).release = l'.exposure := by
  by_cases same : l.state = s
  · refine ⟨l, .refl, ?_⟩
    have released : l.exposure.reservation = .released := by
      cases l with
      | live s₀ =>
        have : s₀.1.isTerminal = true := (congrArg OrderState.isTerminal same).trans terminal
        rw [s₀.2] at this
        cases this
      | settled | rejected => rfl
    simp [Exposure.transition, same, Exposure.release, released]
  · have allowed := allowed.resolve_left same
    cases l with
    | live s₀ =>
      have differs : ¬ s₀.1 = s := same
      cases s with
      | settled =>
        refine ⟨.settled pnl, .single (.settle pnl allowed), ?_⟩
        cases pnl <;>
          simp [Exposure.transition, Exposure.release, Lifecycle.exposure, differs]
      | rejected =>
        have noPnl : pnl = none := by
          by_contra given
          cases onlySettled given
        subst noPnl
        refine ⟨.rejected, .single (.reject allowed), ?_⟩
        simp [Exposure.transition, Exposure.release, Lifecycle.exposure, differs]
      | outboxed | dispatching | accepted | opened | unknown | reconciling | settlementUnknown
      | manualReview | sendBlocked => cases terminal
    | settled | rejected => cases allowed

theorem allowed_of_transitionOrder {at_ : Instant} {brokerOrderId : Option String}
    (encoded : db.exposure intentId = some l.exposure)
    (h : db.transitionOrder intentId s at_ brokerOrderId pnl = .ok db') :
    l.state = s ∨ s ∈ allowedTransitions l.state := by
  obtain ⟨row, found, moved⟩ := transitionOrder_eq_ok h
  simp only [exposure, found, Option.bind_some, Option.map_eq_some_iff] at encoded
  obtain ⟨r, -, encoded⟩ := encoded
  have state : row.state = l.state := by
    rw [← Lifecycle.exposure_order, ← encoded]
    rfl
  rcases moved with ⟨same, -⟩ | ⟨-, allowed, -⟩
  · exact .inl (state.symm.trans same)
  · exact .inr (state ▸ allowed)

section

variable (refines : Refines db lives)
include refines

theorem refines_modify {f : Exposure → Exposure} (modified : ∀ j, db'.exposure j =
      if j = intentId then (db.exposure j).map f else db.exposure j)
    (path : ∀ l, db.exposure intentId = some l.exposure →
      ∃ l', Relation.ReflTransGen Lifecycle.Step l l' ∧ f l.exposure = l'.exposure) :
    ∃ lives', Refines db' lives' ∧ ∀ j, Advances (lives j) (lives' j) := by
  have others : ∀ j, j ≠ intentId → db'.exposure j = db.exposure j := by
    intro j elsewhere
    rw [modified j, if_neg elsewhere]
  have here := modified intentId
  rw [if_pos rfl, refines intentId] at here
  cases alive : lives intentId with
  | none =>
    refine ⟨lives, fun j => ?_, fun j => .refl _⟩
    by_cases same : j = intentId
    · subst same
      rw [here, alive]
      rfl
    · rw [others j same, refines j]
  | some l =>
    have encoded : db.exposure intentId = some l.exposure := by rw [refines intentId, alive]; rfl
    obtain ⟨l', steps, becomes⟩ := path l encoded
    refine ⟨_, refines.update (l := l') ?_ others, fun j => ?_⟩
    · rw [here, alive, Option.map_some, Option.map_some, becomes]
    · by_cases same : j = intentId
      · subst same
        rw [Function.update_self, alive]
        exact .steps steps
      · rw [Function.update_of_ne same]
        exact .refl _

theorem refines_creates (creates : Creates db db') :
    ∃ lives', Refines db' lives' ∧ ∀ j, Advances (lives j) (lives' j) := by
  obtain ⟨request, command, intentId, reservationId, orderId, createdAt, limits, persisted⟩ :=
    creates
  have absent : lives intentId = none := by
    have := refines intentId
    rw [exposure, order_fresh persisted] at this
    simpa using this.symm
  have here : db'.exposure intentId = some Lifecycle.created.exposure := by
    rw [exposure, order_created persisted, reservation_created persisted, if_pos rfl,
      if_pos rfl]
    rfl
  refine ⟨_, refines.update here fun j elsewhere => ?_, fun j => ?_⟩
  · rw [exposure, order_created persisted, reservation_created persisted,
      if_neg (Ne.symm elsewhere), if_neg (Ne.symm elsewhere)]
    rfl
  · by_cases same : j = intentId
    · subst same
      rw [absent, Function.update_self]
      exact .created .refl
    · rw [Function.update_of_ne same]
      exact .refl _

/-- **Simulation**: every change of the tables is, intent by intent, a path of the
    abstract machine. -/
theorem refines_change (change : Change db db') :
    ∃ lives', Refines db' lives' ∧ ∀ j, Advances (lives j) (lives' j) := by
  have unchanged : (∀ j, db'.exposure j = db.exposure j) →
      ∃ lives', Refines db' lives' ∧ ∀ j, Advances (lives j) (lives' j) :=
    fun same => ⟨lives, refines.congr same, fun j => .refl _⟩
  cases change with
  | move intentId s at_ brokerOrderId live moved =>
    refine refines_modify refines (exposure_transitionOrder moved) fun l encoded => ?_
    exact Lifecycle.exposure_move live (allowed_of_transitionOrder encoded moved)
  | claim message claimedAt _ _ moved =>
    -- Claiming the message does not touch the exposure; the transition does.
    exact refines_modify (refines.updateOutbox _ _)
      (exposure_transitionOrder moved) fun l encoded =>
      Lifecycle.exposure_move rfl (allowed_of_transitionOrder encoded moved)
  | @close moved intentId s at_ brokerOrderId pnl releasedAt reason evidence terminal onlySettled
      transition =>
    have closed : ∀ j, (moved.releaseForIntent intentId releasedAt reason evidence).exposure j =
        if j = intentId then (db.exposure j).map fun e => (e.transition s pnl).release
        else db.exposure j := by
      intro j
      rw [exposure_releaseForIntent, exposure_transitionOrder transition]
      split <;> simp [Function.comp_def]
    refine refines_modify refines closed fun l encoded => ?_
    exact Lifecycle.exposure_close terminal onlySettled
      (allowed_of_transitionOrder encoded transition)
  | note same => exact unchanged fun j => exposure_note same j
  | settleDigit _ _ _ _ _ _ _ _ applied =>
    obtain ⟨row, rfl⟩ := applyDigitRuntimeSettlement_frame applied
    exact unchanged fun j => rfl
  | message | inbox | evidence | attempts | processed | digitRow =>
    exact unchanged fun j => rfl

theorem refines_changes (changes : Changes db db') :
    ∃ lives', Refines db' lives' ∧ ∀ j, Advances (lives j) (lives' j) := by
  induction changes with
  | refl => exact ⟨lives, refines, fun j => .refl _⟩
  | tail _ change ih =>
    obtain ⟨middle, refinesMiddle, first⟩ := ih
    obtain ⟨last, refinesLast, second⟩ := refines_change refinesMiddle change
    exact ⟨last, refinesLast, fun j => (first j).trans (second j)⟩

/-- **Refinement**: a run of the writer is, intent by intent, a run of the abstract
    machine. -/
theorem refines_run (ops : List WriterOp) :
    ∃ lives', Refines (Machine.run writerStep db ops) lives' ∧
      ∀ j, Advances (lives j) (lives' j) := by
  induction ops generalizing db lives with
  | nil => exact ⟨lives, refines, fun j => .refl _⟩
  | cons op rest ih =>
    have first : ∃ middle, Refines (writerStep db op) middle ∧
        ∀ j, Advances (lives j) (middle j) := by
      refine Machine.transact_cases
        (fun next => ∃ middle, Refines next middle ∧ ∀ j, Advances (lives j) (middle j))
        ⟨lives, refines, fun j => .refl _⟩ fun _ next committed => ?_
      rcases op.creates_or_changes committed with created | changes
      · exact refines_creates refines created
      · exact refines_changes refines changes
    obtain ⟨middle, refinesMiddle, steps⟩ := first
    obtain ⟨last, refinesLast, more⟩ := ih refinesMiddle
    exact ⟨last, refinesLast, fun j => (steps j).trans (more j)⟩

end

theorem Reachable.refines (reachable : Reachable db) :
    ∃ lives, Refines db lives := by
  obtain ⟨ops, rfl⟩ := reachable
  obtain ⟨lives, refines, -⟩ := refines_run refines_empty ops
  exact ⟨lives, refines⟩

end TradingLab
