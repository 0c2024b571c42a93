import TradingLab.Workers.DerivReconciliation

/-!
# Evidence of absence

The handler does not notice an answer that was cut off at the limit, a profit table that is no list,
a record of the order without a contract id, or one that only a contract id gives away.
-/
namespace TradingLab

open Machine (Logged Program)
open Machine.Program

namespace DerivReconciliationHandler

abbrev RequestLog := List (DerivRequest × Exchange DerivTransportError)

structure Lookup where
  operation : DerivOperation
  table : String
  name : String

def portfolioLookup : Lookup := ⟨.portfolio, "portfolio", "contracts"⟩

def statementLookup : Lookup := ⟨.statement, "statement", "transactions"⟩

def profitTableLookup : Lookup := ⟨.profitTable, "profit_table", "transactions"⟩

/-- The log shows that the lookup was answered with these items. -/
def Lookup.Answered (lookup : Lookup) (log : RequestLog) (items : List Json) : Prop :=
  ∃ entry ∈ log, ∃ response, entry.1.operation = lookup.operation ∧
    entry.2.reply = .ok response ∧ recordList response lookup.table lookup.name = some items

/-- The record is of the order: it passes the order id through, or it has one of the
    contract ids that are known. -/
def Attributable (query : OrderStatusQuery) (known : List String) (record : Fields) : Prop :=
  passesThrough query record = true ∨
    ((Fields.get record "contract_id").isNull = false ∧
      (Fields.get record "contract_id").text ∈ known)

def NothingIn (query : OrderStatusQuery) (known : List String) (items : List Json) : Prop :=
  ∀ item ∈ items, ∃ record, item.asObject = some record ∧ ¬ Attributable query known record

structure Absent (query : OrderStatusQuery) (known : List String) (log : RequestLog) : Prop where
  answered : ∀ entry ∈ log, ∃ response, entry.2.reply = .ok response
  portfolio : ∃ items, portfolioLookup.Answered log items ∧ NothingIn query known items
  statement : ∃ items, statementLookup.Answered log items ∧ items.length < statementLimit ∧
    NothingIn query known items
  profitTable : ∃ items, profitTableLookup.Answered log items ∧
    items.length < profitTableLimit ∧ NothingIn query known items

def Visible (query : OrderStatusQuery) (known : List String) (isHit : Fields → Bool)
    (items : List Json) : Prop :=
  ∀ item ∈ items, ∃ record, item.asObject = some record ∧
    (Attributable query known record → isHit record = true)

structure Transparent (query : OrderStatusQuery) (known : List String) (log : RequestLog) :
    Prop where
  portfolio : ∃ items, portfolioLookup.Answered log items ∧
    Visible query known (portfolioHit query known) items
  statement : ∃ items, statementLookup.Answered log items ∧ items.length < statementLimit ∧
    Visible query known (statementHit query) items
  profitTable : ∃ items, profitTableLookup.Answered log items ∧
    items.length < profitTableLimit ∧ Visible query known (profitHit query) items

/-! ### Hits -/

variable {items : List Json} {isHit : Fields → Bool} {query : OrderStatusQuery} {log : RequestLog}
  {exchange : Exchange DerivTransportError} {response : Fields}
  {checks : List (Lookup × (Fields → Bool))} {request : DerivRequest}

theorem firstHit_none (none : firstHit isHit items = none) :
    ∀ item ∈ items, ∀ record, item.asObject = some record → isHit record = false := by
  intro item member record object
  have passed := List.findSome?_eq_none_iff.mp none item member
  simp only [object] at passed
  by_contra hit
  simp [hit] at passed

theorem nothingIn_iff {known : List String} (none : firstHit isHit items = none) :
    NothingIn query known items ↔ Visible query known isHit items := by
  constructor
  · intro nothing item member
    obtain ⟨record, object, foreign⟩ := nothing item member
    exact ⟨record, object, fun own => absurd own foreign⟩
  · intro visible item member
    obtain ⟨record, object, seen⟩ := visible item member
    refine ⟨record, object, fun own => ?_⟩
    have missed := firstHit_none none item member record object
    rw [seen own] at missed
    cases missed

/-- The requests so far were answered: lookups by contract id, and the lookups listed, each
    without a hit. -/
structure Checked (checks : List (Lookup × (Fields → Bool))) (log : RequestLog) : Prop where
  answered : ∀ entry ∈ log, ∃ response, entry.2.reply = .ok response
  operations : ∀ entry ∈ log, entry.1.operation = .proposalOpenContract ∨
    ∃ check ∈ checks, entry.1.operation = check.1.operation
  missed : ∀ check ∈ checks, ∀ items, check.1.Answered log items → firstHit check.2 items = none

theorem Checked.nil : Checked [] [] :=
  ⟨by simp, by simp, by simp⟩

section

variable (checked : Checked checks log)
include checked

theorem Checked.append {more : List (Lookup × (Fields → Bool))} (kept : checks ⊆ more) (replied : exchange.reply = .ok response)
    (allowed : request.operation = .proposalOpenContract ∨
      ∃ check ∈ more, request.operation = check.1.operation)
    (missed : ∀ check ∈ more, ∀ items, check.1.Answered (log ++ [(request, exchange)]) items →
      firstHit check.2 items = none) :
    Checked more (log ++ [(request, exchange)]) := by
  constructor
  case answered =>
    intro entry member
    rcases List.mem_append.mp member with early | asked
    · exact checked.answered entry early
    · rw [List.mem_singleton.mp asked]
      exact ⟨response, replied⟩
  case operations =>
    intro entry member
    rcases List.mem_append.mp member with early | asked
    · exact (checked.operations entry early).imp_right
        fun ⟨check, listed, same⟩ => ⟨check, kept listed, same⟩
    · rw [List.mem_singleton.mp asked]
      exact allowed
  case missed => exact missed

theorem Checked.poll {number : Int}
    (foreign : ∀ check ∈ checks, check.1.operation ≠ .proposalOpenContract)
    (replied : exchange.reply = .ok response) :
    Checked checks (log ++ [(openContractRequest number, exchange)]) := by
  apply checked.append (List.Subset.refl checks) replied (Or.inl rfl)
  rintro check listed items ⟨entry, member, found⟩
  rcases List.mem_append.mp member with early | asked
  · exact checked.missed check listed items ⟨entry, early, found⟩
  · rw [List.mem_singleton.mp asked] at found
    obtain ⟨response, operation, -⟩ := found
    exact absurd operation.symm (foreign check listed)

theorem Checked.fresh {operation : DerivOperation} (poll : operation ≠ .proposalOpenContract)
    (other : ∀ check ∈ checks, check.1.operation ≠ operation) :
    ∀ entry ∈ log, entry.1.operation ≠ operation := by
  intro entry member same
  rcases checked.operations entry member with isPoll | ⟨check, listed, listedSame⟩
  · exact poll (same.symm.trans isPoll)
  · exact other check listed (listedSame.symm.trans same)

theorem Checked.lookup {lookup : Lookup} {list : Option (List Json)} (operation : request.operation = lookup.operation)
    (poll : lookup.operation ≠ .proposalOpenContract)
    (other : ∀ check ∈ checks, check.1.operation ≠ lookup.operation)
    (replied : exchange.reply = .ok response)
    (listed : recordList response lookup.table lookup.name = list)
    (missed : ∀ items ∈ list, firstHit isHit items = none) :
    Checked ((lookup, isHit) :: checks) (log ++ [(request, exchange)]) := by
  apply checked.append (List.subset_cons_self _ _) replied
    (Or.inr ⟨(lookup, isHit), List.mem_cons_self, operation⟩)
  rintro check member items ⟨entry, entered, response', same, found, records⟩
  -- The new entry belongs to the new lookup, and every earlier entry to an earlier one.
  rcases List.mem_cons.mp member with rfl | member
  · rcases List.mem_append.mp entered with early | asked
    · exact absurd same (checked.fresh poll other entry early)
    · rw [List.mem_singleton.mp asked, replied] at found
      cases found
      exact missed items (listed.symm.trans records)
  · rcases List.mem_append.mp entered with early | asked
    · exact checked.missed check member items ⟨entry, early, response', same, found, records⟩
    · rw [List.mem_singleton.mp asked, operation] at same
      exact absurd same.symm (other check member)

end

/-! ### What the lookups establish -/

section Stages
variable {transport : DerivTransport} {ctx : StatusQueryContext} {query : OrderStatusQuery}
  {session : DerivOrderSession} {shape shape' : RequestLog → Prop} {result : OrderStatusResult}

abbrev Call := Logged DerivRequest (Exchange DerivTransportError) DerivOrderSession

def Goes (session : DerivOrderSession) (shape : RequestLog → Prop) (stage : Stage) (w : Call) :
    Prop :=
  w.state = session ∧ ∀ search, stage = .continue search → search.contractData = none →
    search.queryFailed = false → shape w.log

def Silent (stage : Stage) : Prop :=
  ∀ result, stage = .return result → result.notFoundEvidence = none

abbrev Ends (session : DerivOrderSession) (shape : RequestLog → Prop) (stage : Stage) (w : Call) :
    Prop :=
  Silent stage ∧ Goes session shape stage w

def Leads (session : DerivOrderSession) (shape shape' : RequestLog → Prop)
    (next : Search → DerivProgram Stage) : Prop :=
  ∀ search, search.contractData = none →
    Program.Ensures (fun w => w.state = session ∧ (search.queryFailed = false → shape w.log))
      (next search) (fun stage w => Silent stage ∧ Goes session shape' stage w)

theorem ensures_next {next : Search → DerivProgram Stage}
    (leads : Leads session shape shape' next) (stage : Stage) :
    Program.Ensures (Ends session shape stage) (stage.next next) (Ends session shape') := by
  cases stage with
  | «return» result =>
    apply ensures_pure
    rintro w ⟨silent, same, -⟩
    refine ⟨silent, same, ?_⟩
    intro search goesOn
    cases goesOn
  | «continue» search =>
    simp only [Stage.next]
    split
    · rename_i known
      apply ensures_pure
      rintro w ⟨silent, same, -⟩
      refine ⟨silent, same, ?_⟩
      intro search' goesOn unknown
      cases goesOn
      simp [unknown] at known
    · rename_i unknown
      have unknown : search.contractData = none := by simpa using unknown
      refine ensures_weaken (leads search unknown) ?_ ?_
      · rintro w ⟨-, same, goes⟩
        exact ⟨same, goes search rfl unknown⟩
      · intro stage' w post
        exact post

/-! ### The stages -/

theorem foundResult_silent {fields : ReconciliationEvidenceFields}
    (found : foundResult ctx query fields = .ok result) : result.notFoundEvidence = none := by
  unfold foundResult at found
  split at found
  · cases found
    rfl
  · cases found

theorem buildEvidence_silent {contract : Fields}
    (built : buildEvidenceFromContract ctx query contract = .ok result) :
    result.notFoundEvidence = none := by
  simp only [buildEvidenceFromContract, Except.bind_ok_iff] at built
  obtain ⟨isSold, -, isExpired, -, rest⟩ := built
  cases problem : contractProblem query contract with
  | some reported =>
    rw [problem] at rest
    cases rest
    rfl
  | none =>
    rw [problem] at rest
    dsimp only at rest
    split at rest
    · obtain ⟨pnl, -, found⟩ := Except.bind_ok_iff.mp rest
      exact foundResult_silent found
    · exact foundResult_silent rest

theorem readContractReply_silent (reply : Except DerivTransportError Fields) :
    Program.Ensures (fun w => w.state = session) (readContractReply ctx query reply)
      fun result w => result.notFoundEvidence = none ∧ w.state = session := by
  unfold readContractReply
  split
  · exact ensures_pure fun w same => ⟨rfl, same⟩
  · split
    · exact ensures_pure fun w same => ⟨rfl, same⟩
    · split
      · rename_i built
        exact ensures_pure fun w same => ⟨buildEvidence_silent built, same⟩
      · exact ensures_pure fun w same => ⟨rfl, same⟩
      · exact ensures_raise

theorem queryContractId_silent (contractId : String) :
    Program.Ensures (fun w => w.state = session) (queryContractId transport ctx query contractId)
      fun result w => result.notFoundEvidence = none ∧ w.state = session := by
  unfold queryContractId
  split
  · exact ensures_pure fun w same => ⟨rfl, same⟩
  · refine ensures_bind Logged.ensures_ask ?_
    intro exchange
    have reads : Program.Ensures (fun w => w.state = session)
        (readContractReply ctx query exchange.reply)
        fun result w => result.notFoundEvidence = none ∧ w.state = session :=
      readContractReply_silent exchange.reply
    refine ensures_weaken reads ?_ ?_
    · rintro w ⟨log, -, same⟩
      exact same
    · intro result w post
      exact post

variable {P : Call → Prop}

theorem ensures_goesOn (search : Search) (same : ∀ w, P w → w.state = session)
    (holds : search.queryFailed = false → ∀ w, P w → shape w.log) :
    Program.Ensures P (pure (.continue search) : DerivProgram Stage) (Ends session shape) := by
  apply ensures_pure
  intro w pre
  refine ⟨?_, same w pre, ?_⟩
  · intro result returned
    cases returned
  · intro search' goesOn _ unfailed
    cases goesOn
    exact holds unfailed w pre

theorem ensures_failed (search : Search) (same : ∀ w, P w → w.state = session) :
    Program.Ensures P (pure (.continue { search with queryFailed := true }) : DerivProgram Stage)
      (Ends session shape) := by
  apply ensures_goesOn _ same
  intro unfailed
  cases unfailed

theorem ensures_return (same : ∀ w, P w → result.notFoundEvidence = none ∧ w.state = session) :
    Program.Ensures P (pure (.return result) : DerivProgram Stage) (Ends session shape) := by
  apply ensures_pure
  intro w pre
  refine ⟨?_, (same w pre).2, ?_⟩
  · intro other returned
    cases returned
    exact (same w pre).1
  · intro search' goesOn
    cases goesOn

theorem followUp_ensures (hit : Option String)
    (search : Search) (same : ∀ w, P w → w.state = session)
    (holds : hit = none → search.queryFailed = false → ∀ w, P w → shape w.log) :
    Program.Ensures P (followUp transport ctx query hit search) (Ends session shape) := by
  unfold followUp
  cases hit with
  | none => exact ensures_goesOn search same (holds rfl)
  | some contractId =>
    refine ensures_bind (ensures_weaken (queryContractId_silent contractId) same
      fun _ _ post => post) ?_
    intro result
    exact ensures_return fun w silent => silent

theorem ensures_asked {request : DerivRequest} {answered : Fields → DerivProgram Stage}
    (search : Search) (goes : ∀ exchange response, exchange.reply = .ok response →
      Program.Ensures (fun w => w.state = session ∧ (search.queryFailed = false →
          ∃ log, w.log = log ++ [(request, exchange)] ∧ shape log)) (answered response)
        (Ends session shape')) :
    Program.Ensures (fun w => w.state = session ∧ (search.queryFailed = false → shape w.log))
      (do
        let exchange ← Logged.ask transport request
        match exchange.reply with
        | .error _ => pure (.continue { search with queryFailed := true })
        | .ok response => answered response) (Ends session shape') := by
  refine ensures_bind Logged.ensures_ask ?_
  intro exchange
  split
  · refine ensures_failed search ?_
    rintro w ⟨log, -, same, -⟩
    exact same
  · rename_i response replied
    refine ensures_weaken (goes exchange response replied) ?_ fun _ _ post => post
    rintro w ⟨log, grown, same, checked⟩
    exact ⟨same, fun unfailed => ⟨log, grown, checked unfailed⟩⟩

theorem pollContract_leads (contractId : Option String) :
    Leads session (Checked []) (Checked []) (pollContract transport contractId) := by
  intro search unknown
  unfold pollContract
  split
  · exact ensures_goesOn search (fun w pre => pre.1) fun unfailed w pre => pre.2 unfailed
  · split
    · exact ensures_failed search fun w pre => pre.1
    · refine ensures_asked search ?_
      intro exchange response replied
      refine ensures_goesOn _ (fun w pre => pre.1) ?_
      intro unfailed w pre
      obtain ⟨log, grown, checked⟩ := pre.2 unfailed
      rw [grown]
      exact checked.poll (by simp) replied

def known (session : DerivOrderSession) (query : OrderStatusQuery) : List String :=
  knownContractIds query (findEntry session.trackedByOrderId query.orderId)

def portfolioCheck (session : DerivOrderSession) (query : OrderStatusQuery) :
    List (Lookup × (Fields → Bool)) :=
  [(portfolioLookup, portfolioHit query (known session query))]

def statementCheck (session : DerivOrderSession) (query : OrderStatusQuery) :
    List (Lookup × (Fields → Bool)) :=
  (statementLookup, statementHit query) :: portfolioCheck session query

def profitTableCheck (session : DerivOrderSession) (query : OrderStatusQuery) :
    List (Lookup × (Fields → Bool)) :=
  (profitTableLookup, profitHit query) :: statementCheck session query

theorem checkPortfolio_leads : Leads session (Checked []) (Checked (portfolioCheck session query))
    (checkPortfolio transport ctx query) := by
  intro search unknown
  unfold checkPortfolio
  refine ensures_bind Logged.ensures_read ?_
  rintro state w ⟨rfl, rfl, holds⟩
  refine ensures_asked search ?_ w ⟨rfl, holds⟩
  intro exchange response replied
  split
  · exact ensures_failed search fun w pre => pre.1
  · rename_i contracts listed
    refine followUp_ensures _ _ (fun w pre => pre.1) ?_
    intro missed unfailed w pre
    obtain ⟨log, grown, checked⟩ := pre.2 unfailed
    rw [grown]
    apply checked.lookup rfl (by simp [portfolioLookup]) (by simp) replied listed
    rintro items ⟨⟩
    exact missed

theorem checkStatement_leads : Leads session (Checked (portfolioCheck session query))
    (Checked (statementCheck session query)) (checkStatement transport ctx query) := by
  intro search unknown
  refine ensures_asked search ?_
  intro exchange response replied
  split
  · exact ensures_failed search fun w pre => pre.1
  · rename_i transactions listed
    refine followUp_ensures _ _ (fun w pre => pre.1) ?_
    intro missed unfailed w pre
    obtain ⟨log, grown, checked⟩ := pre.2 unfailed
    rw [grown]
    apply checked.lookup rfl (by simp [statementLookup])
      (by simp [portfolioCheck, portfolioLookup, statementLookup]) replied listed
    rintro items ⟨⟩
    exact missed

theorem matchProfitTable_ensures
    (transactions : List Json) (search : Search) (same : ∀ w, P w → w.state = session)
    (holds : search.queryFailed = false → ∀ w, P w → shape w.log) :
    Program.Ensures P (matchProfitTable transport ctx query transactions search)
      (Ends session shape) := by
  unfold matchProfitTable
  split
  · exact ensures_goesOn search same holds
  · refine followUp_ensures _ search same ?_
    intro impossible
    cases impossible
  · exact ensures_return fun w pre => ⟨rfl, same w pre⟩

theorem checkProfitTable_leads : Leads session (Checked (statementCheck session query))
    (Checked (profitTableCheck session query)) (checkProfitTable transport ctx query) := by
  intro search unknown
  refine ensures_asked search ?_
  intro exchange response replied
  -- What the answer adds to the checks depends only on its records having no hit.
  have joins : ∀ list : Option (List Json), recordList response "profit_table" "transactions" =
      list → (∀ items ∈ list, firstHit (profitHit query) items = none) → ∀ w : Call,
      (∃ log, w.log = log ++ [(profitTableRequest query, exchange)] ∧
        Checked (statementCheck session query) log) →
      Checked (profitTableCheck session query) w.log := by
    rintro list listed missed w ⟨log, grown, checked⟩
    rw [grown]
    exact checked.lookup rfl (by simp [profitTableLookup]) (by simp [statementCheck,
      portfolioCheck, portfolioLookup, statementLookup, profitTableLookup]) replied listed missed
  split
  · rename_i unlisted
    apply ensures_goesOn search fun w pre => pre.1
    intro unfailed w pre
    exact joins none unlisted (by simp) w (pre.2 unfailed)
  · rename_i transactions listed
    split
    · refine followUp_ensures _ search (fun w pre => pre.1) ?_
      intro impossible
      cases impossible
    · rename_i missed
      apply matchProfitTable_ensures _ search fun w pre => pre.1
      intro unfailed w pre
      apply joins _ listed _ w (pre.2 unfailed)
      rintro items ⟨⟩
      exact missed

theorem lookUp_checked :
    Program.Ensures (fun w => w = Logged.start session) (lookUp transport ctx query)
      (Ends session (Checked (profitTableCheck session query))) := by
  unfold lookUp
  refine ensures_bind Logged.ensures_read ?_
  intro state
  have first : Program.Ensures (fun w => w = Logged.start session)
      (pollContract transport query.brokerOrderId {}) (Ends session (Checked [])) := by
    have leads : Leads session (Checked []) (Checked [])
        (pollContract transport query.brokerOrderId) := pollContract_leads query.brokerOrderId
    refine ensures_weaken (leads {} rfl) ?_ ?_
    · rintro w rfl
      exact ⟨rfl, fun _ => Checked.nil⟩
    · intro stage w post
      exact post
  refine ensures_bind (ensures_weaken first (fun w pre => pre.2)
    fun _ _ post => post) ?_
  intro stage
  refine ensures_bind (ensures_next (pollContract_leads _) stage) ?_
  intro stage
  refine ensures_bind (ensures_next checkPortfolio_leads stage) ?_
  intro stage
  refine ensures_bind (ensures_next checkStatement_leads stage) ?_
  intro stage
  exact ensures_next checkProfitTable_leads stage

theorem conclude_checked (stage : Stage) :
    Program.Ensures (Ends session (Checked (profitTableCheck session query)) stage)
      (conclude ctx query stage)
      fun result w => result.notFoundEvidence.isSome = true →
        Checked (profitTableCheck session query) w.log := by
  cases stage with
  | «return» result =>
    apply ensures_pure
    rintro w ⟨silent, -⟩ given
    simp [silent result rfl] at given
  | «continue» search =>
    simp only [conclude]
    split
    · apply ensures_lift
      intro result built w _ given
      simp [buildEvidence_silent built] at given
    · rename_i unknown
      apply ensures_pure
      rintro w ⟨-, -, goes⟩ given
      apply goes search rfl unknown
      unfold absence at given
      split at given
      · rename_i conclusive
        simp only [Bool.and_eq_true, Bool.not_eq_true'] at conclusive
        exact conclusive.2
      · simp [plain] at given

theorem queryOrderStatus_checked {timeout : Option ℚ} :
    Program.Ensures (fun w => w = Logged.start session)
      (queryOrderStatus transport ctx query timeout)
      fun result w => result.notFoundEvidence.isSome = true →
        Checked (profitTableCheck session query) w.log := by
  unfold queryOrderStatus
  refine ensures_bind Logged.ensures_read ?_
  intro state
  split
  · exact ensures_raise
  · split
    · apply ensures_pure
      intro w _ given
      simp [plain] at given
    · split
      · apply ensures_pure
        intro w _ given
        simp [plain] at given
      · refine ensures_bind (ensures_weaken lookUp_checked (fun w pre => pre.2)
          fun _ _ post => post) ?_
        exact conclude_checked

end Stages

/-! ### Evidence of absence -/

theorem Checked.nothingIn_iff {known : List String} {lookup : Lookup} (checked : Checked checks log)
    (listed : (lookup, isHit) ∈ checks) (answered : lookup.Answered log items) :
    NothingIn query known items ↔ Visible query known isHit items :=
  DerivReconciliationHandler.nothingIn_iff (checked.missed _ listed items answered)

theorem Checked.bounded_iff {known : List String}
    {lookup : Lookup} {limit : Nat} (checked : Checked checks log)
    (listed : (lookup, isHit) ∈ checks) :
    (∃ items, lookup.Answered log items ∧ items.length < limit ∧ NothingIn query known items) ↔
    ∃ items, lookup.Answered log items ∧ items.length < limit ∧
      Visible query known isHit items := by
  refine exists_congr fun items => and_congr_right fun answered => ?_
  rw [checked.nothingIn_iff listed answered]

theorem absent_iff_transparent {session : DerivOrderSession}
    (checked : Checked (profitTableCheck session query) log) :
    Absent query (known session query) log ↔ Transparent query (known session query) log := by
  have portfolio : (portfolioLookup, portfolioHit query (known session query)) ∈
      profitTableCheck session query := by
    simp [profitTableCheck, statementCheck, portfolioCheck]
  have statement : (statementLookup, statementHit query) ∈ profitTableCheck session query := by
    simp [profitTableCheck, statementCheck]
  have profitTable : (profitTableLookup, profitHit query) ∈ profitTableCheck session query := by
    simp [profitTableCheck]
  constructor
  · intro absent
    obtain ⟨contracts, answered, nothing⟩ := absent.portfolio
    exact ⟨⟨contracts, answered, (checked.nothingIn_iff portfolio answered).mp nothing⟩,
      (checked.bounded_iff statement).mp absent.statement,
      (checked.bounded_iff profitTable).mp absent.profitTable⟩
  · intro transparent
    obtain ⟨contracts, answered, seen⟩ := transparent.portfolio
    exact ⟨checked.answered,
      ⟨contracts, answered, (checked.nothingIn_iff portfolio answered).mpr seen⟩,
      (checked.bounded_iff statement).mpr transparent.statement,
      (checked.bounded_iff profitTable).mpr transparent.profitTable⟩

/-- Evidence of absence means that every request was answered, with complete lists of
    records none of which is of the order, exactly when the answers hid nothing. -/
theorem absence_sound_iff (session : DerivOrderSession) (transport : DerivTransport)
    (ctx : StatusQueryContext) (query : OrderStatusQuery) (timeout : Option ℚ)
    (result : OrderStatusResult) (w : Call)
    (ran : queryOrderStatus transport ctx query timeout (Logged.start session) = (.ok result, w))
    (given : result.outcome = .notFound ∧ result.notFoundEvidence.isSome = true) :
    Absent query (known session query) w.log ↔ Transparent query (known session query) w.log :=
  absent_iff_transparent (queryOrderStatus_checked _ rfl result w ran given.2)

def idleSession : DerivOrderSession := ⟨"VRTC1", true, [], [], [], []⟩

def sampleContext : StatusQueryContext where
  now := 0
  messageId := "m-1"
  causationId := "c-1"
  evidenceId := "e-1"
  rawReferenceHash _ := "hash"

def sampleQuery : OrderStatusQuery where
  correlationId := "c-1"
  intentId := "i-1"
  orderId := "o-1"
  clientOrderRef := "o-1"
  broker := .deriv
  accountId := "VRTC1"
  product := "DIGITAL_OPTION"
  symbol := "R_100"
  direction := .call
  amount := ⟨100, "USD", currencyCode_usd⟩
  valid := rfl

def listing (contracts : List Json) : DerivTransport := fun _ request =>
  match request.operation with
  | .portfolio => ⟨true, .ok [("portfolio", .obj [("contracts", .arr contracts)])]⟩
  | .statement => ⟨true, .ok [("statement", .obj [("transactions", .arr [])])]⟩
  | _ => ⟨true, .ok [("profit_table", .obj [("transactions", .arr [])])]⟩

def sampleRun (contracts : List Json) : Except DerivException OrderStatusResult × Call :=
  queryOrderStatus (listing contracts) sampleContext sampleQuery none (Logged.start idleSession)

theorem empty_sample_absent :
    Absent sampleQuery (known idleSession sampleQuery) (sampleRun []).2.log := by
  have ran : queryOrderStatus (listing []) sampleContext sampleQuery none
      (Logged.start idleSession) = (.ok _, (sampleRun []).2) := rfl
  refine (absence_sound_iff idleSession (listing []) sampleContext sampleQuery none _ _ ran
    ⟨rfl, rfl⟩).mpr ?_
  constructor
  case portfolio => exact ⟨[], ⟨_, List.mem_cons_self, _, rfl, rfl, rfl⟩, by simp [Visible]⟩
  case statement =>
    exact ⟨[], ⟨_, List.mem_cons_of_mem _ List.mem_cons_self, _, rfl, rfl, rfl⟩, by decide,
      by simp [Visible]⟩
  case profitTable =>
    exact ⟨[], ⟨_, List.mem_cons_of_mem _ (List.mem_cons_of_mem _ List.mem_cons_self), _, rfl,
      rfl, rfl⟩, by decide, by simp [Visible]⟩

def unnamedContract : Json :=
  .obj [("passthrough", .obj [("order_id", .str "o-1")])]

/-- The record of the order is in the portfolio, and yet its absence is evidenced. -/
theorem unnamed_sample_overlooked :
    (sampleRun [unnamedContract]).1.toOption.map
        (fun result => (result.outcome, result.notFoundEvidence)) =
      some (.notFound, some ⟨0, true, true⟩) ∧
    ¬ Absent sampleQuery (known idleSession sampleQuery) (sampleRun [unnamedContract]).2.log := by
  refine ⟨rfl, ?_⟩
  intro absent
  obtain ⟨items, ⟨entry, member, response, operation, replied, listed⟩, nothing⟩ :=
    absent.portfolio
  have log : (sampleRun [unnamedContract]).2.log =
      [(portfolioRequest, listing [unnamedContract] 0 portfolioRequest),
        (statementRequest sampleQuery, listing [unnamedContract] 1 (statementRequest sampleQuery)),
        (profitTableRequest sampleQuery,
          listing [unnamedContract] 2 (profitTableRequest sampleQuery))] := rfl
  simp only [log, List.mem_cons, List.not_mem_nil, or_false] at member
  rcases member with rfl | rfl | rfl
  · cases replied
    cases listed
    obtain ⟨record, object, foreign⟩ := nothing unnamedContract List.mem_cons_self
    cases object
    exact foreign (Or.inl rfl)
  · cases operation
  · cases operation

end DerivReconciliationHandler

end TradingLab
