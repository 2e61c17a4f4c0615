import AgentOps.Execution.Reconciliation
import AgentOps.Lib.Transition
import Mathlib.Algebra.BigOperators.Group.List.Basic

namespace AgentOps.Execution
open Lib

/-! # The accounts of a session under serial deliveries -/

structure Delivery where
  message : ExecutionDispatchMessage
  clock : ReconcileClock
  deriving DecidableEq

def outcomeOf (db : ExecutionDb) (delivery : Delivery) : ReconciliationOutcome :=
  (reconcile db delivery.message delivery.clock).1

def delivered (db : ExecutionDb) (delivery : Delivery) : ExecutionDb :=
  (reconcile db delivery.message delivery.clock).2

def deliver (db : ExecutionDb) (delivery : Delivery) : Option ExecutionDb := some (delivered db delivery)

/-! ## One delivery -/

def ExecutionDb.replaced (db : ExecutionDb) (work : UnitOfWork) : ExecutionDb where
  approvalWorkflows := db.approvalWorkflows
  agentIdentities := db.agentIdentities.put work.agent.current
  executionSessions := db.executionSessions.put work.session.current
  executionActions := db.executionActions.put work.action.current
  auditEvents := db.auditEvents ++ [work.auditEvent]

theorem AgentIdentity.written_original (agent : AgentIdentity) (spent : Int) (date : UtcDate) :
    AgentIdentity.written ⟨agent, { agent with spentTodayUsd := spent, budgetResetDateUtc := date }⟩ agent =
      { agent with spentTodayUsd := spent, budgetResetDateUtc := date } := by
  simp only [written]
  congr 1
  · exact Tracked.column_original ⟨agent, { agent with spentTodayUsd := spent, budgetResetDateUtc := date }⟩ _
  · exact Tracked.column_original ⟨agent, { agent with spentTodayUsd := spent, budgetResetDateUtc := date }⟩ _

theorem ExecutionSession.written_original (session : ExecutionSession) (status : ExecutionStatus) (total : Int) :
    ExecutionSession.written ⟨session, { session with status := status, totalExecutedSpendUsd := total }⟩ session =
      { session with status := status, totalExecutedSpendUsd := total } := by
  simp only [written]
  congr 1
  · exact Tracked.column_original ⟨session, { session with status := status, totalExecutedSpendUsd := total }⟩ _
  · exact Tracked.column_original ⟨session, { session with status := status, totalExecutedSpendUsd := total }⟩ _

theorem ExecutionAction.written_original (action : ExecutionAction) (status : ExecutionStatus) (error : Option String) :
    ExecutionAction.written ⟨action, action.setStatus status error⟩ action = action.setStatus status error := by
  simp only [written, setStatus]
  congr 1
  · exact Tracked.column_original ⟨action, action.setStatus status error⟩ _
  · exact Tracked.column_original ⟨action, action.setStatus status error⟩ _

namespace AgentIdentity

theorem reset_eq (agent : AgentIdentity) (clock : ClockReadings) :
    ∃ spent date, agent.resetDailyBudgetIfExpired clock =
      { agent with spentTodayUsd := spent, budgetResetDateUtc := date } := by
  unfold resetDailyBudgetIfExpired
  split
  · exact ⟨0, clock.assigned, rfl⟩
  · exact ⟨agent.spentTodayUsd, agent.budgetResetDateUtc, rfl⟩

theorem canSpend_eq (agent : AgentIdentity) (clock : ClockReadings) (amountUsd : Int) :
    ∃ spent date, (agent.canSpend clock amountUsd).1 =
      { agent with spentTodayUsd := spent, budgetResetDateUtc := date } := agent.reset_eq clock

theorem recordSpend_eq (agent : AgentIdentity) (clock clock' : ClockReadings) (amountUsd : Int) :
    ∃ spent date, ((agent.canSpend clock amountUsd).1.recordSpend clock' amountUsd) =
      { agent with spentTodayUsd := spent, budgetResetDateUtc := date } := by
  obtain ⟨spent, date, checked⟩ := agent.canSpend_eq clock amountUsd
  obtain ⟨spent', date', reset⟩ := (agent.canSpend clock amountUsd).1.reset_eq clock'
  rw [recordSpend, reset, checked]
  exact ⟨spent' + amountUsd, date', rfl⟩

end AgentIdentity

/-- A save right after the load writes the entities as the program has them. -/
theorem saveChanges_settle {db : ExecutionDb} {message : ExecutionDispatchMessage} {loaded : LoadedSession}
    {agent : AgentIdentity} (clock : ReconcileClock) (load : loadSession db message = .ok loaded)
    (found : loadAgent db loaded = .ok agent) :
    db.saveChanges (settle loaded agent clock) = db.replaced (settle loaded agent clock) := by
  obtain ⟨sessionFound, -, actionFound, -, -⟩ := loadSession_ok load
  have agentFound := loadAgent_ok.mp found
  rw [← Table.key_of_find? sessionFound] at sessionFound
  rw [← Table.key_of_find? actionFound] at actionFound
  rw [← Table.key_of_find? agentFound] at agentFound
  have originals : (settle loaded agent clock).agent.original = agent ∧
      (settle loaded agent clock).session.original = loaded.session ∧
      (settle loaded agent clock).action.original = loaded.action := by
    rcases settle_cases loaded agent clock with ⟨-, same⟩ | ⟨-, same⟩ <;> rw [same] <;> exact ⟨rfl, rfl, rfl⟩
  have agentWritten : AgentIdentity.written (settle loaded agent clock).agent agent =
      (settle loaded agent clock).agent.current := by
    rcases settle_cases loaded agent clock with ⟨-, same⟩ | ⟨-, same⟩ <;> rw [same]
    · simp only [settleWork]
      obtain ⟨spent, date, recorded⟩ :=
        agent.recordSpend_eq clock.checked clock.recorded loaded.action.estimatedSpendUsd
      rw [recorded]
      exact AgentIdentity.written_original agent spent date
    · simp only [blockWork]
      obtain ⟨spent, date, checked⟩ := agent.canSpend_eq clock.checked loaded.action.estimatedSpendUsd
      rw [checked]
      exact AgentIdentity.written_original agent spent date
  have sessionWritten : ExecutionSession.written (settle loaded agent clock).session loaded.session =
      (settle loaded agent clock).session.current := by
    rcases settle_cases loaded agent clock with ⟨-, same⟩ | ⟨-, same⟩ <;> rw [same]
    · simp only [settleWork]
      split
      · exact ExecutionSession.written_original _ _ _
      · exact ExecutionSession.written_original _ loaded.session.status loaded.session.totalExecutedSpendUsd
    · exact ExecutionSession.written_original _ .failed loaded.session.totalExecutedSpendUsd
  have actionWritten : ExecutionAction.written (settle loaded agent clock).action loaded.action =
      (settle loaded agent clock).action.current := by
    rcases settle_cases loaded agent clock with ⟨-, same⟩ | ⟨-, same⟩ <;> rw [same]
    · exact ExecutionAction.written_original _ _ _
    · exact ExecutionAction.written_original _ _ _
  simp only [ExecutionDb.saveChanges, ExecutionDb.replaced, originals.1, originals.2.1, originals.2.2,
    Table.modify_of_find? agentFound, Table.modify_of_find? sessionFound, Table.modify_of_find? actionFound,
    agentWritten, sessionWritten, actionWritten]

theorem delivered_cases (db : ExecutionDb) (delivery : Delivery) :
    (delivered db delivery = db ∧ outcomeOf db delivery ≠ .settled ∧
      ∀ loaded agent, loadSession db delivery.message = .ok loaded → loadAgent db loaded ≠ .ok agent) ∨
    ∃ loaded agent, loadSession db delivery.message = .ok loaded ∧ loadAgent db loaded = .ok agent ∧
      delivered db delivery = db.replaced (settle loaded agent delivery.clock) ∧
      outcomeOf db delivery = (settle loaded agent delivery.clock).outcome := by
  cases load : loadSession db delivery.message with
  | error outcome =>
    refine .inl ⟨by simp [delivered, reconcile, load], ?_, by simp⟩
    simp only [outcomeOf, reconcile, load]
    unfold loadSession at load
    grind
  | ok loaded =>
    cases found : loadAgent db loaded with
    | error outcome =>
      refine .inl ⟨by simp [delivered, reconcile, load, found], ?_, ?_⟩
      · simp only [outcomeOf, reconcile, load, found]
        unfold loadAgent at found
        grind
      · rintro loaded' agent same
        obtain rfl := Except.ok.inj same
        simp [found]
    | ok agent =>
      refine .inr ⟨loaded, agent, rfl, found, ?_, by simp [outcomeOf, reconcile, load, found]⟩
      rw [← saveChanges_settle delivery.clock load found]
      simp [delivered, reconcile, load, found]

/-! ## The accounts -/

def statusOf (db : ExecutionDb) (sessionId : Guid) : Option ExecutionStatus :=
  (db.executionSessions.find? sessionId).map (·.status)

def completedActions (db : ExecutionDb) (sessionId : Guid) : List ExecutionAction :=
  (db.actionsOf sessionId).filter fun action => action.status = .completed

def settledEvents (db : ExecutionDb) (sessionId : Guid) : List AuditEvent :=
  db.auditEvents.filter fun event => event.eventType = "ExecutionSettled" ∧ event.sessionId = some sessionId

def spendAdded (before after : AgentIdentity) : Int :=
  if after.budgetResetDateUtc = before.budgetResetDateUtc then after.spentTodayUsd - before.spentTodayUsd
  else after.spentTodayUsd

def agentOf (db : ExecutionDb) (sessionId : Guid) : Option AgentIdentity :=
  (db.executionSessions.find? sessionId).bind fun session => db.agentIdentities.find? session.agentId

def growth (sessionId : Guid) (e : ExecutionDb × Delivery) : Int :=
  match agentOf e.1 sessionId, agentOf (delivered e.1 e.2) sessionId with
  | some before, some after => if e.2.message.sessionId = sessionId then spendAdded before after else 0
  | _, _ => 0

def spendGrowth (sessionId : Guid) (events : List (ExecutionDb × Delivery)) : Int :=
  (events.map (growth sessionId)).sum

def charges (sessionId actionId : Guid) (events : List (ExecutionDb × Delivery)) : Nat :=
  events.countP fun e => outcomeOf e.1 e.2 = .settled ∧ e.2.message = ⟨sessionId, actionId⟩

structure Opened (sessionId : Guid) (db : ExecutionDb) : Prop where
  running : ∃ session, db.executionSessions.find? sessionId = some session ∧ session.status ≠ .completed ∧
    session.status ≠ .failed ∧ session.totalExecutedSpendUsd = 0
  unsettled : completedActions db sessionId = []
  unaudited : settledEvents db sessionId = []

/-- Once the session has ended, its total is what its completed actions cost. -/
def TotalAgrees (sessionId : Guid) (db : ExecutionDb) : Prop :=
  ∀ session, db.executionSessions.find? sessionId = some session →
    session.status = .completed ∨ session.status = .failed →
    session.totalExecutedSpendUsd = completedSpend (db.actionsOf sessionId)

/-- A refusal finds nothing charged in the session, and a settlement does not come after a refusal. -/
def Undisturbed (sessionId : Guid) (db : ExecutionDb) (delivery : Delivery) : Prop :=
  delivery.message.sessionId = sessionId → ∀ loaded agent, loadSession db delivery.message = .ok loaded →
    loadAgent db loaded = .ok agent →
    if (agent.canSpend delivery.clock.checked loaded.action.estimatedSpendUsd).2 then
      loaded.session.status = .failed → loaded.action.estimatedSpendUsd = 0 ∧
        ∃ other ∈ loaded.actions, other.id ≠ loaded.action.id ∧ other.status.ended = false
    else completedSpend loaded.actions = 0

/-! ## What a delivery does to them -/

theorem completedSpend_eq (db : ExecutionDb) (sessionId : Guid) :
    completedSpend (db.actionsOf sessionId) = ((completedActions db sessionId).map (·.estimatedSpendUsd)).sum := rfl

theorem completedActions_rows (db : ExecutionDb) (sessionId : Guid) :
    completedActions db sessionId =
      db.executionActions.rows.filter fun action => decide (action.status = .completed) && decide (action.sessionId = sessionId) := by
  simp [completedActions, ExecutionDb.actionsOf, List.filter_filter]

theorem settledActions_eq {db : ExecutionDb} {message : ExecutionDispatchMessage} {loaded : LoadedSession}
    (agent checked : AgentIdentity) (clock : ReconcileClock) (load : loadSession db message = .ok loaded) :
    (db.replaced (settleWork loaded agent checked clock)).actionsOf message.sessionId = loaded.settledActions := by
  obtain ⟨-, actions, -, mine, -⟩ := loadSession_ok load
  have same (action : ExecutionAction) (member : action ∈ db.executionActions.rows) :
      (decide ((if action.id = loaded.action.id then loaded.settledAction else action).sessionId = message.sessionId)) =
        decide (action.sessionId = message.sessionId) := by
    split
    · rename_i located
      have here : loaded.action ∈ db.executionActions := Table.mem_of_find? (loadSession_ok load).2.2.1
      have whole : action = loaded.action := Table.eq_of_key member here located
      rw [whole]
      rfl
    · rfl
  simp only [ExecutionDb.actionsOf, ExecutionDb.replaced, settleWork, Table.put, LoadedSession.settledActions, actions,
    LoadedSession.settledAction, ExecutionAction.setStatus_id, List.filter_map, Function.comp_def]
  congr 1
  exact List.filter_congr same

theorem spendAdded_later {before after : AgentIdentity} (later : before.budgetResetDateUtc < after.budgetResetDateUtc) :
    spendAdded before after = after.spentTodayUsd := if_neg (Nat.ne_of_gt later)

theorem spendAdded_sameDay {before after : AgentIdentity} (same : after.budgetResetDateUtc = before.budgetResetDateUtc) :
    spendAdded before after = after.spentTodayUsd - before.spentTodayUsd := if_pos same

theorem spendAdded_reset (agent : AgentIdentity) (clock : ClockReadings) :
    spendAdded agent (agent.resetDailyBudgetIfExpired clock) = 0 := by
  rcases agent.reset_cases clock with same | ⟨later, cleared⟩
  · rw [same, spendAdded_sameDay rfl, Int.sub_self]
  · rw [spendAdded_later later, cleared]

theorem spendAdded_recordSpend (agent : AgentIdentity) (clock clock' : ClockReadings) (amountUsd : Int) :
    spendAdded agent ((agent.resetDailyBudgetIfExpired clock).recordSpend clock' amountUsd) = amountUsd := by
  have spent (agent : AgentIdentity) : (agent.recordSpend clock' amountUsd).spentTodayUsd =
    (agent.resetDailyBudgetIfExpired clock').spentTodayUsd + amountUsd := rfl
  have date (agent : AgentIdentity) : (agent.recordSpend clock' amountUsd).budgetResetDateUtc =
    (agent.resetDailyBudgetIfExpired clock').budgetResetDateUtc := rfl
  rcases agent.reset_cases clock with same | ⟨later, cleared⟩
  · rw [same]
    rcases agent.reset_cases clock' with same' | ⟨later', cleared'⟩
    · rw [spendAdded_sameDay (by rw [date, same']), spent, same', add_sub_cancel_left]
    · rw [spendAdded_later (by rw [date]; exact later'), spent, cleared', Int.zero_add]
  · rcases (agent.resetDailyBudgetIfExpired clock).reset_cases clock' with same' | ⟨later', cleared'⟩
    · rw [spendAdded_later (by rw [date, same']; exact later), spent, same', cleared, Int.zero_add]
    · rw [spendAdded_later (by rw [date]; exact later.trans later'), spent, cleared', Int.zero_add]

section Delivered

variable {sessionId : Guid} {db : ExecutionDb} {delivery : Delivery} {message : ExecutionDispatchMessage}
  {loaded : LoadedSession} {agent checked : AgentIdentity} {clock : ReconcileClock}

theorem agentOf_replaced (load : loadSession db message = .ok loaded) (found : loadAgent db loaded = .ok agent)
    (work : UnitOfWork) (same : work.session.current.id = loaded.session.id ∧
      work.session.current.agentId = loaded.session.agentId) (kept : work.agent.current.id = agent.id) :
    agentOf db message.sessionId = some agent ∧
      agentOf (db.replaced work) message.sessionId = some work.agent.current := by
  obtain ⟨sessionFound, -, -, -, -⟩ := loadSession_ok load
  have agentFound := loadAgent_ok.mp found
  have sessionKey := Table.key_of_find? sessionFound
  have agentKey := Table.key_of_find? agentFound
  refine ⟨by simp [agentOf, sessionFound, agentFound], ?_⟩
  rw [agentOf, ExecutionDb.replaced, Table.find?_put sessionFound, if_pos (same.1.trans sessionKey)]
  simp only [Option.bind_some, same.2]
  rw [Table.find?_put agentFound, if_pos (kept.trans agentKey)]

theorem growth_settle (load : loadSession db delivery.message = .ok loaded) (found : loadAgent db loaded = .ok agent)
    (written : delivered db delivery = db.replaced (settle loaded agent delivery.clock)) :
    growth delivery.message.sessionId (db, delivery) =
      if (settle loaded agent delivery.clock).outcome = .settled then loaded.action.estimatedSpendUsd else 0 := by
  rcases settle_cases loaded agent delivery.clock with ⟨allowed, same⟩ | ⟨refused, same⟩
  · have agents := agentOf_replaced load found (settle loaded agent delivery.clock)
      (by rw [same]; exact ⟨settleWork_session .., by simp only [settleWork]; split <;> rfl⟩) (by rw [same]; simp [settleWork])
    simp only [growth, written, agents.1, agents.2]
    rw [same]
    exact spendAdded_recordSpend agent _ _ _
  · have agents := agentOf_replaced load found (settle loaded agent delivery.clock)
      (by rw [same]; exact ⟨rfl, rfl⟩) (by rw [same]; simp [blockWork])
    simp only [growth, written, agents.1, agents.2]
    rw [same]
    exact spendAdded_reset agent delivery.clock.checked

theorem replaced_other (load : loadSession db message = .ok loaded) (work : UnitOfWork)
    (action : work.action.current.id = loaded.action.id ∧ work.action.current.sessionId = loaded.action.sessionId)
    (session : work.session.current.id = loaded.session.id) (event : work.auditEvent.sessionId = some loaded.session.id)
    (other : message.sessionId ≠ sessionId) :
    (db.replaced work).executionSessions.find? sessionId = db.executionSessions.find? sessionId ∧
      (db.replaced work).actionsOf sessionId = db.actionsOf sessionId ∧
      settledEvents (db.replaced work) sessionId = settledEvents db sessionId := by
  obtain ⟨sessionFound, -, actionFound, mine, -⟩ := loadSession_ok load
  have sessionKey := Table.key_of_find? sessionFound
  rw [← Table.key_of_find? actionFound, ← action.1] at actionFound
  refine ⟨?_, ?_, ?_⟩
  · rw [ExecutionDb.replaced, Table.find?_put_ne]
    rw [session, sessionKey]
    exact other
  · simp only [ExecutionDb.actionsOf, ExecutionDb.replaced]
    refine Table.filter_put_stays actionFound ?_ ?_
    · simpa [mine] using other
    · simpa [action.2, mine] using other
  · simp only [settledEvents, ExecutionDb.replaced, List.filter_append]
    simp [event, sessionKey, other]

theorem replaced_session (load : loadSession db message = .ok loaded) (work : UnitOfWork)
    (session : work.session.current.id = loaded.session.id) :
    (db.replaced work).executionSessions.find? message.sessionId = some work.session.current := by
  obtain ⟨sessionFound, -, -, -, -⟩ := loadSession_ok load
  have sessionKey := Table.key_of_find? sessionFound
  rw [← sessionKey, ← session] at sessionFound ⊢
  exact Table.find?_put_self sessionFound

theorem delivered_other (load : loadSession db delivery.message = .ok loaded)
    (written : delivered db delivery = db.replaced (settle loaded agent delivery.clock))
    (other : delivery.message.sessionId ≠ sessionId) :
    (delivered db delivery).executionSessions.find? sessionId = db.executionSessions.find? sessionId ∧
      (delivered db delivery).actionsOf sessionId = db.actionsOf sessionId ∧
      settledEvents (delivered db delivery) sessionId = settledEvents db sessionId := by
  rw [written]
  rcases settle_cases loaded agent delivery.clock with ⟨-, same⟩ | ⟨-, same⟩ <;> rw [same]
  · exact replaced_other load _ ⟨rfl, rfl⟩ (settleWork_session ..) rfl other
  · exact replaced_other load _ ⟨rfl, rfl⟩ rfl rfl other

theorem completedActions_settle (load : loadSession db message = .ok loaded) :
    (completedActions (db.replaced (settleWork loaded agent checked clock)) message.sessionId).Perm
      (loaded.settledAction :: completedActions db message.sessionId) := by
  obtain ⟨-, -, actionFound, mine, executing⟩ := loadSession_ok load
  rw [← Table.key_of_find? actionFound] at actionFound
  rw [completedActions_rows, completedActions_rows]
  refine Table.filter_put_joins (r := loaded.settledAction) actionFound ?_ ?_
  · simp [executing]
  · simp [LoadedSession.settledAction, ExecutionAction.setStatus, mine]

theorem completedActions_block (load : loadSession db message = .ok loaded) :
    completedActions (db.replaced (blockWork loaded agent checked clock)) message.sessionId =
      completedActions db message.sessionId := by
  obtain ⟨-, -, actionFound, -, executing⟩ := loadSession_ok load
  rw [← Table.key_of_find? actionFound] at actionFound
  rw [completedActions_rows, completedActions_rows]
  refine Table.filter_put_stays (r := loaded.action.setStatus .blockedByPolicy (some budgetExhausted)) actionFound ?_ ?_
  · simp [executing]
  · simp [ExecutionAction.setStatus]

theorem completedSpend_settle (agent checked : AgentIdentity) (clock : ReconcileClock)
    (load : loadSession db message = .ok loaded) :
    completedSpend ((db.replaced (settleWork loaded agent checked clock)).actionsOf message.sessionId) =
      loaded.action.estimatedSpendUsd + completedSpend (db.actionsOf message.sessionId) := by
  have joined : (completedActions (db.replaced (settleWork loaded agent checked clock)) message.sessionId).Perm
    (loaded.settledAction :: completedActions db message.sessionId) := completedActions_settle load
  rw [completedSpend_eq, completedSpend_eq, (joined.map _).sum_eq]
  rfl

end Delivered

/-! ## The books of a session -/

structure Accounts (sessionId : Guid) (events : List (ExecutionDb × Delivery)) (db : ExecutionDb) : Prop where
  present : ∃ session, db.executionSessions.find? sessionId = some session ∧
    (session.status ≠ .completed → session.totalExecutedSpendUsd = 0) ∧
    (session.status = .completed → (∀ action ∈ db.actionsOf sessionId, action.status.ended = true) ∧
      session.totalExecutedSpendUsd = completedSpend (db.actionsOf sessionId))
  grown : spendGrowth sessionId events = completedSpend (db.actionsOf sessionId)
  audited : ((settledEvents db sessionId).map fun event => (event.actionName, event.capitalTransactedUsd)).Perm
    ((completedActions db sessionId).map fun action => (action.toolName, action.estimatedSpendUsd))
  charged : ∀ actionId, charges sessionId actionId events ≤ 1 ∧ (0 < charges sessionId actionId events →
    ∃ action, db.executionActions.find? actionId = some action ∧ action.status = .completed)

theorem Opened.accounts {sessionId : Guid} {db : ExecutionDb} (opened : Opened sessionId db) : Accounts sessionId [] db where
  present := by
    obtain ⟨session, found, running, -, total⟩ := opened.running
    exact ⟨session, found, fun _ => total, fun completed => absurd completed running⟩
  grown := by rw [completedSpend_eq, opened.unsettled]; rfl
  audited := by rw [opened.unaudited, opened.unsettled]; exact .nil
  charged := fun _ => ⟨Nat.zero_le _, fun some => absurd some (Nat.lt_irrefl 0)⟩

theorem spendGrowth_append (sessionId : Guid) (events : List (ExecutionDb × Delivery)) (db : ExecutionDb)
    (delivery : Delivery) : spendGrowth sessionId (events ++ [(db, delivery)]) =
      spendGrowth sessionId events + growth sessionId (db, delivery) := by simp [spendGrowth]

theorem charges_append (sessionId actionId : Guid) (events : List (ExecutionDb × Delivery)) (db : ExecutionDb)
    (delivery : Delivery) : charges sessionId actionId (events ++ [(db, delivery)]) = charges sessionId actionId events +
      if outcomeOf db delivery = .settled ∧ delivery.message = ⟨sessionId, actionId⟩ then 1 else 0 := by
  simp [charges, List.countP_append, List.countP_singleton]

theorem completed_kept {db : ExecutionDb} {delivery : Delivery} {actionId : Guid} {action : ExecutionAction}
    (found : db.executionActions.find? actionId = some action) (completed : action.status = .completed) :
    (delivered db delivery).executionActions.find? actionId = some action := by
  rcases delivered_cases db delivery with ⟨same, -, -⟩ | ⟨loaded, agent, load, -, written, -⟩
  · rw [same]
    exact found
  · obtain ⟨-, -, actionFound, -, executing⟩ := loadSession_ok load
    have id : (settle loaded agent delivery.clock).action.current.id = loaded.action.id := by
      rcases settle_cases loaded agent delivery.clock with ⟨-, same⟩ | ⟨-, same⟩ <;> rw [same] <;> rfl
    rw [written, ExecutionDb.replaced, Table.find?_put_ne, found]
    rw [id, Table.key_of_find? actionFound]
    rintro rfl
    rw [found] at actionFound
    obtain rfl := Option.some.inj actionFound
    rw [completed] at executing
    cases executing

theorem Accounts.running {sessionId : Guid} {events : List (ExecutionDb × Delivery)} {db : ExecutionDb}
    {message : ExecutionDispatchMessage} {loaded : LoadedSession} (accounts : Accounts sessionId events db)
    (load : loadSession db message = .ok loaded) (here : message.sessionId = sessionId) :
    loaded.session.status ≠ .completed ∧ loaded.session.totalExecutedSpendUsd = 0 := by
  subst here
  obtain ⟨sessionFound, -, actionFound, mine, executing⟩ := loadSession_ok load
  obtain ⟨session, found, open_, closed⟩ := accounts.present
  obtain rfl : loaded.session = session := Option.some.inj (sessionFound.symm.trans found)
  have member := mem_actionsOf.mpr ⟨Table.mem_of_find? actionFound, mine⟩
  have running : loaded.session.status ≠ .completed := by
    intro completed
    have ended := (closed completed).1 loaded.action member
    simp [executing, ExecutionStatus.ended] at ended
  exact ⟨running, open_ running⟩

section Step

variable {sessionId : Guid} {events : List (ExecutionDb × Delivery)} {db : ExecutionDb} {delivery : Delivery}
  {loaded : LoadedSession} {agent checked : AgentIdentity}

theorem Accounts.uncharged (accounts : Accounts sessionId events db)
    (idle : ∀ actionId, ¬(outcomeOf db delivery = .settled ∧ delivery.message = ⟨sessionId, actionId⟩)) (actionId : Guid) :
    charges sessionId actionId (events ++ [(db, delivery)]) ≤ 1 ∧
      (0 < charges sessionId actionId (events ++ [(db, delivery)]) →
        ∃ action, (delivered db delivery).executionActions.find? actionId = some action ∧ action.status = .completed) := by
  rw [charges_append, if_neg (idle actionId), Nat.add_zero]
  refine ⟨(accounts.charged actionId).1, fun some => ?_⟩
  obtain ⟨action, found, completed⟩ := (accounts.charged actionId).2 some
  exact ⟨action, completed_kept found completed, completed⟩

theorem Accounts.idle (accounts : Accounts sessionId events db) (same : delivered db delivery = db)
    (idle : outcomeOf db delivery ≠ .settled) : Accounts sessionId (events ++ [(db, delivery)]) (delivered db delivery) := by
  have still : growth sessionId (db, delivery) = 0 := by
    simp only [growth, same]
    split
    · rename_i before after found found'
      obtain rfl := Option.some.inj (found.symm.trans found')
      rw [spendAdded_sameDay rfl, Int.sub_self, ite_self]
    · rfl
  refine ⟨by rw [same]; exact accounts.present, ?_, by rw [same]; exact accounts.audited, ?_⟩
  · rw [spendGrowth_append, still, same, Int.add_zero]
    exact accounts.grown
  · exact accounts.uncharged fun _ settled => idle settled.1

theorem Accounts.elsewhere (accounts : Accounts sessionId events db)
    (other : delivery.message.sessionId ≠ sessionId)
    (session : (delivered db delivery).executionSessions.find? sessionId = db.executionSessions.find? sessionId)
    (actions : (delivered db delivery).actionsOf sessionId = db.actionsOf sessionId)
    (audit : settledEvents (delivered db delivery) sessionId = settledEvents db sessionId) :
    Accounts sessionId (events ++ [(db, delivery)]) (delivered db delivery) := by
  have still : growth sessionId (db, delivery) = 0 := by
    simp only [growth]
    split
    · rw [if_neg other]
    · rfl
  refine ⟨by rw [session, actions]; exact accounts.present, ?_, ?_, ?_⟩
  · rw [spendGrowth_append, still, actions, Int.add_zero]
    exact accounts.grown
  · rw [audit, completedActions, actions]
    exact accounts.audited
  · refine accounts.uncharged fun actionId settled => other ?_
    rw [settled.2]

theorem Accounts.blocked (accounts : Accounts delivery.message.sessionId events db)
    (load : loadSession db delivery.message = .ok loaded)
    (written : delivered db delivery = db.replaced (blockWork loaded agent checked delivery.clock))
    (still : growth delivery.message.sessionId (db, delivery) = 0) (refused : outcomeOf db delivery ≠ .settled) :
    Accounts delivery.message.sessionId (events ++ [(db, delivery)]) (delivered db delivery) := by
  have running := accounts.running load rfl
  have unchanged : completedActions (delivered db delivery) delivery.message.sessionId =
      completedActions db delivery.message.sessionId := by
    rw [written]
    exact completedActions_block load
  refine ⟨⟨loaded.session.fail, ?_, fun _ => running.2, fun completed => by cases completed⟩, ?_, ?_, ?_⟩
  · rw [written]
    exact replaced_session load _ rfl
  · rw [spendGrowth_append, still, Int.add_zero, accounts.grown, completedSpend_eq, completedSpend_eq, unchanged]
  · rw [unchanged]
    have same : settledEvents (delivered db delivery) delivery.message.sessionId =
        settledEvents db delivery.message.sessionId := by
      rw [written]
      simp [settledEvents, ExecutionDb.replaced, blockWork]
    rw [same]
    exact accounts.audited
  · exact accounts.uncharged fun _ settled => refused settled.1

theorem Accounts.settled (accounts : Accounts delivery.message.sessionId events db)
    (load : loadSession db delivery.message = .ok loaded)
    (written : delivered db delivery = db.replaced (settleWork loaded agent checked delivery.clock))
    (added : growth delivery.message.sessionId (db, delivery) = loaded.action.estimatedSpendUsd)
    (outcome : outcomeOf db delivery = .settled) :
    Accounts delivery.message.sessionId (events ++ [(db, delivery)]) (delivered db delivery) := by
  obtain ⟨sessionFound, -, actionFound, mine, executing⟩ := loadSession_ok load
  have sessionKey := Table.key_of_find? sessionFound
  have running := accounts.running load rfl
  have joined : (completedActions (delivered db delivery) delivery.message.sessionId).Perm
      (loaded.settledAction :: completedActions db delivery.message.sessionId) := by
    rw [written]
    exact completedActions_settle load
  refine ⟨⟨(settleWork loaded agent checked delivery.clock).session.current, ?_, ?_, ?_⟩, ?_, ?_, ?_⟩
  · rw [written]
    exact replaced_session load _ (settleWork_session ..)
  · intro open_
    simp only [settleWork] at open_ ⊢
    split
    · rename_i ended
      rw [if_pos ended] at open_
      exact absurd rfl open_
    · exact running.2
  · intro completed
    rw [written, settledActions_eq _ _ _ load]
    simp only [settleWork] at completed ⊢
    split
    · rename_i ended
      exact ⟨List.all_eq_true.mp ended, rfl⟩
    · rename_i ended
      rw [if_neg ended] at completed
      exact absurd completed running.1
  · rw [spendGrowth_append, added, accounts.grown, written, completedSpend_settle agent _ delivery.clock load, Int.add_comm]
  · have appended : settledEvents (delivered db delivery) delivery.message.sessionId =
        settledEvents db delivery.message.sessionId ++ [(settleWork loaded agent checked delivery.clock).auditEvent] := by
      rw [written]
      simp [settledEvents, ExecutionDb.replaced, settleWork, sessionKey]
    rw [appended, List.map_append]
    refine ((accounts.audited.append_right _).trans ?_).trans (joined.map _).symm
    exact List.perm_append_comm
  · intro actionId
    rw [charges_append]
    by_cases this_ : delivery.message = ⟨delivery.message.sessionId, actionId⟩
    · have located : delivery.message.actionId = actionId := by rw [this_]
      subst located
      have before : charges delivery.message.sessionId delivery.message.actionId events = 0 := by
        by_contra some
        obtain ⟨action, found, completed⟩ := (accounts.charged _).2 (Nat.pos_of_ne_zero some)
        obtain rfl := Option.some.inj (actionFound.symm.trans found)
        rw [executing] at completed
        cases completed
      rw [before, if_pos ⟨outcome, this_⟩]
      refine ⟨Nat.le_refl 1, fun _ => ⟨loaded.settledAction, ?_, rfl⟩⟩
      rw [written, ← Table.key_of_find? actionFound]
      refine Table.find?_put_self (?_ : _ = some loaded.action)
      rw [← Table.key_of_find? actionFound] at actionFound
      exact actionFound
    · rw [if_neg fun settled => this_ settled.2, Nat.add_zero]
      refine ⟨(accounts.charged actionId).1, fun some => ?_⟩
      obtain ⟨action, found, completed⟩ := (accounts.charged actionId).2 some
      exact ⟨action, completed_kept found completed, completed⟩

end Step

theorem Accounts.step {sessionId : Guid} {events : List (ExecutionDb × Delivery)} {db : ExecutionDb}
    (accounts : Accounts sessionId events db) (delivery : Delivery) :
    Accounts sessionId (events ++ [(db, delivery)]) (delivered db delivery) := by
  rcases delivered_cases db delivery with ⟨same, idle, -⟩ | ⟨loaded, agent, load, found, written, outcome⟩
  · exact accounts.idle same idle
  · have added := growth_settle load found written
    by_cases here : delivery.message.sessionId = sessionId
    · subst here
      rcases settle_cases loaded agent delivery.clock with ⟨-, same⟩ | ⟨-, same⟩
      · rw [same] at written outcome added
        exact accounts.settled load written added outcome
      · rw [same] at written outcome added
        exact accounts.blocked load written added (by rw [outcome]; simp [blockWork])
    · have apart := delivered_other load written here
      exact accounts.elsewhere here apart.1 apart.2.1 apart.2.2

theorem accounts_of_run {sessionId : Guid} {db₀ db : ExecutionDb} {events : List (ExecutionDb × Delivery)}
    (opened : Opened sessionId db₀) (run : Run deliver db₀ events db) : Accounts sessionId events db := by
  induction run with
  | start => exact opened.accounts
  | next before taken ih =>
    obtain rfl := Option.some.inj taken
    exact ih.step _

/-! ## When the total is right, and a failure final -/

def Revived (sessionId : Guid) (before after : ExecutionDb) : Prop :=
  statusOf before sessionId = some .failed ∧ statusOf after sessionId = some .completed

theorem settledActions_ended (loaded : LoadedSession) : loaded.settledActions.all (·.status.ended) = true ↔
    ¬∃ other ∈ loaded.actions, other.id ≠ loaded.action.id ∧ other.status.ended = false := by
  simp only [LoadedSession.settledActions, List.all_map, List.all_eq_true, Function.comp_apply]
  constructor
  · rintro ended ⟨other, member, apart, open_⟩
    have here := ended other member
    rw [if_neg apart, open_] at here
    cases here
  · intro closed action member
    split
    · rfl
    · rename_i apart
      by_contra open_
      exact closed ⟨action, member, apart, by simpa using open_⟩

section Step

variable {sessionId : Guid} {events : List (ExecutionDb × Delivery)} {db : ExecutionDb} {delivery : Delivery}

theorem totalAgrees_congr {db db' : ExecutionDb} (agrees : TotalAgrees sessionId db)
    (session : db'.executionSessions.find? sessionId = db.executionSessions.find? sessionId)
    (actions : db'.actionsOf sessionId = db.actionsOf sessionId) :
    TotalAgrees sessionId db' ∧ ¬Revived sessionId db db' := by
  refine ⟨fun row found ended => ?_, fun revived => ?_⟩
  · rw [actions]
    exact agrees row (session ▸ found) ended
  · have same : statusOf db' sessionId = statusOf db sessionId := by rw [statusOf, statusOf, session]
    have clash := same.symm.trans revived.2
    rw [revived.1] at clash
    cases clash

theorem revived_iff {db' : ExecutionDb} {session session' : ExecutionSession}
    (found : db.executionSessions.find? sessionId = some session)
    (found' : db'.executionSessions.find? sessionId = some session') :
    Revived sessionId db db' ↔ session.status = .failed ∧ session'.status = .completed := by
  simp [Revived, statusOf, found, found']

theorem totalAgrees_iff {session : ExecutionSession} (found : db.executionSessions.find? sessionId = some session) :
    TotalAgrees sessionId db ↔ (session.status = .completed ∨ session.status = .failed →
      session.totalExecutedSpendUsd = completedSpend (db.actionsOf sessionId)) := by
  refine ⟨fun agrees => agrees session found, fun agrees row found' => ?_⟩
  obtain rfl := Option.some.inj (found.symm.trans found')
  exact agrees

variable {loaded : LoadedSession} {agent checked : AgentIdentity} {message : ExecutionDispatchMessage} {clock : ReconcileClock}

theorem block_agrees (load : loadSession db message = .ok loaded)
    (running : loaded.session.status ≠ .completed ∧ loaded.session.totalExecutedSpendUsd = 0) :
    completedSpend loaded.actions = 0 ↔
      TotalAgrees message.sessionId (db.replaced (blockWork loaded agent checked clock)) ∧
        ¬Revived message.sessionId db (db.replaced (blockWork loaded agent checked clock)) := by
  obtain ⟨sessionFound, actions, -, -, -⟩ := loadSession_ok load
  have after := replaced_session load (blockWork loaded agent checked clock) rfl
  have spend : completedSpend ((db.replaced (blockWork loaded agent checked clock)).actionsOf message.sessionId) =
      completedSpend loaded.actions := by
    rw [completedSpend_eq, completedActions_block load, actions, completedSpend_eq]
  rw [totalAgrees_iff after, revived_iff sessionFound after, spend]
  simp only [blockWork, ExecutionSession.fail, running.2]
  simp [eq_comm]

theorem settle_agrees (load : loadSession db message = .ok loaded)
    (running : loaded.session.status ≠ .completed ∧ loaded.session.totalExecutedSpendUsd = 0)
    (agrees : TotalAgrees message.sessionId db) :
    (loaded.session.status = .failed → loaded.action.estimatedSpendUsd = 0 ∧
        ∃ other ∈ loaded.actions, other.id ≠ loaded.action.id ∧ other.status.ended = false) ↔
      TotalAgrees message.sessionId (db.replaced (settleWork loaded agent checked clock)) ∧
        ¬Revived message.sessionId db (db.replaced (settleWork loaded agent checked clock)) := by
  obtain ⟨sessionFound, actions, -, -, -⟩ := loadSession_ok load
  have after := replaced_session load (settleWork loaded agent checked clock) (settleWork_session ..)
  have spend := completedSpend_settle agent checked clock load
  have whole := settledActions_eq agent checked clock load
  have before := (totalAgrees_iff sessionFound).mp agrees
  have others := settledActions_ended loaded
  rw [totalAgrees_iff after, revived_iff sessionFound after]
  by_cases ended : loaded.settledActions.all (·.status.ended) = true
  · have none := others.mp ended
    have current : (settleWork loaded agent checked clock).session.current =
        loaded.session.complete (completedSpend loaded.settledActions) := by simp only [settleWork, if_pos ended]
    rw [current, whole]
    simp [ExecutionSession.complete, none]
  · have some := not_not.mp (mt others.mpr ended)
    have current : (settleWork loaded agent checked clock).session.current = loaded.session := by
      simp only [settleWork, if_neg ended]
    rw [current, spend]
    constructor
    · intro free
      refine ⟨fun ended => ?_, fun revived => running.1 revived.2⟩
      rw [before ended, (free (ended.resolve_left running.1)).1, Int.zero_add]
    · rintro ⟨right, -⟩ failed
      have total := right (.inr failed)
      rw [before (.inr failed)] at total
      exact ⟨by omega, some⟩

theorem undisturbed_iff (accounts : Accounts sessionId events db) (agrees : TotalAgrees sessionId db) :
    Undisturbed sessionId db delivery ↔
      TotalAgrees sessionId (delivered db delivery) ∧ ¬Revived sessionId db (delivered db delivery) := by
  have after := accounts.step delivery
  rcases delivered_cases db delivery with ⟨same, -, stops⟩ | ⟨loaded, agent, load, found, written, -⟩
  · refine iff_of_true (fun _ loaded agent load found => absurd found (stops loaded agent load)) ?_
    rw [same]
    exact totalAgrees_congr agrees rfl rfl
  by_cases here : delivery.message.sessionId = sessionId
  swap
  · have apart := delivered_other load written here
    exact iff_of_true (fun now => absurd now here) (totalAgrees_congr agrees apart.1 apart.2.1)
  subst here
  have running := accounts.running load rfl
  have unfolded : Undisturbed delivery.message.sessionId db delivery ↔
      if (agent.canSpend delivery.clock.checked loaded.action.estimatedSpendUsd).2 then
        loaded.session.status = .failed → loaded.action.estimatedSpendUsd = 0 ∧
          ∃ other ∈ loaded.actions, other.id ≠ loaded.action.id ∧ other.status.ended = false
      else completedSpend loaded.actions = 0 := by
    refine ⟨fun undisturbed => undisturbed rfl loaded agent load found, fun kept _ loaded' agent' load' found' => ?_⟩
    obtain rfl := Except.ok.inj (load.symm.trans load')
    obtain rfl := Except.ok.inj (found.symm.trans found')
    exact kept
  rw [unfolded]
  rcases settle_cases loaded agent delivery.clock with ⟨allowed, same⟩ | ⟨refused, same⟩
  · rw [same] at written
    rw [if_pos allowed, written]
    exact settle_agrees load running agrees
  · rw [same] at written
    rw [if_neg (by rw [refused]; exact Bool.false_ne_true), written]
    exact block_agrees load running

end Step

theorem failed_step {sessionId : Guid} {db : ExecutionDb} (delivery : Delivery)
    (failed : statusOf db sessionId = some .failed) :
    statusOf (delivered db delivery) sessionId = some .failed ∨ Revived sessionId db (delivered db delivery) := by
  rcases delivered_cases db delivery with ⟨same, -, -⟩ | ⟨loaded, agent, load, -, written, -⟩
  · rw [same]
    exact .inl failed
  · by_cases here : delivery.message.sessionId = sessionId
    · subst here
      have before : loaded.session.status = .failed := by
        simpa [statusOf, (loadSession_ok load).1] using failed
      rcases settle_cases loaded agent delivery.clock with ⟨-, same⟩ | ⟨-, same⟩
      · rw [same] at written
        have after := replaced_session load _ (settleWork_session loaded agent
          (agent.canSpend delivery.clock.checked loaded.action.estimatedSpendUsd).1 delivery.clock)
        rw [← written] at after
        simp only [Revived, statusOf, after, Option.map_some, settleWork]
        split
        · exact .inr ⟨failed, rfl⟩
        · exact .inl (congrArg some before)
      · rw [same] at written
        have after := replaced_session load (blockWork loaded agent
          (agent.canSpend delivery.clock.checked loaded.action.estimatedSpendUsd).1 delivery.clock) rfl
        rw [← written] at after
        exact .inl (by rw [statusOf, after]; rfl)
    · rw [statusOf, (delivered_other load written here).1]
      exact .inl failed

/-- No session is completed after it has failed. -/
def FailuresLast (sessionId : Guid) (passed : List ExecutionDb) : Prop :=
  passed.Pairwise fun before after => ¬Revived sessionId before after

theorem totals_kept {sessionId : Guid} {db₀ db : ExecutionDb} {events : List (ExecutionDb × Delivery)}
    (opened : Opened sessionId db₀) (run : Run deliver db₀ events db)
    (conforms : Conforms (Undisturbed sessionId) events) :
    (∀ t ∈ states events db, TotalAgrees sessionId t) ∧ FailuresLast sessionId (states events db) := by
  suffices kept : (∀ t ∈ states events db, TotalAgrees sessionId t) ∧ FailuresLast sessionId (states events db) ∧
      ∀ t ∈ states events db, statusOf t sessionId = some .failed → statusOf db sessionId = some .failed from
    ⟨kept.1, kept.2.1⟩
  induction run with
  | start =>
    obtain ⟨session, found, _, _, -⟩ := opened.running
    refine ⟨?_, List.pairwise_singleton .., by simp [states]⟩
    · simp only [states, List.map_nil, List.nil_append, List.mem_singleton, forall_eq]
      intro row found' ended
      obtain rfl := Option.some.inj (found.symm.trans found')
      rcases ended with completed | failed <;> contradiction
  | @next events db db' delivery before taken ih =>
    obtain rfl := Option.some.inj taken
    simp only [conforms_append, conforms_singleton] at conforms
    obtain ⟨totals, last, final⟩ := ih conforms.1
    have here : db ∈ states events db := by simp [states]
    obtain ⟨right, kept⟩ := (undisturbed_iff (accounts_of_run opened before) (totals db here)).mp conforms.2
    have stays : ∀ t ∈ states events db, statusOf t sessionId = some .failed →
        statusOf (delivered db delivery) sessionId = some .failed := by
      intro t member failed
      exact (failed_step delivery (final t member failed)).resolve_right kept
    rw [states_append]
    refine ⟨?_, ?_, ?_⟩
    · intro t member
      rcases List.mem_append.mp member with earlier | now
      · exact totals t earlier
      · rw [List.mem_singleton.mp now]
        exact right
    · refine List.pairwise_append.mpr ⟨last, List.pairwise_singleton .., ?_⟩
      intro t member t' now revived
      rw [List.mem_singleton.mp now] at revived
      have failed := stays t member revived.1
      rw [revived.2] at failed
      cases failed
    · intro t member failed
      rcases List.mem_append.mp member with earlier | now
      · exact stays t earlier failed
      · rw [List.mem_singleton.mp now] at failed
        exact failed

theorem conforms_of_totals {sessionId : Guid} {db₀ db : ExecutionDb} {events : List (ExecutionDb × Delivery)}
    (opened : Opened sessionId db₀) (run : Run deliver db₀ events db)
    (totals : ∀ t ∈ states events db, TotalAgrees sessionId t) (last : FailuresLast sessionId (states events db)) :
    Conforms (Undisturbed sessionId) events := by
  intro e member
  obtain ⟨before, after, db', rfl, first, taken, rest⟩ := run.of_mem member
  obtain rfl := Option.some.inj taken
  have passed : states (before ++ e :: after) db = states before e.1 ++ states after db := by simp [states]
  have next : delivered e.1 e.2 ∈ states after db := rest.start_mem
  rw [passed] at totals last
  have here : e.1 ∈ states before e.1 := by simp [states]
  refine (undisturbed_iff (accounts_of_run opened first) (totals _ (List.mem_append_left _ here))).mpr ⟨?_, ?_⟩
  · exact totals _ (List.mem_append_right _ next)
  · exact (List.pairwise_append.mp last).2.2 _ here _ next

/-- In any order of deliveries each action is charged once, the agent's spend grows by what the completed actions cost,
and each of these has its event. The total agrees and failures last while no delivery is disturbed, and only then. -/
theorem settlement_accounted_iff {sessionId : Guid} {db₀ db : ExecutionDb} {events : List (ExecutionDb × Delivery)}
    (opened : Opened sessionId db₀) (run : Run deliver db₀ events db) :
    (∀ actionId, charges sessionId actionId events ≤ 1) ∧
      spendGrowth sessionId events = completedSpend (db.actionsOf sessionId) ∧
      ((settledEvents db sessionId).map fun event => (event.actionName, event.capitalTransactedUsd)).Perm
        ((completedActions db sessionId).map fun action => (action.toolName, action.estimatedSpendUsd)) ∧
      (Conforms (Undisturbed sessionId) events ↔
        (∀ t ∈ states events db, TotalAgrees sessionId t) ∧ FailuresLast sessionId (states events db)) := by
  have accounts := accounts_of_run opened run
  refine ⟨fun actionId => (accounts.charged actionId).1, accounts.grown, accounts.audited, ?_⟩
  exact ⟨totals_kept opened run, fun kept => conforms_of_totals opened run kept.1 kept.2⟩

section Example

def sessionOf (costs : List Int) : ExecutionDb where
  agentIdentities := .singleton acme
  executionSessions := .singleton ⟨1, 1, .executing, 0⟩
  executionActions := {
    rows := costs.mapIdx fun i cost => ⟨i, 1, "pay_invoice", cost, .executing, none⟩
    distinct := by
      have keys : (costs.mapIdx fun i cost => ExecutionAction.mk i 1 "pay_invoice" cost .executing none).map
          ExecutionAction.id = List.range costs.length := by
        exact List.ext_getElem (by simp) (by simp)
      rw [keys]
      exact List.nodup_range }
  approvalWorkflows := .empty
  auditEvents := []

def noon : ReconcileClock := ⟨0, ⟨0, 0, le_rfl⟩, ⟨0, 0, le_rfl⟩⟩

def deliveryOf (actionId : Guid) : Delivery := ⟨⟨1, actionId⟩, noon⟩

theorem opened_sessionOf (costs : List Int) : Opened 1 (sessionOf costs) where
  running := ⟨_, rfl, by decide, by decide, rfl⟩
  unsettled := by
    refine List.filter_eq_nil_iff.mpr fun action member => ?_
    obtain ⟨i, bound, rfl⟩ := List.mem_mapIdx.mp (List.mem_of_mem_filter member)
    simp
  unaudited := rfl

/-- A refusal after a settlement fails the session with a total of zero, and a settlement after a refusal completes it. -/
theorem settlement_misreported :
    (Opened 1 (sessionOf [60, 60]) ∧ ∃ events db, Run deliver (sessionOf [60, 60]) events db ∧ ¬TotalAgrees 1 db) ∧
    (Opened 1 (sessionOf [200, 10]) ∧ ∃ events db, Run deliver (sessionOf [200, 10]) events db ∧
      ¬FailuresLast 1 (states events db)) := by
  refine ⟨⟨opened_sessionOf _, ?_⟩, opened_sessionOf _, ?_⟩
  · obtain ⟨events, db, run, found, spent⟩ : ∃ events db, Run deliver (sessionOf [60, 60]) events db ∧
        db.executionSessions.find? 1 = some ⟨1, 1, .failed, 0⟩ ∧ completedSpend (db.actionsOf 1) = 60 :=
      exists_run [deliveryOf 0, deliveryOf 1] _ (by decide)
    refine ⟨events, db, run, fun agrees => ?_⟩
    have total := agrees _ found (.inr rfl)
    rw [spent] at total
    cases total
  · obtain ⟨events, db, run, passed⟩ : ∃ events db, Run deliver (sessionOf [200, 10]) events db ∧
        (states events db).map (statusOf · 1) = [some .executing, some .failed, some .completed] :=
      exists_run_with [deliveryOf 0, deliveryOf 1] _ (by decide)
    refine ⟨events, db, run, fun last => ?_⟩
    have apart : ((states events db).map (statusOf · 1)).Pairwise fun before after =>
        ¬(before = some .failed ∧ after = some .completed) := List.pairwise_map.mpr last
    rw [passed] at apart
    simp at apart

def undisturbedBy (db : ExecutionDb) (delivery : Delivery) : Bool :=
  match loadSession db delivery.message with
  | .error _ => true
  | .ok loaded =>
    match loadAgent db loaded with
    | .error _ => true
    | .ok agent => (agent.canSpend delivery.clock.checked loaded.action.estimatedSpendUsd).2 && loaded.session.status ≠ .failed

theorem undisturbed_of_undisturbedBy {sessionId : Guid} {db : ExecutionDb} {delivery : Delivery}
    (checked : undisturbedBy db delivery = true) : Undisturbed sessionId db delivery := by
  intro _ loaded agent load found
  simp only [undisturbedBy, load, found, Bool.and_eq_true, decide_eq_true_eq] at checked
  rw [if_pos checked.1]
  exact fun failed => (checked.2 failed).elim

/-- The budget allows both actions, which come in any order, one of them twice. -/
theorem settlement_accounted_twice : ∃ events db, Run deliver (sessionOf [60, 40]) events db ∧
    events.map Prod.snd = [deliveryOf 1, deliveryOf 0, deliveryOf 1] ∧ Conforms (Undisturbed 1) events ∧
    spendGrowth 1 events = 100 ∧ (∀ t ∈ states events db, TotalAgrees 1 t) ∧ FailuresLast 1 (states events db) := by
  obtain ⟨events, db, run, deliveries, checked, spent⟩ : ∃ events db, Run deliver (sessionOf [60, 40]) events db ∧
      events.map Prod.snd = [deliveryOf 1, deliveryOf 0, deliveryOf 1] ∧
        (events.all fun e => undisturbedBy e.1 e.2) = true ∧ completedSpend (db.actionsOf 1) = 100 :=
    exists_run_with [deliveryOf 1, deliveryOf 0, deliveryOf 1] _ (by decide)
  have conforms : Conforms (Undisturbed 1) events := fun e member =>
    undisturbed_of_undisturbedBy (List.all_eq_true.mp checked e member)
  obtain ⟨-, grown, -, totals⟩ := settlement_accounted_iff (opened_sessionOf _) run
  obtain ⟨agrees, last⟩ := totals.mp conforms
  exact ⟨events, db, run, deliveries, conforms, grown.trans spent, agrees, last⟩

end Example

end AgentOps.Execution
