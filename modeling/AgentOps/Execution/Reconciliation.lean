import AgentOps.Execution.Entities
import Mathlib.Algebra.Ring.Int.Defs

namespace AgentOps.Execution
open Lib

/-! # Settling a dispatched action -/

inductive ReconciliationOutcome where
  | settled
  | blockedOverBudget
  | alreadyReconciled
  | notFound
  deriving DecidableEq

structure ExecutionDispatchMessage where
  sessionId : Guid
  actionId : Guid
  deriving DecidableEq

/-- What `ReconcileAsync` has after its first query, when it goes on -/
structure LoadedSession where
  session : ExecutionSession
  actions : List ExecutionAction
  action : ExecutionAction
  deriving DecidableEq

def loadSession (db : ExecutionDb) (message : ExecutionDispatchMessage) : Except ReconciliationOutcome LoadedSession :=
  match db.executionSessions.find? message.sessionId with
  | none => .error .notFound
  | some session =>
    let actions := db.actionsOf session.id
    match actions.find? fun action => action.id = message.actionId with
    | none => .error .notFound
    | some action => if action.status ≠ .executing then .error .alreadyReconciled else .ok ⟨session, actions, action⟩

def loadAgent (db : ExecutionDb) (loaded : LoadedSession) : Except ReconciliationOutcome AgentIdentity :=
  match db.agentIdentities.find? loaded.session.agentId with
  | none => .error .notFound
  | some agent => .ok agent

/-- The readings of the clock in one call: for the audit event, in `CanSpend` and in `RecordSpend` -/
structure ReconcileClock where
  now : UtcDate
  checked : ClockReadings
  recorded : ClockReadings
  deriving DecidableEq

/-- The tracked entities and the new event, as one call leaves them to `SaveChangesAsync` -/
structure UnitOfWork where
  agent : Tracked AgentIdentity
  session : Tracked ExecutionSession
  action : Tracked ExecutionAction
  auditEvent : AuditEvent
  outcome : ReconciliationOutcome
  deriving DecidableEq

def budgetExhausted : String := "Daily budget exhausted before settlement."

def LoadedSession.settledAction (loaded : LoadedSession) : ExecutionAction := loaded.action.setStatus .completed none

/-- `session.Actions` once the loaded action is completed -/
def LoadedSession.settledActions (loaded : LoadedSession) : List ExecutionAction :=
  loaded.actions.map fun action => if action.id = loaded.action.id then loaded.settledAction else action

def completedSpend (actions : List ExecutionAction) : Int :=
  ((actions.filter fun action => action.status = .completed).map (·.estimatedSpendUsd)).sum

def blockWork (loaded : LoadedSession) (agent refused : AgentIdentity) (clock : ReconcileClock) : UnitOfWork where
  agent := ⟨agent, refused⟩
  action := ⟨loaded.action, loaded.action.setStatus .blockedByPolicy (some budgetExhausted)⟩
  session := ⟨loaded.session, loaded.session.fail⟩
  auditEvent := {
    eventType := "SettlementBlocked", agentId := agent.id, organizationId := agent.organizationId
    sessionId := some loaded.session.id, actionName := loaded.action.toolName
    decisionPolicy := "DailyBudgetExceeded", capitalTransactedUsd := 0, createdAtUtc := clock.now }
  outcome := .blockedOverBudget

def settleWork (loaded : LoadedSession) (agent allowed : AgentIdentity) (clock : ReconcileClock) : UnitOfWork where
  agent := ⟨agent, allowed.recordSpend clock.recorded loaded.action.estimatedSpendUsd⟩
  action := ⟨loaded.action, loaded.settledAction⟩
  session := ⟨loaded.session,
    if loaded.settledActions.all (·.status.ended) then loaded.session.complete (completedSpend loaded.settledActions)
    else loaded.session⟩
  auditEvent := {
    eventType := "ExecutionSettled", agentId := agent.id, organizationId := agent.organizationId
    sessionId := some loaded.session.id, actionName := loaded.action.toolName
    decisionPolicy := "Settled", capitalTransactedUsd := loaded.action.estimatedSpendUsd, createdAtUtc := clock.now }
  outcome := .settled

def settle (loaded : LoadedSession) (agent : AgentIdentity) (clock : ReconcileClock) : UnitOfWork :=
  let (checked, allowed) := agent.canSpend clock.checked loaded.action.estimatedSpendUsd
  if allowed then settleWork loaded agent checked clock else blockWork loaded agent checked clock

def ExecutionDb.saveChanges (db : ExecutionDb) (work : UnitOfWork) : ExecutionDb where
  approvalWorkflows := db.approvalWorkflows
  agentIdentities := db.agentIdentities.modify work.agent.original.id (AgentIdentity.written work.agent)
  executionSessions := db.executionSessions.modify work.session.original.id (ExecutionSession.written work.session)
  executionActions := db.executionActions.modify work.action.original.id (ExecutionAction.written work.action)
  auditEvents := db.auditEvents ++ [work.auditEvent]

/-- `ReconcileAsync`, with nothing else between its queries and its save -/
def reconcile (db : ExecutionDb) (message : ExecutionDispatchMessage) (clock : ReconcileClock) :
    ReconciliationOutcome × ExecutionDb :=
  match loadSession db message with
  | .error outcome => (outcome, db)
  | .ok loaded =>
    match loadAgent db loaded with
    | .error outcome => (outcome, db)
    | .ok agent =>
      let work := settle loaded agent clock
      (work.outcome, db.saveChanges work)

theorem mem_actionsOf {db : ExecutionDb} {sessionId : Guid} {action : ExecutionAction} :
    action ∈ db.actionsOf sessionId ↔ action ∈ db.executionActions ∧ action.sessionId = sessionId := by
  simp [ExecutionDb.actionsOf, Table.mem_def]

theorem loadSession_ok {db : ExecutionDb} {message : ExecutionDispatchMessage} {loaded : LoadedSession}
    (load : loadSession db message = .ok loaded) :
    db.executionSessions.find? message.sessionId = some loaded.session ∧
      loaded.actions = db.actionsOf message.sessionId ∧
      db.executionActions.find? message.actionId = some loaded.action ∧
      loaded.action.sessionId = message.sessionId ∧ loaded.action.status = .executing := by
  unfold loadSession at load
  split at load
  · cases load
  · rename_i session found
    have keyed := Table.key_of_find? found
    simp only at load
    split at load
    · cases load
    · rename_i action located
      split at load
      · cases load
      · rename_i executing
        obtain rfl := Except.ok.inj load
        have member := mem_actionsOf.mp (List.mem_of_find?_eq_some located)
        have same : action.id = message.actionId := by simpa using List.find?_some located
        refine ⟨found, by rw [keyed], Table.find?_eq_some.mpr ⟨member.1, same⟩, ?_, ?_⟩
        · rw [member.2, keyed]
        · simpa using executing

theorem loadAgent_ok {db : ExecutionDb} {loaded : LoadedSession} {agent : AgentIdentity} :
    loadAgent db loaded = .ok agent ↔ db.agentIdentities.find? loaded.session.agentId = some agent := by
  unfold loadAgent
  split <;> simp [*]

theorem settleWork_session (loaded : LoadedSession) (agent checked : AgentIdentity) (clock : ReconcileClock) :
    (settleWork loaded agent checked clock).session.current.id = loaded.session.id := by
  simp only [settleWork]
  split <;> rfl

theorem settle_cases (loaded : LoadedSession) (agent : AgentIdentity) (clock : ReconcileClock) :
    let checked := agent.canSpend clock.checked loaded.action.estimatedSpendUsd
    (checked.2 = true ∧ settle loaded agent clock = settleWork loaded agent checked.1 clock) ∨
      (checked.2 = false ∧ settle loaded agent clock = blockWork loaded agent checked.1 clock) := by
  intro checked
  cases allowed : checked.2 with
  | true => exact .inl ⟨rfl, by simp [settle, checked, allowed]⟩
  | false => exact .inr ⟨rfl, by simp [settle, checked, allowed]⟩

end AgentOps.Execution
