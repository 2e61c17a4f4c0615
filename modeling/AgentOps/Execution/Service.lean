import AgentOps.Execution.Reconciliation
import AgentOps.Lib.Transition

namespace AgentOps.Execution
open Lib

/-! # Requests, decisions, the storage queue and the worker -/

inductive PolicyActionType where
  | allow
  | requireHumanApproval
  | requireMultiSig
  | deny
  deriving DecidableEq

/-- The verdict of `EvaluateExecutionAsync`, which allows a request exactly where it requires `Allow` -/
structure PolicyEvaluationResult where
  actionRequired : PolicyActionType
  policyName : String
  reasoning : String
  deriving DecidableEq

structure RequestExecutionDto where
  agentId : Guid
  toolName : String
  estimatedSpendUsd : Int
  deriving DecidableEq

inductive RequestPhase where
  | inserted
  | evaluated (verdict : PolicyEvaluationResult) (agent : Option (Tracked AgentIdentity))
  | enqueued (entryId : Nat) (agent : Option (Tracked AgentIdentity))
  deriving DecidableEq

/-- A running `RequestExecutionAsync`, with the entities its first save inserted -/
structure RequestCall where
  id : Nat
  dto : RequestExecutionDto
  session : ExecutionSession
  action : ExecutionAction
  phase : RequestPhase
  deriving DecidableEq

def plannedSession (dto : RequestExecutionDto) (sessionId : Guid) : ExecutionSession :=
  ⟨sessionId, dto.agentId, .evaluatingPolicy, 0⟩

def plannedAction (dto : RequestExecutionDto) (sessionId actionId : Guid) : ExecutionAction :=
  ⟨actionId, sessionId, dto.toolName, dto.estimatedSpendUsd, .queued, none⟩

def RequestCall.message (call : RequestCall) : ExecutionDispatchMessage := ⟨call.session.id, call.action.id⟩

namespace ExecutionDb

def writeAgent (db : ExecutionDb) (agent : Option (Tracked AgentIdentity)) : ExecutionDb :=
  match agent with
  | none => db
  | some agent => { db with
      agentIdentities := db.agentIdentities.modify agent.original.id (AgentIdentity.written agent) }

def writeSession (db : ExecutionDb) (session : Tracked ExecutionSession) : ExecutionDb :=
  { db with executionSessions := db.executionSessions.modify session.original.id (ExecutionSession.written session) }

def writeAction (db : ExecutionDb) (action : Tracked ExecutionAction) : ExecutionDb :=
  { db with executionActions := db.executionActions.modify action.original.id (ExecutionAction.written action) }

def saveAllowed (db : ExecutionDb) (call : RequestCall) (agent : Option (Tracked AgentIdentity)) : ExecutionDb :=
  ((db.writeAgent agent).writeSession ⟨call.session, call.session.markExecuting⟩).writeAction
    ⟨call.action, call.action.setStatus .executing none⟩

def saveDenied (db : ExecutionDb) (call : RequestCall) (verdict : PolicyEvaluationResult)
    (agent : Option (Tracked AgentIdentity)) (now : UtcDate) : ExecutionDb :=
  let organizationId := ((db.agentIdentities.find? call.dto.agentId).map (·.organizationId)).getD "unknown"
  let saved := ((db.writeAgent agent).writeSession ⟨call.session, call.session.fail⟩).writeAction
    ⟨call.action, call.action.setStatus .blockedByPolicy (some verdict.reasoning)⟩
  { saved with auditEvents := saved.auditEvents ++ [{
      eventType := "ExecutionDenied", agentId := call.dto.agentId, organizationId := organizationId
      sessionId := some call.session.id, actionName := call.dto.toolName
      decisionPolicy := verdict.policyName, capitalTransactedUsd := 0, createdAtUtc := now }] }

/-- The action stays queued until the workflow is decided. -/
def saveAwaiting (db : ExecutionDb) (call : RequestCall) (agent : Option (Tracked AgentIdentity))
    (workflowId : Guid) (expiresAtUtc : Nat) : Option ExecutionDb := do
  let saved := (db.writeAgent agent).writeSession ⟨call.session, call.session.markAwaitingApproval⟩
  let workflows ← saved.approvalWorkflows.insert?
    ⟨workflowId, call.session.id, call.action.id, call.dto.estimatedSpendUsd, .pending, none, expiresAtUtc, none⟩
  some { saved with approvalWorkflows := workflows }

end ExecutionDb

structure SubmitApprovalDecisionDto where
  approved : Bool
  reason : String
  decidedByUserId : String
  deriving DecidableEq

structure DecisionWork where
  workflow : Tracked ApprovalWorkflow
  session : Option (Tracked ExecutionSession)
  action : Option (Tracked ExecutionAction)
  deriving DecidableEq

inductive DecisionPhase where
  | opened (workflow : ApprovalWorkflow)
  | approved (work : DecisionWork)
  | saving (work : DecisionWork) (sent : Option Nat)
  deriving DecidableEq

/-- A running `SubmitDecisionAsync` -/
structure DecisionCall where
  id : Nat
  dto : SubmitApprovalDecisionDto
  phase : DecisionPhase
  deriving DecidableEq

def DecisionWork.message (work : DecisionWork) : ExecutionDispatchMessage :=
  ⟨work.workflow.original.sessionId, work.workflow.original.actionId⟩

def decisionWork (workflow decided : ApprovalWorkflow) (session : Option ExecutionSession)
    (action : Option ExecutionAction) (mark : ExecutionSession → ExecutionSession) (status : ExecutionStatus)
    (error : Option String) : DecisionWork :=
  ⟨⟨workflow, decided⟩, session.map fun session => ⟨session, mark session⟩,
    action.map fun action => ⟨action, action.setStatus status error⟩⟩

def submitDecision (dto : SubmitApprovalDecisionDto) (workflow : ApprovalWorkflow) (session : Option ExecutionSession)
    (action : Option ExecutionAction) (now : Nat) : Option DecisionPhase :=
  let (decided, thrown) := if dto.approved then workflow.approve dto.decidedByUserId dto.reason now
    else workflow.reject dto.decidedByUserId dto.reason
  match thrown with
  | none =>
    if dto.approved then
      some (.approved (decisionWork workflow decided session action (·.markExecuting) .executing none))
    else
      some (.saving (decisionWork workflow decided session action (·.fail) .blockedByPolicy
        (some ("Human rejection: " ++ dto.reason))) none)
  | some _ =>
    if decided.state = .expired then
      some (.saving (decisionWork workflow decided session action (·.fail) .blockedByPolicy
        (some "Approval window expired.")) none)
    else none

def ExecutionDb.saveDecision (db : ExecutionDb) (work : DecisionWork) : ExecutionDb :=
  let db := { db with approvalWorkflows :=
    db.approvalWorkflows.modify work.workflow.original.id (ApprovalWorkflow.written work.workflow) }
  let db := (work.session.map db.writeSession).getD db
  (work.action.map db.writeAction).getD db

/-- A message in the storage queue, hidden while a worker holds a receipt for it -/
structure QueueEntry where
  id : Nat
  message : ExecutionDispatchMessage
  receipt : Option Nat
  deriving DecidableEq

inductive ReconcilePhase where
  | started
  | sessionLoaded (loaded : LoadedSession)
  | agentLoaded (loaded : LoadedSession) (agent : AgentIdentity)
  | settling (loaded : LoadedSession) (agent : AgentIdentity) (clock : ReconcileClock)
  deriving DecidableEq

def ReconcilePhase.loaded : ReconcilePhase → Option LoadedSession
  | .started => none
  | .sessionLoaded loaded | .agentLoaded loaded _ | .settling loaded _ _ => some loaded

inductive WorkerPhase where
  | received (entryId : Nat)
  | reconciling (message : ExecutionDispatchMessage) (phase : ReconcilePhase)
  deriving DecidableEq

/-- A running `ProcessNextAsync` -/
structure Worker where
  id : Nat
  phase : WorkerPhase
  deriving DecidableEq

structure Charge where
  actionId : Guid
  agentId : Guid
  amountUsd : Int
  day : UtcDate
  deriving DecidableEq

/-- The service. The charges, and the actions whose dispatch has been committed, are recorded for the statements only. -/
structure Service where
  db : ExecutionDb
  queue : Table QueueEntry.id
  requests : Table RequestCall.id
  decisions : Table DecisionCall.id
  workers : Table Worker.id
  charges : Table Charge.actionId
  sent : List ExecutionDispatchMessage
  committed : List Guid

inductive ServiceLabel where
  | request (callId : Nat) (dto : RequestExecutionDto) (sessionId actionId : Guid)
  /-- The budget check is reached only by a request that passes the checks before it. -/
  | evaluate (callId : Nat) (verdict : PolicyEvaluationResult) (budgetCheck : Option ClockReadings)
  | enqueueRequest (callId entryId : Nat)
  | saveRequest (callId : Nat) (now : UtcDate) (workflowId : Guid) (expiresAtUtc : Nat)
  | abandonRequest (callId : Nat)
  | openDecision (callId : Nat) (dto : SubmitApprovalDecisionDto) (workflowId : Guid)
  | decide (callId : Nat) (now : Nat)
  | enqueueDecision (callId entryId : Nat)
  | saveDecision (callId : Nat)
  | abandonDecision (callId : Nat)
  /-- The queue delivers at least once: what was sent may come again. -/
  | redeliver (entryId : Nat) (message : ExecutionDispatchMessage)
  | receive (workerId entryId : Nat)
  | reappear (entryId : Nat)
  | delete (workerId : Nat)
  | loadSession (workerId : Nat)
  | loadAgent (workerId : Nat)
  | settle (workerId : Nat) (clock : ReconcileClock)
  | save (workerId : Nat)
  /-- The worker crashes, or its call throws. -/
  | stop (workerId : Nat)

namespace Service

def updateRequest (s : Service) (call : RequestCall) : Service := { s with requests := s.requests.put call }

def endRequest (s : Service) (callId : Nat) : Service := { s with requests := s.requests.remove callId }

def updateDecision (s : Service) (call : DecisionCall) : Service := { s with decisions := s.decisions.put call }

def endDecision (s : Service) (callId : Nat) : Service := { s with decisions := s.decisions.remove callId }

def updateWorker (s : Service) (worker : Worker) : Service := { s with workers := s.workers.put worker }

def endWorker (s : Service) (workerId : Nat) : Service := { s with workers := s.workers.remove workerId }

/-- `EnqueueMessageAsync` -/
def enqueue (s : Service) (entryId : Nat) (message : ExecutionDispatchMessage) : Option Service := do
  let queue ← s.queue.insert? ⟨entryId, message, none⟩
  some { s with queue := queue, sent := message :: s.sent }

/-- The first save of a request. The session's foreign key asks for the agent. -/
def request (s : Service) (callId : Nat) (dto : RequestExecutionDto) (sessionId actionId : Guid) : Option Service := do
  let _ ← s.db.agentIdentities.find? dto.agentId
  let session := plannedSession dto sessionId
  let action := plannedAction dto sessionId actionId
  let sessions ← s.db.executionSessions.insert? session
  let actions ← s.db.executionActions.insert? action
  let requests ← s.requests.insert? ⟨callId, dto, session, action, .inserted⟩
  some { s with
    db := { s.db with executionSessions := sessions, executionActions := actions }
    requests := requests }

def budgetChecked (s : Service) (dto : RequestExecutionDto) (budgetCheck : Option ClockReadings) :
    Option (Tracked AgentIdentity) := do
  let agent ← s.db.agentIdentities.find? dto.agentId
  let clock ← budgetCheck
  some ⟨agent, (agent.canSpend clock dto.estimatedSpendUsd).1⟩

def evaluate (s : Service) (callId : Nat) (verdict : PolicyEvaluationResult) (budgetCheck : Option ClockReadings) :
    Option Service := do
  let call ← s.requests.find? callId
  match call.phase with
  | .inserted =>
    some (s.updateRequest { call with phase := .evaluated verdict (s.budgetChecked call.dto budgetCheck) })
  | _ => none

def enqueueRequest (s : Service) (callId entryId : Nat) : Option Service := do
  let call ← s.requests.find? callId
  match call.phase with
  | .evaluated verdict agent =>
    if verdict.actionRequired = .allow then
      (s.updateRequest { call with phase := .enqueued entryId agent }).enqueue entryId call.message
    else none
  | _ => none

def saveRequest (s : Service) (callId : Nat) (now : UtcDate) (workflowId : Guid) (expiresAtUtc : Nat) :
    Option Service := do
  let call ← s.requests.find? callId
  match call.phase with
  | .inserted => none
  | .evaluated verdict agent =>
    match verdict.actionRequired with
    | .allow => none
    | .requireHumanApproval | .requireMultiSig =>
      let db ← s.db.saveAwaiting call agent workflowId expiresAtUtc
      some { s.endRequest callId with db := db }
    | .deny => some { s.endRequest callId with db := s.db.saveDenied call verdict agent now }
  | .enqueued _ agent =>
    some { s.endRequest callId with db := s.db.saveAllowed call agent, committed := call.action.id :: s.committed }

def openDecision (s : Service) (callId : Nat) (dto : SubmitApprovalDecisionDto) (workflowId : Guid) : Option Service := do
  let workflow ← s.db.approvalWorkflows.find? workflowId
  let decisions ← s.decisions.insert? ⟨callId, dto, .opened workflow⟩
  some { s with decisions := decisions }

def decide (s : Service) (callId : Nat) (now : Nat) : Option Service := do
  let call ← s.decisions.find? callId
  match call.phase with
  | .opened workflow =>
    match submitDecision call.dto workflow (s.db.executionSessions.find? workflow.sessionId)
        (s.db.executionActions.find? workflow.actionId) now with
    | some phase => some (s.updateDecision { call with phase := phase })
    | none => some (s.endDecision callId)
  | _ => none

def enqueueDecision (s : Service) (callId entryId : Nat) : Option Service := do
  let call ← s.decisions.find? callId
  match call.phase with
  | .approved work =>
    (s.updateDecision { call with phase := .saving work (some entryId) }).enqueue entryId work.message
  | _ => none

/-- The actions whose dispatch a decision commits: those it sets to `Executing` -/
def DecisionWork.dispatched (work : DecisionWork) : List Guid :=
  match work.action with
  | none => []
  | some action => if action.current.status = .executing then [action.original.id] else []

def saveDecision (s : Service) (callId : Nat) : Option Service := do
  let call ← s.decisions.find? callId
  match call.phase with
  | .saving work _ =>
    some { s.endDecision callId with db := s.db.saveDecision work, committed := DecisionWork.dispatched work ++ s.committed }
  | _ => none

def redeliver (s : Service) (entryId : Nat) (message : ExecutionDispatchMessage) : Option Service := do
  if message ∈ s.sent then
    let queue ← s.queue.insert? ⟨entryId, message, none⟩
    some { s with queue := queue }
  else none

def receive (s : Service) (workerId entryId : Nat) : Option Service := do
  let entry ← s.queue.find? entryId
  if entry.receipt = none then
    let workers ← s.workers.insert? ⟨workerId, .received entryId⟩
    some { s with queue := s.queue.put { entry with receipt := some workerId }, workers := workers }
  else none

def reappear (s : Service) (entryId : Nat) : Option Service := do
  let entry ← s.queue.find? entryId
  some { s with queue := s.queue.put { entry with receipt := none } }

/-- `DeleteMessageAsync` throws where the receipt is no longer good. -/
def delete (s : Service) (workerId : Nat) : Option Service := do
  let worker ← s.workers.find? workerId
  match worker.phase with
  | .received entryId =>
    match s.queue.find? entryId with
    | none => some (s.endWorker workerId)
    | some entry =>
      if entry.receipt = some workerId then
        some { s.updateWorker { worker with phase := .reconciling entry.message .started } with
          queue := s.queue.remove entryId }
      else some (s.endWorker workerId)
  | _ => none

def loadSession (s : Service) (workerId : Nat) : Option Service := do
  let worker ← s.workers.find? workerId
  match worker.phase with
  | .reconciling message .started =>
    match Execution.loadSession s.db message with
    | .error _ => some (s.endWorker workerId)
    | .ok loaded => some (s.updateWorker { worker with phase := .reconciling message (.sessionLoaded loaded) })
  | _ => none

def loadAgent (s : Service) (workerId : Nat) : Option Service := do
  let worker ← s.workers.find? workerId
  match worker.phase with
  | .reconciling message (.sessionLoaded loaded) =>
    match Execution.loadAgent s.db loaded with
    | .error _ => some (s.endWorker workerId)
    | .ok agent => some (s.updateWorker { worker with phase := .reconciling message (.agentLoaded loaded agent) })
  | _ => none

def settle (s : Service) (workerId : Nat) (clock : ReconcileClock) : Option Service := do
  let worker ← s.workers.find? workerId
  match worker.phase with
  | .reconciling message (.agentLoaded loaded agent) =>
    some (s.updateWorker { worker with phase := .reconciling message (.settling loaded agent clock) })
  | _ => none

def chargeOf (work : UnitOfWork) : Charge :=
  ⟨work.action.original.id, work.agent.original.id, work.action.original.estimatedSpendUsd,
    work.agent.current.budgetResetDateUtc⟩

def save (s : Service) (workerId : Nat) : Option Service := do
  let worker ← s.workers.find? workerId
  match worker.phase with
  | .reconciling _ (.settling loaded agent clock) =>
    let work := Execution.settle loaded agent clock
    some { s.endWorker workerId with
      db := s.db.saveChanges work
      charges := if work.outcome = .settled then s.charges.upsert (chargeOf work) else s.charges }
  | _ => none

def step (s : Service) : ServiceLabel → Option Service
  | .request callId dto sessionId actionId => s.request callId dto sessionId actionId
  | .evaluate callId verdict budgetCheck => s.evaluate callId verdict budgetCheck
  | .enqueueRequest callId entryId => s.enqueueRequest callId entryId
  | .saveRequest callId now workflowId expiresAtUtc => s.saveRequest callId now workflowId expiresAtUtc
  | .abandonRequest callId => some (s.endRequest callId)
  | .openDecision callId dto workflowId => s.openDecision callId dto workflowId
  | .decide callId now => s.decide callId now
  | .enqueueDecision callId entryId => s.enqueueDecision callId entryId
  | .saveDecision callId => s.saveDecision callId
  | .abandonDecision callId => some (s.endDecision callId)
  | .redeliver entryId message => s.redeliver entryId message
  | .receive workerId entryId => s.receive workerId entryId
  | .reappear entryId => s.reappear entryId
  | .delete workerId => s.delete workerId
  | .loadSession workerId => s.loadSession workerId
  | .loadAgent workerId => s.loadAgent workerId
  | .settle workerId clock => s.settle workerId clock
  | .save workerId => s.save workerId
  | .stop workerId => some (s.endWorker workerId)

section Inversion

variable {s s' : Service}

theorem request_some {callId : Nat} {dto : RequestExecutionDto} {sessionId actionId : Guid}
    (taken : s.request callId dto sessionId actionId = some s') :
    ∃ agent sessions actions requests, s.db.agentIdentities.find? dto.agentId = some agent ∧
      s.db.executionSessions.insert? (plannedSession dto sessionId) = some sessions ∧
      s.db.executionActions.insert? (plannedAction dto sessionId actionId) = some actions ∧
      s.requests.insert? ⟨callId, dto, plannedSession dto sessionId, plannedAction dto sessionId actionId, .inserted⟩ =
        some requests ∧
      s' = { s with
        db := { s.db with executionSessions := sessions, executionActions := actions }
        requests := requests } := by
  simp only [request, Option.bind_eq_bind, Option.bind_eq_some_iff, Option.some.injEq] at taken
  obtain ⟨agent, found, sessions, planned, actions, planned', requests, opened, rfl⟩ := taken
  exact ⟨agent, sessions, actions, requests, found, planned, planned', opened, rfl⟩

theorem evaluate_some {callId : Nat} {verdict : PolicyEvaluationResult} {budgetCheck : Option ClockReadings}
    (taken : s.evaluate callId verdict budgetCheck = some s') :
    ∃ call, s.requests.find? callId = some call ∧ call.phase = .inserted ∧
      s' = s.updateRequest { call with phase := .evaluated verdict (s.budgetChecked call.dto budgetCheck) } := by
  simp only [evaluate, Option.bind_eq_bind, Option.bind_eq_some_iff] at taken
  obtain ⟨call, found, taken⟩ := taken
  split at taken
  · rename_i phase
    exact ⟨call, found, phase, (Option.some.inj taken).symm⟩
  · cases taken

theorem enqueue_some {entryId : Nat} {message : ExecutionDispatchMessage} (taken : s.enqueue entryId message = some s') :
    ∃ queue, s.queue.insert? ⟨entryId, message, none⟩ = some queue ∧
      s' = { s with queue := queue, sent := message :: s.sent } := by
  simp only [enqueue, Option.bind_eq_bind, Option.bind_eq_some_iff, Option.some.injEq] at taken
  obtain ⟨queue, inserted, rfl⟩ := taken
  exact ⟨queue, inserted, rfl⟩

theorem enqueueRequest_some {callId entryId : Nat} (taken : s.enqueueRequest callId entryId = some s') :
    ∃ call verdict agent, s.requests.find? callId = some call ∧ call.phase = .evaluated verdict agent ∧
      (s.updateRequest { call with phase := .enqueued entryId agent }).enqueue entryId call.message = some s' := by
  simp only [enqueueRequest, Option.bind_eq_bind, Option.bind_eq_some_iff] at taken
  obtain ⟨call, found, taken⟩ := taken
  split at taken
  · rename_i verdict agent phase
    split at taken
    · exact ⟨call, verdict, agent, found, phase, taken⟩
    · cases taken
  · cases taken

theorem saveRequest_some {callId : Nat} {now : UtcDate} {workflowId : Guid} {expiresAtUtc : Nat}
    (taken : s.saveRequest callId now workflowId expiresAtUtc = some s') :
    ∃ call, s.requests.find? callId = some call ∧
      ((∃ verdict agent db, call.phase = .evaluated verdict agent ∧
          s.db.saveAwaiting call agent workflowId expiresAtUtc = some db ∧ s' = { s.endRequest callId with db := db }) ∨
        (∃ verdict agent, call.phase = .evaluated verdict agent ∧
          s' = { s.endRequest callId with db := s.db.saveDenied call verdict agent now }) ∨
        ∃ entryId agent, call.phase = .enqueued entryId agent ∧
          s' = { s.endRequest callId with
            db := s.db.saveAllowed call agent, committed := call.action.id :: s.committed }) := by
  simp only [saveRequest, Option.bind_eq_bind, Option.bind_eq_some_iff] at taken
  obtain ⟨call, found, taken⟩ := taken
  refine ⟨call, found, ?_⟩
  split at taken
  · cases taken
  · rename_i verdict agent phase
    split at taken
    · cases taken
    · obtain ⟨db, saved, same⟩ := Option.bind_eq_some_iff.mp taken
      exact .inl ⟨verdict, agent, db, phase, saved, (Option.some.inj same).symm⟩
    · obtain ⟨db, saved, same⟩ := Option.bind_eq_some_iff.mp taken
      exact .inl ⟨verdict, agent, db, phase, saved, (Option.some.inj same).symm⟩
    · exact .inr (.inl ⟨verdict, agent, phase, (Option.some.inj taken).symm⟩)
  · rename_i entryId agent phase
    exact .inr (.inr ⟨entryId, agent, phase, (Option.some.inj taken).symm⟩)

theorem openDecision_some {callId : Nat} {dto : SubmitApprovalDecisionDto} {workflowId : Guid}
    (taken : s.openDecision callId dto workflowId = some s') :
    ∃ workflow decisions, s.db.approvalWorkflows.find? workflowId = some workflow ∧
      s.decisions.insert? ⟨callId, dto, .opened workflow⟩ = some decisions ∧ s' = { s with decisions := decisions } := by
  simp only [openDecision, Option.bind_eq_bind, Option.bind_eq_some_iff, Option.some.injEq] at taken
  obtain ⟨workflow, found, decisions, inserted, rfl⟩ := taken
  exact ⟨workflow, decisions, found, inserted, rfl⟩

theorem decide_some {callId now : Nat} (taken : s.decide callId now = some s') :
    s' = s.endDecision callId ∨ ∃ call workflow phase, s.decisions.find? callId = some call ∧
      call.phase = .opened workflow ∧
      submitDecision call.dto workflow (s.db.executionSessions.find? workflow.sessionId)
        (s.db.executionActions.find? workflow.actionId) now = some phase ∧
      s' = s.updateDecision { call with phase := phase } := by
  simp only [decide, Option.bind_eq_bind, Option.bind_eq_some_iff] at taken
  obtain ⟨call, found, taken⟩ := taken
  split at taken
  · rename_i workflow opened
    split at taken
    · rename_i phase decided
      exact .inr ⟨call, workflow, phase, found, opened, decided, (Option.some.inj taken).symm⟩
    · exact .inl (Option.some.inj taken).symm
  · cases taken

theorem enqueueDecision_some {callId entryId : Nat} (taken : s.enqueueDecision callId entryId = some s') :
    ∃ call work, s.decisions.find? callId = some call ∧ call.phase = .approved work ∧
      (s.updateDecision { call with phase := .saving work (some entryId) }).enqueue entryId work.message = some s' := by
  simp only [enqueueDecision, Option.bind_eq_bind, Option.bind_eq_some_iff] at taken
  obtain ⟨call, found, taken⟩ := taken
  split at taken
  · rename_i work phase
    exact ⟨call, work, found, phase, taken⟩
  · cases taken

theorem saveDecision_some {callId : Nat} (taken : s.saveDecision callId = some s') :
    ∃ call work sent, s.decisions.find? callId = some call ∧ call.phase = .saving work sent ∧
      s' = { s.endDecision callId with
        db := s.db.saveDecision work, committed := DecisionWork.dispatched work ++ s.committed } := by
  simp only [saveDecision, Option.bind_eq_bind, Option.bind_eq_some_iff] at taken
  obtain ⟨call, found, taken⟩ := taken
  split at taken
  · rename_i work sent phase
    exact ⟨call, work, sent, found, phase, (Option.some.inj taken).symm⟩
  · cases taken

theorem redeliver_some {entryId : Nat} {message : ExecutionDispatchMessage} (taken : s.redeliver entryId message = some s') :
    ∃ queue, message ∈ s.sent ∧ s.queue.insert? ⟨entryId, message, none⟩ = some queue ∧
      s' = { s with queue := queue } := by
  unfold redeliver at taken
  split at taken
  · rename_i member
    obtain ⟨queue, inserted, same⟩ := Option.bind_eq_some_iff.mp taken
    exact ⟨queue, member, inserted, (Option.some.inj same).symm⟩
  · cases taken

theorem receive_some {workerId entryId : Nat} (taken : s.receive workerId entryId = some s') :
    ∃ entry workers, s.queue.find? entryId = some entry ∧ entry.receipt = none ∧
      s.workers.insert? ⟨workerId, .received entryId⟩ = some workers ∧
      s' = { s with queue := s.queue.put { entry with receipt := some workerId }, workers := workers } := by
  simp only [receive, Option.bind_eq_bind, Option.bind_eq_some_iff] at taken
  obtain ⟨entry, found, taken⟩ := taken
  split at taken
  · rename_i visible
    obtain ⟨workers, inserted, same⟩ := Option.bind_eq_some_iff.mp taken
    exact ⟨entry, workers, found, visible, inserted, (Option.some.inj same).symm⟩
  · cases taken

theorem reappear_some {entryId : Nat} (taken : s.reappear entryId = some s') :
    ∃ entry, s.queue.find? entryId = some entry ∧ s' = { s with queue := s.queue.put { entry with receipt := none } } := by
  simp only [reappear, Option.bind_eq_bind, Option.bind_eq_some_iff, Option.some.injEq] at taken
  obtain ⟨entry, found, rfl⟩ := taken
  exact ⟨entry, found, rfl⟩

theorem delete_some {workerId : Nat} (taken : s.delete workerId = some s') :
    ∃ worker entryId, s.workers.find? workerId = some worker ∧ worker.phase = .received entryId ∧
      (s' = s.endWorker workerId ∨ ∃ entry, s.queue.find? entryId = some entry ∧ entry.receipt = some workerId ∧
        s' = { s.updateWorker { worker with phase := .reconciling entry.message .started } with
          queue := s.queue.remove entryId }) := by
  simp only [delete, Option.bind_eq_bind, Option.bind_eq_some_iff] at taken
  obtain ⟨worker, found, taken⟩ := taken
  split at taken
  · rename_i entryId phase
    refine ⟨worker, entryId, found, phase, ?_⟩
    split at taken
    · exact .inl (Option.some.inj taken).symm
    · rename_i entry located
      split at taken
      · rename_i good
        exact .inr ⟨entry, located, good, (Option.some.inj taken).symm⟩
      · exact .inl (Option.some.inj taken).symm
  · cases taken

theorem loadSession_some {workerId : Nat} (taken : s.loadSession workerId = some s') :
    ∃ worker message, s.workers.find? workerId = some worker ∧ worker.phase = .reconciling message .started ∧
      ((∃ outcome, Execution.loadSession s.db message = .error outcome ∧ s' = s.endWorker workerId) ∨
        ∃ loaded, Execution.loadSession s.db message = .ok loaded ∧
          s' = s.updateWorker { worker with phase := .reconciling message (.sessionLoaded loaded) }) := by
  simp only [loadSession, Option.bind_eq_bind, Option.bind_eq_some_iff] at taken
  obtain ⟨worker, found, taken⟩ := taken
  split at taken
  · rename_i message phase
    refine ⟨worker, message, found, phase, ?_⟩
    split at taken
    · rename_i outcome load
      exact .inl ⟨outcome, load, (Option.some.inj taken).symm⟩
    · rename_i loaded load
      exact .inr ⟨loaded, load, (Option.some.inj taken).symm⟩
  · cases taken

theorem loadAgent_some {workerId : Nat} (taken : s.loadAgent workerId = some s') :
    ∃ worker message loaded, s.workers.find? workerId = some worker ∧
      worker.phase = .reconciling message (.sessionLoaded loaded) ∧
      ((∃ outcome, Execution.loadAgent s.db loaded = .error outcome ∧ s' = s.endWorker workerId) ∨
        ∃ agent, Execution.loadAgent s.db loaded = .ok agent ∧
          s' = s.updateWorker { worker with phase := .reconciling message (.agentLoaded loaded agent) }) := by
  simp only [loadAgent, Option.bind_eq_bind, Option.bind_eq_some_iff] at taken
  obtain ⟨worker, found, taken⟩ := taken
  split at taken
  · rename_i message loaded phase
    refine ⟨worker, message, loaded, found, phase, ?_⟩
    split at taken
    · rename_i outcome load
      exact .inl ⟨outcome, load, (Option.some.inj taken).symm⟩
    · rename_i agent load
      exact .inr ⟨agent, load, (Option.some.inj taken).symm⟩
  · cases taken

theorem settle_some {workerId : Nat} {clock : ReconcileClock} (taken : s.settle workerId clock = some s') :
    ∃ worker message loaded agent, s.workers.find? workerId = some worker ∧
      worker.phase = .reconciling message (.agentLoaded loaded agent) ∧
      s' = s.updateWorker { worker with phase := .reconciling message (.settling loaded agent clock) } := by
  simp only [settle, Option.bind_eq_bind, Option.bind_eq_some_iff] at taken
  obtain ⟨worker, found, taken⟩ := taken
  split at taken
  · rename_i message loaded agent phase
    exact ⟨worker, message, loaded, agent, found, phase, (Option.some.inj taken).symm⟩
  · cases taken

theorem save_some {workerId : Nat} (taken : s.save workerId = some s') :
    ∃ worker message loaded agent clock, s.workers.find? workerId = some worker ∧
      worker.phase = .reconciling message (.settling loaded agent clock) ∧
      s' = { s.endWorker workerId with
        db := s.db.saveChanges (Execution.settle loaded agent clock)
        charges := if (Execution.settle loaded agent clock).outcome = .settled then
          s.charges.upsert (chargeOf (Execution.settle loaded agent clock)) else s.charges } := by
  simp only [save, Option.bind_eq_bind, Option.bind_eq_some_iff] at taken
  obtain ⟨worker, found, taken⟩ := taken
  split at taken
  · rename_i message loaded agent clock phase
    exact ⟨worker, message, loaded, agent, clock, found, phase, (Option.some.inj taken).symm⟩
  · cases taken

end Inversion

end Service

end AgentOps.Execution
