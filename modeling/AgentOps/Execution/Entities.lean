import AgentOps.Lib.Table

namespace AgentOps.Execution
open Lib

/-! # The entities of the .NET service, and the methods that change them

Amounts of money are whole ten-thousandths of a dollar, as the columns hold them. -/

abbrev Guid := Nat

/-- `DateTime.UtcNow.Date`, as a count of days -/
abbrev UtcDate := Nat

inductive AgentStatus where
  | pendingRegistration
  | active
  | suspended
  | decommissioned
  | revoked
  deriving DecidableEq

inductive ExecutionStatus where
  | queued
  | evaluatingPolicy
  | awaitingApproval
  | executing
  | completed
  | failed
  | blockedByPolicy
  deriving DecidableEq

def ExecutionStatus.ended (status : ExecutionStatus) : Bool :=
  status = .completed || status = .blockedByPolicy || status = .failed

structure AgentIdentity where
  id : Guid
  organizationId : String
  status : AgentStatus
  dailyBudgetCapUsd : Int
  spentTodayUsd : Int
  budgetResetDateUtc : UtcDate
  budgeted : 0 ≤ dailyBudgetCapUsd
  deriving DecidableEq

/-- The clock is read once to compare with the date of the last reset, and once more for the new date. -/
structure ClockReadings where
  compared : UtcDate
  assigned : UtcDate
  ordered : compared ≤ assigned
  deriving DecidableEq

namespace AgentIdentity

def resetDailyBudgetIfExpired (agent : AgentIdentity) (clock : ClockReadings) : AgentIdentity :=
  if clock.compared > agent.budgetResetDateUtc then
    { agent with spentTodayUsd := 0, budgetResetDateUtc := clock.assigned }
  else agent

/-- The check resets an expired budget, whatever its answer. -/
def canSpend (agent : AgentIdentity) (clock : ClockReadings) (amountUsd : Int) : AgentIdentity × Bool :=
  let agent := agent.resetDailyBudgetIfExpired clock
  (agent, decide (agent.spentTodayUsd + amountUsd ≤ agent.dailyBudgetCapUsd) && decide (agent.status = .active))

def recordSpend (agent : AgentIdentity) (clock : ClockReadings) (amountUsd : Int) : AgentIdentity :=
  let agent := agent.resetDailyBudgetIfExpired clock
  { agent with spentTodayUsd := agent.spentTodayUsd + amountUsd }

@[simp] theorem resetDailyBudgetIfExpired_id (agent : AgentIdentity) (clock : ClockReadings) :
    (agent.resetDailyBudgetIfExpired clock).id = agent.id := by
  unfold resetDailyBudgetIfExpired
  split <;> rfl

@[simp] theorem resetDailyBudgetIfExpired_cap (agent : AgentIdentity) (clock : ClockReadings) :
    (agent.resetDailyBudgetIfExpired clock).dailyBudgetCapUsd = agent.dailyBudgetCapUsd := by
  unfold resetDailyBudgetIfExpired
  split <;> rfl

@[simp] theorem canSpend_id (agent : AgentIdentity) (clock : ClockReadings) (amountUsd : Int) :
    (agent.canSpend clock amountUsd).1.id = agent.id := by simp [canSpend]

@[simp] theorem canSpend_cap (agent : AgentIdentity) (clock : ClockReadings) (amountUsd : Int) :
    (agent.canSpend clock amountUsd).1.dailyBudgetCapUsd = agent.dailyBudgetCapUsd := by simp [canSpend]

@[simp] theorem recordSpend_id (agent : AgentIdentity) (clock : ClockReadings) (amountUsd : Int) :
    (agent.recordSpend clock amountUsd).id = agent.id := by simp [recordSpend]

@[simp] theorem recordSpend_cap (agent : AgentIdentity) (clock : ClockReadings) (amountUsd : Int) :
    (agent.recordSpend clock amountUsd).dailyBudgetCapUsd = agent.dailyBudgetCapUsd := by simp [recordSpend]

theorem reset_cases (agent : AgentIdentity) (clock : ClockReadings) :
    agent.resetDailyBudgetIfExpired clock = agent ∨
      (agent.budgetResetDateUtc < (agent.resetDailyBudgetIfExpired clock).budgetResetDateUtc ∧
        (agent.resetDailyBudgetIfExpired clock).spentTodayUsd = 0) := by
  unfold resetDailyBudgetIfExpired
  split
  · rename_i expired
    exact .inr ⟨lt_of_lt_of_le expired clock.ordered, rfl⟩
  · exact .inl rfl

end AgentIdentity

structure ExecutionSession where
  id : Guid
  agentId : Guid
  status : ExecutionStatus
  totalExecutedSpendUsd : Int
  deriving DecidableEq

namespace ExecutionSession

def complete (session : ExecutionSession) (finalSpendUsd : Int) : ExecutionSession :=
  { session with status := .completed, totalExecutedSpendUsd := finalSpendUsd }

def fail (session : ExecutionSession) : ExecutionSession := { session with status := .failed }

def markAwaitingApproval (session : ExecutionSession) : ExecutionSession := { session with status := .awaitingApproval }

def markExecuting (session : ExecutionSession) : ExecutionSession := { session with status := .executing }

end ExecutionSession

structure ExecutionAction where
  id : Guid
  sessionId : Guid
  toolName : String
  estimatedSpendUsd : Int
  status : ExecutionStatus
  errorMessage : Option String
  deriving DecidableEq

def ExecutionAction.setStatus (action : ExecutionAction) (status : ExecutionStatus) (error : Option String) :
    ExecutionAction :=
  { action with status := status, errorMessage := error }

@[simp] theorem ExecutionAction.setStatus_id (action : ExecutionAction) (status : ExecutionStatus) (error : Option String) :
    (action.setStatus status error).id = action.id := rfl

structure AuditEvent where
  eventType : String
  agentId : Guid
  organizationId : String
  sessionId : Option Guid
  actionName : String
  decisionPolicy : String
  capitalTransactedUsd : Int
  createdAtUtc : UtcDate
  deriving DecidableEq

inductive ApprovalState where
  | pending
  | approved
  | rejected
  | expired
  deriving DecidableEq

structure ApprovalWorkflow where
  id : Guid
  sessionId : Guid
  actionId : Guid
  requestedAmountUsd : Int
  state : ApprovalState
  approvedByUserId : Option String
  expiresAtUtc : Nat
  decisionReason : Option String
  deriving DecidableEq

namespace ApprovalWorkflow

/-- The workflow as `Approve` leaves it, and the message of the exception if it throws -/
def approve (workflow : ApprovalWorkflow) (userId reason : String) (now : Nat) : ApprovalWorkflow × Option String :=
  if workflow.state ≠ .pending then (workflow, some "Workflow is not in a pending state.")
  else if now > workflow.expiresAtUtc then
    ({ workflow with state := .expired }, some "Approval window has expired.")
  else ({ workflow with state := .approved, approvedByUserId := some userId, decisionReason := some reason }, none)

/-- Unlike an approval, a rejection is taken after the window too. -/
def reject (workflow : ApprovalWorkflow) (userId reason : String) : ApprovalWorkflow × Option String :=
  if workflow.state ≠ .pending then (workflow, some "Workflow is not in a pending state.")
  else ({ workflow with state := .rejected, approvedByUserId := some userId, decisionReason := some reason }, none)

end ApprovalWorkflow

structure ExecutionDb where
  agentIdentities : Table AgentIdentity.id
  executionSessions : Table ExecutionSession.id
  executionActions : Table ExecutionAction.id
  approvalWorkflows : Table ApprovalWorkflow.id
  auditEvents : List AuditEvent

/-- `session.Actions`, as `Include` loads it -/
def ExecutionDb.actionsOf (db : ExecutionDb) (sessionId : Guid) : List ExecutionAction :=
  db.executionActions.rows.filter fun action => action.sessionId = sessionId

structure Tracked (α : Type) where
  original : α
  current : α
  deriving DecidableEq

/-- Only the columns that changed since the load are written: the others keep what is stored. -/
def Tracked.column {α β : Type} [DecidableEq β] (entity : Tracked α) (get : α → β) (stored : β) : β :=
  if get entity.current = get entity.original then stored else get entity.current

@[simp] theorem Tracked.column_original {α β : Type} [DecidableEq β] (entity : Tracked α) (get : α → β) :
    entity.column get (get entity.original) = get entity.current := by
  unfold Tracked.column
  split
  · rename_i same
    exact same.symm
  · rfl

def AgentIdentity.written (entity : Tracked AgentIdentity) (stored : AgentIdentity) : AgentIdentity :=
  { stored with
    spentTodayUsd := entity.column (·.spentTodayUsd) stored.spentTodayUsd
    budgetResetDateUtc := entity.column (·.budgetResetDateUtc) stored.budgetResetDateUtc }

def ExecutionSession.written (entity : Tracked ExecutionSession) (stored : ExecutionSession) : ExecutionSession :=
  { stored with
    status := entity.column (·.status) stored.status
    totalExecutedSpendUsd := entity.column (·.totalExecutedSpendUsd) stored.totalExecutedSpendUsd }

def ApprovalWorkflow.written (entity : Tracked ApprovalWorkflow) (stored : ApprovalWorkflow) : ApprovalWorkflow :=
  { stored with
    state := entity.column (·.state) stored.state
    approvedByUserId := entity.column (·.approvedByUserId) stored.approvedByUserId
    decisionReason := entity.column (·.decisionReason) stored.decisionReason }

def ExecutionAction.written (entity : Tracked ExecutionAction) (stored : ExecutionAction) : ExecutionAction :=
  { stored with
    status := entity.column (·.status) stored.status
    errorMessage := entity.column (·.errorMessage) stored.errorMessage }

@[simp] theorem AgentIdentity.written_id (entity : Tracked AgentIdentity) (stored : AgentIdentity) :
    (AgentIdentity.written entity stored).id = stored.id := rfl

@[simp] theorem ExecutionSession.written_id (entity : Tracked ExecutionSession) (stored : ExecutionSession) :
    (ExecutionSession.written entity stored).id = stored.id := rfl

@[simp] theorem ApprovalWorkflow.written_id (entity : Tracked ApprovalWorkflow) (stored : ApprovalWorkflow) :
    (ApprovalWorkflow.written entity stored).id = stored.id := rfl

@[simp] theorem ExecutionAction.written_id (entity : Tracked ExecutionAction) (stored : ExecutionAction) :
    (ExecutionAction.written entity stored).id = stored.id := rfl

def acme : AgentIdentity := ⟨1, "acme", .active, 100, 0, 0, by decide⟩

end AgentOps.Execution
