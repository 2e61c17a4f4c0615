import AgentOps.Execution.Dispatch
import AgentOps.Execution.Settlement

namespace AgentOps.Execution
open Lib

/-! # One decision after the other -/

inductive CallEnd where
  | completed
  | unsent
  | unsaved
  deriving DecidableEq

structure DecisionRequest where
  workflowId : Guid
  dto : SubmitApprovalDecisionDto
  now : Nat
  ends : CallEnd
  deriving DecidableEq

structure Desk where
  db : ExecutionDb
  sent : List ExecutionDispatchMessage

namespace ApprovalWorkflow

def decided (workflow : ApprovalWorkflow) (dto : SubmitApprovalDecisionDto) (now : Nat) : ApprovalWorkflow × Option String :=
  if dto.approved then workflow.approve dto.decidedByUserId dto.reason now
  else workflow.reject dto.decidedByUserId dto.reason

end ApprovalWorkflow

def Desk.save (desk : Desk) (work : DecisionWork) (ends : CallEnd) : Desk :=
  if ends = .completed then { desk with db := desk.db.saveDecision work } else desk

def Desk.send (desk : Desk) (work : DecisionWork) (ends : CallEnd) : Desk :=
  if ends = .unsent then desk else { desk with sent := work.message :: desk.sent }

def submitDecisionAsync (desk : Desk) (request : DecisionRequest) : Desk × Except String Unit :=
  match desk.db.approvalWorkflows.find? request.workflowId with
  | none => (desk, .error "Workflow not found.")
  | some workflow =>
    let answer := match (workflow.decided request.dto request.now).2 with
      | none => .ok ()
      | some message => .error message
    match submitDecision request.dto workflow (desk.db.executionSessions.find? workflow.sessionId)
        (desk.db.executionActions.find? workflow.actionId) request.now with
    | some (.approved work) => ((desk.send work request.ends).save work request.ends, answer)
    | some (.saving work _) => (desk.save work request.ends, answer)
    | some (.opened _) | none => (desk, answer)

def Desk.step (desk : Desk) (request : DecisionRequest) : Option Desk := some (submitDecisionAsync desk request).1

variable {desk desk' : Desk} {request : DecisionRequest} {workflow : ApprovalWorkflow} {workflowId : Guid}

def Desk.workOf (desk : Desk) (workflow decided : ApprovalWorkflow) (mark : ExecutionSession → ExecutionSession)
    (status : ExecutionStatus) (error : Option String) : DecisionWork :=
  decisionWork workflow decided (desk.db.executionSessions.find? workflow.sessionId)
    (desk.db.executionActions.find? workflow.actionId) mark status error

inductive Desk.Decides (desk : Desk) (request : DecisionRequest) (workflow : ApprovalWorkflow) : Desk → Prop where
  | refused (pending : workflow.state ≠ .pending) (expired : workflow.state ≠ .expired) : desk.Decides request workflow desk
  | approved (work : DecisionWork) (pending : workflow.state = .pending) (approved : request.dto.approved = true)
      (inTime : request.now ≤ workflow.expiresAtUtc)
      (does : work = desk.workOf workflow { workflow with
        state := .approved, approvedByUserId := some request.dto.decidedByUserId
        decisionReason := some request.dto.reason } (·.markExecuting) .executing none) :
      desk.Decides request workflow ((desk.send work request.ends).save work request.ends)
  | rejected (pending : workflow.state = .pending) (rejected : request.dto.approved = false) :
      desk.Decides request workflow (desk.save (desk.workOf workflow { workflow with
        state := .rejected, approvedByUserId := some request.dto.decidedByUserId
        decisionReason := some request.dto.reason } (·.fail) .blockedByPolicy
        (some ("Human rejection: " ++ request.dto.reason))) request.ends)
  /-- Any decision on a workflow that has expired already fails its session once more. -/
  | expired (expires : workflow.state = .expired ∨ workflow.state = .pending ∧ request.dto.approved = true ∧
        workflow.expiresAtUtc < request.now) :
      desk.Decides request workflow (desk.save (desk.workOf workflow { workflow with state := .expired } (·.fail)
        .blockedByPolicy (some "Approval window expired.")) request.ends)

theorem submitDecisionAsync_missing (missing : desk.db.approvalWorkflows.find? request.workflowId = none) :
    (submitDecisionAsync desk request).1 = desk := by
  unfold submitDecisionAsync
  rw [missing]

theorem submitDecisionAsync_found (found : desk.db.approvalWorkflows.find? request.workflowId = some workflow) :
    desk.Decides request workflow (submitDecisionAsync desk request).1 := by
  have again (expired : workflow.state = .expired) : { workflow with state := .expired } = workflow := by
    rw [← expired]
  unfold submitDecisionAsync
  rw [found]
  by_cases pending : workflow.state = .pending
  · cases approved : request.dto.approved with
    | false => simpa [submitDecision, ApprovalWorkflow.reject, pending, approved] using .rejected pending approved
    | true =>
      rcases Nat.lt_or_ge workflow.expiresAtUtc request.now with late | inTime
      · simpa [submitDecision, ApprovalWorkflow.approve, pending, approved, late] using
          .expired (.inr ⟨pending, approved, late⟩)
      · simpa [submitDecision, ApprovalWorkflow.approve, pending, approved, Nat.not_lt.mpr inTime] using
          .approved _ pending approved inTime rfl
  · by_cases expired : workflow.state = .expired
    · have decides : desk.Decides request workflow _ := .expired (.inl expired)
      rw [again expired] at decides
      cases approved : request.dto.approved <;>
        simpa [submitDecision, ApprovalWorkflow.approve, ApprovalWorkflow.reject, expired, approved, Desk.workOf] using decides
    · cases approved : request.dto.approved <;>
        simpa [submitDecision, ApprovalWorkflow.approve, ApprovalWorkflow.reject, pending, expired, approved] using
          .refused pending expired

theorem ApprovalWorkflow.written_original (workflow : ApprovalWorkflow) (state : ApprovalState) (user reason : Option String) :
    ApprovalWorkflow.written ⟨workflow, { workflow with
        state := state, approvedByUserId := user, decisionReason := reason }⟩ workflow =
      { workflow with state := state, approvedByUserId := user, decisionReason := reason } := by
  simp only [written]
  congr 1
  · exact Tracked.column_original ⟨workflow, { workflow with
      state := state, approvedByUserId := user, decisionReason := reason }⟩ (·.state)
  · exact Tracked.column_original ⟨workflow, { workflow with
      state := state, approvedByUserId := user, decisionReason := reason }⟩ (·.approvedByUserId)
  · exact Tracked.column_original ⟨workflow, { workflow with
      state := state, approvedByUserId := user, decisionReason := reason }⟩ (·.decisionReason)

theorem ExecutionDb.saveDecision_workflows (db : ExecutionDb) (work : DecisionWork) :
    (db.saveDecision work).approvalWorkflows =
      db.approvalWorkflows.modify work.workflow.original.id (ApprovalWorkflow.written work.workflow) := by
  unfold ExecutionDb.saveDecision
  cases work.session <;> cases work.action <;> rfl

theorem ExecutionDb.saveDecision_session {db : ExecutionDb} {work : DecisionWork} {session : Tracked ExecutionSession}
    (tracked : work.session = some session) : (db.saveDecision work).executionSessions =
      db.executionSessions.modify session.original.id (ExecutionSession.written session) := by
  unfold ExecutionDb.saveDecision
  rw [tracked]
  cases work.action <;> rfl

def Desk.stateOf (desk : Desk) (workflowId : Guid) : Option ApprovalState :=
  (desk.db.approvalWorkflows.find? workflowId).map (·.state)

@[simp] theorem Desk.send_db (desk : Desk) (work : DecisionWork) (ends : CallEnd) : (desk.send work ends).db = desk.db := by
  unfold Desk.send
  split <;> rfl

@[simp] theorem Desk.save_sent (desk : Desk) (work : DecisionWork) (ends : CallEnd) : (desk.save work ends).sent = desk.sent := by
  unfold Desk.save
  split <;> rfl

theorem Desk.stateOf_save (found : desk.db.approvalWorkflows.find? workflow.id = some workflow) (same : desk'.db = desk.db)
    (state : ApprovalState) (user reason : Option String) (mark : ExecutionSession → ExecutionSession)
    (status : ExecutionStatus) (error : Option String) (ends : CallEnd) :
    (desk'.save (desk.workOf workflow { workflow with state := state, approvedByUserId := user, decisionReason := reason }
      mark status error) ends).stateOf workflowId =
    if ends = .completed ∧ workflow.id = workflowId then some state else desk.stateOf workflowId := by
  unfold Desk.save
  by_cases completed : ends = .completed
  · rw [if_pos completed]
    simp only [Desk.stateOf, ExecutionDb.saveDecision_workflows, Desk.workOf, decisionWork, completed, true_and, same]
    rw [Table.find?_modify (ApprovalWorkflow.written_id _)]
    by_cases own : workflow.id = workflowId
    · subst own
      simp [found, ApprovalWorkflow.written_original]
    · simp [own]
  · simp [completed, Desk.stateOf, same]

theorem stateOf_found (found : desk.db.approvalWorkflows.find? workflowId = some workflow) :
    desk.stateOf workflowId = some workflow.state := by rw [Desk.stateOf, found, Option.map_some]

theorem Desk.Decides.stateOf (decides : desk.Decides request workflow desk')
    (found : desk.db.approvalWorkflows.find? workflow.id = some workflow) (workflowId : Guid) :
    desk'.stateOf workflowId = desk.stateOf workflowId ∨ desk'.stateOf workflowId ≠ some .pending := by
  cases decides with
  | refused => exact .inl rfl
  | approved work pending approved inTime does =>
    rw [does, Desk.stateOf_save found (Desk.send_db ..)]
    split <;> simp
  | rejected =>
    rw [Desk.stateOf_save found rfl]
    split <;> simp
  | expired =>
    rw [Desk.stateOf_save found rfl]
    split <;> simp

theorem stateOf_closed (closed : desk.stateOf workflowId ≠ some .pending) (request : DecisionRequest) :
    (submitDecisionAsync desk request).1.stateOf workflowId ≠ some .pending := by
  cases found : desk.db.approvalWorkflows.find? request.workflowId with
  | none =>
    rw [submitDecisionAsync_missing found]
    exact closed
  | some workflow =>
    rcases (submitDecisionAsync_found found).stateOf (Table.find?_of_mem (Table.mem_of_find? found)) workflowId with
      same | decided
    · rw [same]
      exact closed
    · exact decided

theorem Desk.save_failed (desk : Desk) (workflow decided : ApprovalWorkflow) (status : ExecutionStatus)
    (error : Option String) {session : ExecutionSession}
    (stored : (desk.save (desk.workOf workflow decided (·.fail) status error) .completed).db.executionSessions.find?
      workflow.sessionId = some session) : session.status = .failed := by
  rw [Desk.save, if_pos rfl] at stored
  simp only at stored
  cases before : desk.db.executionSessions.find? workflow.sessionId with
  | none =>
    have same : (desk.db.saveDecision (desk.workOf workflow decided (·.fail) status error)).executionSessions =
        desk.db.executionSessions := by
      simp only [ExecutionDb.saveDecision, Desk.workOf, decisionWork, before, Option.map_none, Option.getD_none]
      cases desk.db.executionActions.find? workflow.actionId <;> rfl
    rw [same, before] at stored
    cases stored
  | some original =>
    have tracked : (desk.workOf workflow decided (·.fail) status error).session = some ⟨original, original.fail⟩ := by
      simp [Desk.workOf, decisionWork, before]
    rw [ExecutionDb.saveDecision_session tracked, Table.key_of_find? before,
      Table.find?_modify_self (ExecutionSession.written_id _) before] at stored
    obtain rfl := Option.some.inj stored
    exact congrArg ExecutionSession.status
      (ExecutionSession.written_original original .failed original.totalExecutedSpendUsd)

/-- The call takes the workflow out of `Pending`. -/
def Leaves (workflowId : Guid) (desk : Desk) (request : DecisionRequest) : Prop :=
  desk.stateOf workflowId = some .pending ∧ (submitDecisionAsync desk request).1.stateOf workflowId ≠ some .pending

def Dispatches (workflowId : Guid) (desk : Desk) (request : DecisionRequest) : Prop :=
  request.workflowId = workflowId ∧ (submitDecisionAsync desk request).1.sent ≠ desk.sent

def Approves (workflowId : Guid) (desk : Desk) (request : DecisionRequest) : Prop :=
  request.workflowId = workflowId ∧ request.dto.approved = true ∧ request.ends ≠ .unsent ∧
    ∃ workflow, desk.db.approvalWorkflows.find? workflowId = some workflow ∧ workflow.state = .pending ∧
      request.now ≤ workflow.expiresAtUtc

def DecidesLate (workflowId : Guid) (desk : Desk) (request : DecisionRequest) (workflow : ApprovalWorkflow) : Prop :=
  request.workflowId = workflowId ∧ request.ends = .completed ∧
    desk.db.approvalWorkflows.find? workflowId = some workflow ∧
    (workflow.state = .pending ∨ workflow.state = .expired) ∧ workflow.expiresAtUtc < request.now

def Desk.Expired (desk : Desk) (workflow : ApprovalWorkflow) : Prop :=
  desk.stateOf workflow.id = some .expired ∧
    ∀ session, desk.db.executionSessions.find? workflow.sessionId = some session → session.status = .failed

structure DecidedOnce (workflowId : Guid) (events : List (Desk × DecisionRequest)) : Prop where
  left : events.Pairwise fun e e' => ¬(Leaves workflowId e.1 e.2 ∧ Leaves workflowId e'.1 e'.2)
  dispatched : events.Pairwise fun e e' => ¬(Dispatches workflowId e.1 e.2 ∧ Dispatches workflowId e'.1 e'.2)
  inTime : ∀ e ∈ events, Dispatches workflowId e.1 e.2 → e.2.dto.approved = true ∧
    ∃ workflow, e.1.db.approvalWorkflows.find? workflowId = some workflow ∧ e.2.now ≤ workflow.expiresAtUtc ∧
      (submitDecisionAsync e.1 e.2).1.sent = ⟨workflow.sessionId, workflow.actionId⟩ :: e.1.sent
  late : ∀ e ∈ events, ∀ workflow, DecidesLate workflowId e.1 e.2 workflow →
    (submitDecisionAsync e.1 e.2).1.Expired workflow

/-- No pending workflow is rejected late, and no approval follows one whose message went out and whose save failed. -/
structure Orderly (workflowId : Guid) (events : List (Desk × DecisionRequest)) : Prop where
  rejections : ∀ e ∈ events, ∀ workflow, DecidesLate workflowId e.1 e.2 workflow → workflow.state = .pending →
    e.2.dto.approved = true
  approvals : events.Pairwise fun e e' =>
    ¬(Approves workflowId e.1 e.2 ∧ e.2.ends = .unsaved ∧ Approves workflowId e'.1 e'.2)

theorem leaves_once {desk₀ : Desk} {events : List (Desk × DecisionRequest)} (run : Run Desk.step desk₀ events desk)
    (workflowId : Guid) :
    events.Pairwise fun e e' => ¬(Leaves workflowId e.1 e.2 ∧ Leaves workflowId e'.1 e'.2) := by
  refine run.pairwise _ (fun e desk => Leaves workflowId e.1 e.2 → desk.stateOf workflowId ≠ some .pending) ?_ ?_ ?_
  · intro desk request desk' taken leaves
    obtain rfl := Option.some.inj taken
    exact leaves.2
  · intro e desk request desk' closed taken leaves
    obtain rfl := Option.some.inj taken
    exact stateOf_closed (closed leaves) request
  · intro e desk request closed both
    exact closed both.1 both.2.1

theorem sent_cases (found : desk.db.approvalWorkflows.find? workflowId = some workflow)
    (own : request.workflowId = workflowId) : (submitDecisionAsync desk request).1.sent = desk.sent ∧
      ¬Approves workflowId desk request ∨
    (submitDecisionAsync desk request).1.sent = ⟨workflow.sessionId, workflow.actionId⟩ :: desk.sent ∧
      Approves workflowId desk request := by
  subst own
  have sole (approves : Approves request.workflowId desk request) :
      request.dto.approved = true ∧ workflow.state = .pending ∧ request.now ≤ workflow.expiresAtUtc := by
    obtain ⟨-, approved, -, other, located, pending, inTime⟩ := approves
    rw [found] at located
    obtain rfl := Option.some.inj located
    exact ⟨approved, pending, inTime⟩
  have decides := submitDecisionAsync_found found
  generalize (submitDecisionAsync desk request).1 = desk' at decides
  cases decides with
  | refused pending => exact .inl ⟨rfl, fun approves => pending (sole approves).2.1⟩
  | approved work pending approved inTime does =>
    by_cases unsent : request.ends = .unsent
    · exact .inl ⟨by simp [Desk.send, unsent], fun approves => approves.2.2.1 unsent⟩
    · refine .inr ⟨?_, rfl, approved, unsent, workflow, found, pending, inTime⟩
      simp [Desk.send, unsent, does, Desk.workOf, decisionWork, DecisionWork.message]
  | rejected pending rejected => exact .inl ⟨by simp, fun approves => by simp [(sole approves).1] at rejected⟩
  | expired expires =>
    refine .inl ⟨by simp, fun approves => ?_⟩
    obtain ⟨-, pending, inTime⟩ := sole approves
    rcases expires with expired | ⟨-, -, late⟩
    · rw [pending] at expired
      cases expired
    · omega

theorem dispatches_iff : Dispatches workflowId desk request ↔ Approves workflowId desk request := by
  constructor
  · rintro ⟨own, grown⟩
    cases found : desk.db.approvalWorkflows.find? workflowId with
    | none =>
      rw [submitDecisionAsync_missing (by rw [own]; exact found)] at grown
      exact (grown rfl).elim
    | some workflow =>
      rcases sent_cases found own with ⟨same, -⟩ | ⟨-, approves⟩
      · exact (grown same).elim
      · exact approves
  · intro approves
    obtain ⟨own, -, -, workflow, found, -, -⟩ := id approves
    rcases sent_cases found own with ⟨-, idle⟩ | ⟨sent, -⟩
    · exact (idle approves).elim
    · exact ⟨own, by simp [sent]⟩

theorem approves_closed (approves : Approves workflowId desk request) (completed : request.ends = .completed) :
    (submitDecisionAsync desk request).1.stateOf workflowId ≠ some .pending := by
  obtain ⟨rfl, approved, -, workflow, found, pending, inTime⟩ := approves
  have decides := submitDecisionAsync_found found
  generalize (submitDecisionAsync desk request).1 = desk' at decides
  have located := Table.find?_of_mem (Table.mem_of_find? found)
  cases decides with
  | refused decided => exact (decided pending).elim
  | approved work _ _ _ does =>
    rw [does, Desk.stateOf_save located (Desk.send_db ..), if_pos ⟨completed, Table.key_of_find? found⟩]
    simp
  | rejected _ rejected => simp [approved] at rejected
  | expired expires =>
    rcases expires with expired | ⟨-, -, late⟩
    · rw [pending] at expired
      cases expired
    · omega

theorem late_iff (late : DecidesLate workflowId desk request workflow) :
    (submitDecisionAsync desk request).1.Expired workflow ↔ (workflow.state = .pending → request.dto.approved = true) := by
  obtain ⟨rfl, completed, found, undecided, late⟩ := late
  have decides := submitDecisionAsync_found found
  generalize (submitDecisionAsync desk request).1 = desk' at decides
  have located := Table.find?_of_mem (Table.mem_of_find? found)
  cases decides with
  | refused pending expired => exact (undecided.elim pending expired).elim
  | approved _ _ _ inTime => omega
  | rejected pending rejected =>
    rw [Desk.Expired, Desk.stateOf_save located rfl, if_pos ⟨completed, rfl⟩]
    simp [pending, rejected]
  | expired expires =>
    refine iff_of_true ⟨?_, fun session stored => ?_⟩ fun pending => ?_
    · rw [Desk.stateOf_save located rfl, if_pos ⟨completed, rfl⟩]
    · rw [completed] at stored
      exact Desk.save_failed desk workflow _ _ _ stored
    · rcases expires with expired | ⟨-, approved, -⟩
      · rw [pending] at expired
        cases expired
      · exact approved

theorem decidedOnce_iff_orderly {desk₀ : Desk} {events : List (Desk × DecisionRequest)} (run : Run Desk.step desk₀ events desk)
    (workflowId : Guid) : DecidedOnce workflowId events ↔ Orderly workflowId events := by
  constructor
  · intro once
    refine ⟨fun e member workflow late => (late_iff late).mp (once.late e member workflow late),
      once.dispatched.imp fun {e e'} apart approvals => apart ?_⟩
    exact ⟨dispatches_iff.mpr approvals.1, dispatches_iff.mpr approvals.2.2⟩
  · intro orderly
    refine ⟨leaves_once run workflowId, ?_, fun e member dispatches => ?_,
      fun e member workflow late => (late_iff late).mpr (orderly.rejections e member workflow late)⟩
    · have closes : events.Pairwise fun e e' =>
          ¬(Approves workflowId e.1 e.2 ∧ e.2.ends = .completed ∧ Approves workflowId e'.1 e'.2) := by
        refine run.pairwise _ (fun e desk => Approves workflowId e.1 e.2 → e.2.ends = .completed →
          desk.stateOf workflowId ≠ some .pending) ?_ ?_ ?_
        · intro desk request desk' taken approves completed
          obtain rfl := Option.some.inj taken
          exact approves_closed approves completed
        · intro e desk request desk' closed taken approves completed
          obtain rfl := Option.some.inj taken
          exact stateOf_closed (closed approves completed) request
        · rintro e desk request closed ⟨approves, completed, -, -, -, workflow, found, pending, -⟩
          refine closed approves completed ?_
          rw [stateOf_found found, pending]
      refine (closes.and orderly.approvals).imp fun {e e'} apart dispatches => ?_
      have first := dispatches_iff.mp dispatches.1
      have second := dispatches_iff.mp dispatches.2
      cases ends : e.2.ends with
      | completed => exact apart.1 ⟨first, ends, second⟩
      | unsent => exact first.2.2.1 ends
      | unsaved => exact apart.2 ⟨first, ends, second⟩
    · have approves := dispatches_iff.mp dispatches
      obtain ⟨own, approved, -, workflow, found, -, inTime⟩ := id approves
      rcases sent_cases found own with ⟨-, idle⟩ | ⟨sent, -⟩
      · exact (idle approves).elim
      · exact ⟨approved, workflow, found, inTime, sent⟩

section Serial

variable {s : Service} {callId : Nat} {call : DecisionCall} {work : DecisionWork}

def Service.toDesk (s : Service) : Desk := ⟨s.db, s.sent⟩

theorem serial_save {sent : Option Nat} (located : s.decisions.find? callId = some call)
    (phase : call.phase = .saving work sent) (ends : CallEnd) :
    ∃ labels s', Performs Service.step s labels s' ∧ s'.toDesk = s.toDesk.save work ends := by
  by_cases completed : ends = .completed
  · refine ⟨[.saveDecision callId], _, .cons (by simp [Service.step, Service.saveDecision, located, phase]; rfl) (.nil _), ?_⟩
    simp [Service.toDesk, Service.endDecision, Desk.save, completed]
  · refine ⟨[.abandonDecision callId], _, .cons rfl (.nil _), ?_⟩
    simp [Service.toDesk, Service.endDecision, Desk.save, completed]

theorem serial_send {entryId : Nat} (located : s.decisions.find? callId = some call) (phase : call.phase = .approved work)
    (room : s.queue.find? entryId = none) (ends : CallEnd) :
    ∃ labels s', Performs Service.step s labels s' ∧ s'.toDesk = (s.toDesk.send work ends).save work ends := by
  by_cases unsent : ends = .unsent
  · refine ⟨[.abandonDecision callId], _, .cons rfl (.nil _), ?_⟩
    simp [Service.toDesk, Service.endDecision, Desk.save, Desk.send, unsent]
  · obtain ⟨queue, inserted⟩ := Option.isSome_iff_exists.mp (Table.insert?_isSome
      (r := (⟨entryId, work.message, none⟩ : QueueEntry)) room)
    obtain rfl := Table.key_of_find? located
    let sent : DecisionCall := { call with phase := .saving work (some entryId) }
    have sends : Service.step s (.enqueueDecision call.id entryId) = some { s.updateDecision sent with
        queue := queue, sent := work.message :: s.sent } := by
      simp [Service.step, Service.enqueueDecision, located, phase, Service.enqueue, Service.updateDecision, inserted, sent]
    obtain ⟨labels, s', performs, saved⟩ := serial_save (s := { s.updateDecision sent with
        queue := queue, sent := work.message :: s.sent }) (Table.find?_put_self (r := sent) located) rfl ends
    refine ⟨_, s', .cons sends performs, ?_⟩
    rw [saved, Desk.send, if_neg unsent]
    rfl

/-- A call that no other overlaps does, step by step, what `submitDecisionAsync` does at once. -/
theorem serial_decision {entryId : Nat} (found : s.db.approvalWorkflows.find? request.workflowId = some workflow)
    (idle : s.decisions.find? callId = none) (room : s.queue.find? entryId = none) :
    ∃ labels s', Performs Service.step s labels s' ∧ s'.toDesk = (submitDecisionAsync s.toDesk request).1 := by
  obtain ⟨decisions, opened⟩ := Option.isSome_iff_exists.mp (Table.insert?_isSome (r := (⟨callId, request.dto,
    .opened workflow⟩ : DecisionCall)) idle)
  have located := Table.find?_insert?_self opened
  have opens : Service.step s (.openDecision callId request.dto request.workflowId) = some { s with decisions := decisions } := by
    simp [Service.step, Service.openDecision, found, opened]
  unfold submitDecisionAsync
  simp only [Service.toDesk, found]
  cases decided : submitDecision request.dto workflow (s.db.executionSessions.find? workflow.sessionId)
      (s.db.executionActions.find? workflow.actionId) request.now with
  | none =>
    refine ⟨[.openDecision callId request.dto request.workflowId, .decide callId request.now], _,
      .cons opens (.cons (by simp [Service.step, Service.decide, located, decided]; rfl) (.nil _)), ?_⟩
    rfl
  | some phase =>
    let answered : DecisionCall := ⟨callId, request.dto, phase⟩
    have decides : Service.step { s with decisions := decisions } (.decide callId request.now) =
        some (Service.updateDecision { s with decisions := decisions } answered) := by
      simp [Service.step, Service.decide, located, decided, answered]
    have stored := Table.find?_put_self (r := answered) located
    obtain ⟨_, _, _, rfl | rfl⟩ := submitDecision_cases decided
    · obtain ⟨labels, s', performs, same⟩ := serial_send
        (s := Service.updateDecision { s with decisions := decisions } answered) stored rfl room request.ends
      exact ⟨_, s', .cons opens (.cons decides performs), same⟩
    · obtain ⟨labels, s', performs, same⟩ := serial_save
        (s := Service.updateDecision { s with decisions := decisions } answered) stored rfl request.ends
      exact ⟨_, s', .cons opens (.cons decides performs), same⟩

end Serial

/-- The decisions on a workflow keep to its rules if and only if they come in an orderly way. Where no call overlaps another, the
service does the same step by step. -/
theorem decided_once_iff {desk₀ : Desk} {events : List (Desk × DecisionRequest)} (run : Run Desk.step desk₀ events desk)
    (workflowId : Guid) :
    (DecidedOnce workflowId events ↔ Orderly workflowId events) ∧
      ∀ (s : Service) (request : DecisionRequest) (callId entryId : Nat) (workflow : ApprovalWorkflow),
        s.db.approvalWorkflows.find? request.workflowId = some workflow → s.decisions.find? callId = none →
          s.queue.find? entryId = none → ∃ labels s', Performs Service.step s labels s' ∧
            s'.toDesk = (submitDecisionAsync s.toDesk request).1 :=
  ⟨decidedOnce_iff_orderly run workflowId, fun _ _ _ _ _ => serial_decision⟩

section Example

def awaitingDecision : Desk where
  db := {
    agentIdentities := .singleton acme
    executionSessions := .singleton ⟨1, 1, .awaitingApproval, 0⟩
    executionActions := .singleton ⟨1, 1, "pay_invoice", 60, .queued, none⟩
    approvalWorkflows := .singleton ⟨1, 1, 1, 60, .pending, none, 10, none⟩
    auditEvents := [] }
  sent := []

def decisionAt (approved : Bool) (now : Nat) (ends : CallEnd) : DecisionRequest :=
  ⟨1, ⟨approved, "Vendor verified", "cfo"⟩, now, ends⟩

/-- A late rejection leaves the workflow rejected, and an approval whose save fails is sent again. -/
theorem decided_after_expiry :
    (∃ events desk, Run Desk.step awaitingDecision events desk ∧ ¬DecidedOnce 1 events ∧
      desk.stateOf 1 = some .rejected) ∧
    ∃ events desk, Run Desk.step awaitingDecision events desk ∧ ¬DecidedOnce 1 events ∧ desk.sent = [⟨1, 1⟩, ⟨1, 1⟩] := by
  constructor
  · refine ⟨[(awaitingDecision, decisionAt false 11 .completed)], _, .next .start rfl, fun once => ?_, by decide⟩
    have orderly := (decidedOnce_iff_orderly (.next .start rfl) 1).mp once
    have approved := orderly.rejections _ (List.mem_singleton_self _) _ ⟨rfl, rfl, rfl, .inl rfl, by decide⟩ rfl
    simp [decisionAt] at approved
  · refine ⟨[(awaitingDecision, decisionAt true 9 .unsaved), (_, decisionAt true 10 .completed)], _,
      .next (.next .start rfl) rfl, fun once => ?_, by decide⟩
    have sent := List.rel_of_pairwise_cons once.dispatched (List.mem_singleton_self _)
    exact sent ⟨⟨rfl, by decide⟩, rfl, by decide⟩

/-- An approval in time, and a refused call after it -/
theorem decided_once_in_time : ∃ events desk, Run Desk.step awaitingDecision events desk ∧ DecidedOnce 1 events ∧
    desk.stateOf 1 = some .approved := by
  have run : Run Desk.step awaitingDecision [(awaitingDecision, decisionAt true 10 .completed),
      (_, decisionAt false 10 .completed)] _ := .next (.next .start rfl) rfl
  refine ⟨_, _, run, (decided_once_iff run 1).1.mpr ⟨?_, by simp [decisionAt]⟩, by decide⟩
  intro e member workflow late
  have expires : workflow.expiresAtUtc = 10 := by
    obtain ⟨-, -, found, -⟩ := late
    rcases List.mem_pair.mp member with rfl | rfl
    · obtain rfl := Option.some.inj found
      rfl
    · obtain rfl := Option.some.inj found
      rfl
  have now : e.2.now = 10 := by
    rcases List.mem_pair.mp member with rfl | rfl <;> rfl
  have after := late.2.2.2.2
  omega

end Example

end AgentOps.Execution
