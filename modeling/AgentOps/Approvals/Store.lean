import AgentOps.Identity.Errors
import AgentOps.Identity.Ids
import AgentOps.Lib.Table

namespace AgentOps.Approvals
open Lib Identity

inductive ApprovalStatus where
  | pending
  | approved
  | denied
  | expired
  | cancelled
  | consumed
  deriving DecidableEq

/-- The `request` field of an approval's context -/
structure RequestBinding where
  request_hash : Option Hash
  quote_hash : Option Hash
  deriving DecidableEq

structure ApprovalRow where
  id : ApprovalId
  org_id : OrgId
  agent_id : AgentId
  connection_id : ConnectionId
  decision_id : DecisionId
  status : ApprovalStatus
  request : RequestBinding
  context_hash : Hash
  requested_by : ActorId
  expires_at : Time
  required_approvals : Nat
  required_approvals_check : 1 ≤ required_approvals
  deriving DecidableEq

structure VoteRow where
  org_id : OrgId
  approval_id : ApprovalId
  actor_id : ActorId
  deriving DecidableEq

/-- `UNIQUE (approval_id, actor_id)` -/
def VoteRow.key (vote : VoteRow) : ApprovalId × ActorId := (vote.approval_id, vote.actor_id)

/-- `approval_consumptions_once_idx` makes `approval_id` a key. -/
structure ConsumptionRow where
  org_id : OrgId
  approval_id : ApprovalId
  decision_id : DecisionId
  connection_id : ConnectionId
  context_hash : Hash
  deriving DecidableEq

abbrev Votes := Table VoteRow.key
abbrev Requests := Table ApprovalRow.id
abbrev Consumptions := Table ConsumptionRow.approval_id

/-- The subquery `VOTES_COUNT_SUBQUERY` -/
def votesCount (votes : Votes) (id : ApprovalId) : Nat := votes.sum fun vote => if vote.approval_id = id then 1 else 0

structure CreateApprovalInput where
  orgId : OrgId
  agentId : AgentId
  connectionId : ConnectionId
  decisionId : DecisionId
  request : RequestBinding
  contextHash : Hash
  requiredApprovals : Option {n : Nat // 1 ≤ n}

def approvalRowOf (now : Time) (id : ApprovalId) (input : CreateApprovalInput) : ApprovalRow where
  id := id
  org_id := input.orgId
  agent_id := input.agentId
  connection_id := input.connectionId
  decision_id := input.decisionId
  status := .pending
  request := input.request
  context_hash := input.contextHash
  requested_by := input.connectionId
  expires_at := now + fifteenMinutes
  required_approvals := (input.requiredApprovals.getD ⟨1, le_rfl⟩).val
  required_approvals_check := (input.requiredApprovals.getD ⟨1, le_rfl⟩).property

def approvalNotPending : Failure := conflict "approval_not_pending" "Approval is not pending or has expired."

def selfApprovalForbidden : Failure :=
  IdentityError.mk "self_approval_forbidden" 403 "The requester cannot approve or deny their own request."

/-- The checks of `approveApproval` on the row its locking `SELECT` returned. -/
def checkApprovable (now : Time) (actorId : ActorId) : Option ApprovalRow → Except Failure ApprovalRow
  | none => .error approvalNotPending
  | some existing =>
    if existing.status ≠ .pending ∨ existing.expires_at ≤ now then .error approvalNotPending
    else if existing.requested_by = actorId then .error selfApprovalForbidden
    else .ok existing

def findScoped (approvals : Requests) (orgId : OrgId) (id : ApprovalId) : Option ApprovalRow :=
  (approvals.find? id).filter fun row => row.org_id = orgId

/-- Whether a vote cast on `existing` reaches the quorum, by the count its `SELECT` returned. -/
def quorumReached (existing : ApprovalRow) (snapshotCount : Nat) : Bool :=
  snapshotCount + 1 ≥ existing.required_approvals

/-- The `INSERT` into `approval_votes` and the `UPDATE` of the request that `approveApproval` commits. -/
def castVote (approvals : Requests) (votes : Votes) (existing : ApprovalRow) (snapshotCount : Nat) (actorId : ActorId) :
    Except Failure (Requests × Votes) :=
  match votes.insert? ⟨existing.org_id, existing.id, actorId⟩ with
  | none => .error (conflict "already_voted" "This operator has already voted on this approval.")
  | some votes' =>
    match findScoped approvals existing.org_id existing.id with
    | none => .error (.thrown "approval_vote_update_failed")
    | some row =>
      .ok (approvals.put { row with status := if quorumReached existing snapshotCount then .approved else row.status },
        votes')

/-- `startedAt` is the start of the transaction, which is what `now()` means in its statements. -/
def denyApproval (approvals : Requests) (startedAt : Time) (actorId : ActorId) (orgId : OrgId) (id : ApprovalId) :
    Except Failure Requests :=
  match findScoped approvals orgId id with
  | none => .error approvalNotPending
  | some row =>
    if row.status = .pending ∧ startedAt < row.expires_at then
      if row.requested_by = actorId then .error selfApprovalForbidden
      else .ok (approvals.put { row with status := .denied })
    else .error approvalNotPending

def getApproval (approvals : Requests) (orgId : OrgId) (id : ApprovalId) : Except Failure ApprovalRow :=
  match findScoped approvals orgId id with
  | none => .error (notFound "Approval was not found.")
  | some row => .ok row

/-- What `consumeApproval` checks on the approval it read, before its own transaction. -/
def checkConsumable (now : Time) (auth : ConnectionAuthResult) (decisionId : DecisionId) (approval : ApprovalRow) :
    Except Failure ApprovalRow :=
  if approval.connection_id ≠ auth.connection_id ∨ approval.agent_id ≠ auth.agent_id then
    .error (forbidden "Approval does not belong to this agent connection.")
  else if approval.decision_id ≠ decisionId then
    .error (badRequest "approval_decision_mismatch" "Approval does not match the supplied decision.")
  else if approval.status ≠ .approved then
    .error (conflict "approval_not_approved" "Approval must be approved before it can be consumed.")
  else if approval.expires_at ≤ now then .error (conflict "approval_expired" "Approval has expired.")
  else .ok approval

/-- The transaction of `consumeApproval`. Its `UPDATE` looks at the status only. -/
def commitConsumption (approvals : Requests) (consumptions : Consumptions) (auth : ConnectionAuthResult)
    (approval : ApprovalRow) (decisionId : DecisionId) : Except Failure (Requests × Consumptions) :=
  match findScoped approvals auth.org_id approval.id with
  | none => .error (conflict "approval_not_approved" "Approval was already consumed or changed.")
  | some row =>
    if row.status ≠ .approved then
      .error (conflict "approval_not_approved" "Approval was already consumed or changed.")
    else match consumptions.insert? ⟨auth.org_id, approval.id, decisionId, auth.connection_id, approval.context_hash⟩ with
      | none => .error (.constraint "approval_consumptions_once_idx")
      | some consumptions' => .ok (approvals.put { row with status := .consumed }, consumptions')

theorem findScoped_eq_some {approvals : Requests} {orgId : OrgId} {id : ApprovalId} {row : ApprovalRow} :
    findScoped approvals orgId id = some row ↔ approvals.find? id = some row ∧ row.org_id = orgId := by
  simp [findScoped, Option.filter_eq_some_iff]

theorem checkApprovable_ok {now : Time} {actorId : ActorId} {found : Option ApprovalRow} {existing : ApprovalRow}
    (checked : checkApprovable now actorId found = .ok existing) :
    found = some existing ∧ existing.status = .pending ∧ now < existing.expires_at ∧
      existing.requested_by ≠ actorId := by
  unfold checkApprovable at checked
  split at checked
  · cases checked
  · split at checked
    · cases checked
    · rename_i eligible
      split at checked
      · cases checked
      · rename_i other
        obtain rfl := Except.ok.inj checked
        push Not at eligible
        exact ⟨rfl, eligible.1, eligible.2, other⟩

theorem castVote_ok {approvals approvals' : Requests} {votes votes' : Votes} {existing : ApprovalRow} {count : Nat}
    {actorId : ActorId} (cast : castVote approvals votes existing count actorId = .ok (approvals', votes')) :
    ∃ row, findScoped approvals existing.org_id existing.id = some row ∧
      votes.insert? ⟨existing.org_id, existing.id, actorId⟩ = some votes' ∧
      approvals' = approvals.put { row with status := if quorumReached existing count then .approved else row.status } := by
  unfold castVote at cast
  split at cast
  · cases cast
  · rename_i inserted
    split at cast
    · cases cast
    · rename_i row found
      simp only [Except.ok.injEq, Prod.mk.injEq] at cast
      obtain ⟨rfl, rfl⟩ := cast
      exact ⟨row, found, inserted, rfl⟩

theorem denyApproval_ok {approvals approvals' : Requests} {startedAt : Time} {actorId : ActorId} {orgId : OrgId}
    {id : ApprovalId} (denied : denyApproval approvals startedAt actorId orgId id = .ok approvals') :
    ∃ row, approvals.find? id = some row ∧ row.status = .pending ∧
      approvals' = approvals.put { row with status := .denied } := by
  unfold denyApproval at denied
  split at denied
  · cases denied
  · rename_i row found
    split at denied
    · rename_i eligible
      split at denied
      · cases denied
      · obtain rfl := Except.ok.inj denied
        exact ⟨row, (findScoped_eq_some.mp found).1, eligible.1, rfl⟩
    · cases denied

theorem checkConsumable_ok {now : Time} {auth : ConnectionAuthResult} {decisionId : DecisionId}
    {approval approval' : ApprovalRow} (checked : checkConsumable now auth decisionId approval = .ok approval') :
    approval' = approval ∧ approval.connection_id = auth.connection_id ∧ approval.agent_id = auth.agent_id ∧
      approval.decision_id = decisionId ∧ approval.status = .approved ∧ now < approval.expires_at := by
  unfold checkConsumable at checked
  split at checked
  · cases checked
  rename_i owner
  split at checked
  · cases checked
  rename_i decision
  split at checked
  · cases checked
  rename_i approved
  split at checked
  · cases checked
  rename_i unexpired
  push Not at owner decision approved unexpired
  obtain rfl := Except.ok.inj checked
  exact ⟨rfl, owner.1, owner.2, decision, approved, unexpired⟩

theorem commitConsumption_ok {approvals approvals' : Requests} {consumptions consumptions' : Consumptions}
    {auth : ConnectionAuthResult} {approval : ApprovalRow} {decisionId : DecisionId}
    (committed : commitConsumption approvals consumptions auth approval decisionId = .ok (approvals', consumptions')) :
    ∃ row, approvals.find? approval.id = some row ∧ row.org_id = auth.org_id ∧ row.status = .approved ∧
      consumptions.insert? ⟨auth.org_id, approval.id, decisionId, auth.connection_id, approval.context_hash⟩ =
        some consumptions' ∧ approvals' = approvals.put { row with status := .consumed } := by
  unfold commitConsumption at committed
  split at committed
  · cases committed
  · rename_i row found
    split at committed
    · cases committed
    · rename_i approved
      split at committed
      · cases committed
      · rename_i inserted
        simp only [Except.ok.injEq, Prod.mk.injEq] at committed
        obtain ⟨rfl, rfl⟩ := committed
        obtain ⟨located, inOrg⟩ := findScoped_eq_some.mp found
        exact ⟨row, located, inOrg, not_not.mp approved, inserted, rfl⟩

end AgentOps.Approvals
