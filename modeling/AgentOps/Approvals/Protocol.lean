import AgentOps.Approvals.Store
import AgentOps.Lib.Transition

namespace AgentOps.Approvals
open Lib Identity

/-! # Approval operations as they interleave, statement by statement -/

abbrev VoterId := Nat

inductive VoterPhase where
  /-- The locking `SELECT` has taken its snapshot, and the vote count with it, and waits for the row. -/
  | waiting (votes_count : Nat)
  | locked (existing : ApprovalRow) (votes_count : Nat)
  | finished (outcome : Except Failure Unit)

/-- A call of `approveApproval` -/
structure Voter where
  id : VoterId
  actorId : ActorId
  orgId : OrgId
  approvalId : ApprovalId
  phase : VoterPhase

/-- `consumeApproval` runs inside a payment call or for its own route. -/
inductive ConsumerId where
  | payment (call : Nat)
  | route (request : Nat)
  deriving DecidableEq

inductive ConsumerPhase where
  | checked (approval : ApprovalRow)
  | rechecked (approval : ApprovalRow)
  | finished (outcome : Except Failure Unit)

structure Consumer where
  id : ConsumerId
  auth : ConnectionAuthResult
  approvalId : ApprovalId
  decisionId : DecisionId
  phase : ConsumerPhase

structure State where
  now : Time
  approvals : Requests
  votes : Votes
  consumptions : Consumptions
  voters : Table Voter.id
  consumers : Table Consumer.id

inductive Label where
  | tick (now : Time)
  | createApprovalRequest (id : ApprovalId) (input : CreateApprovalInput)
  | approveApproval (voter : VoterId) (actorId : ActorId) (orgId : OrgId) (approvalId : ApprovalId)
  | lockApproval (voter : VoterId)
  | castVote (voter : VoterId)
  | abandonVote (voter : VoterId)
  | denyApproval (startedAt : Time) (actorId : ActorId) (orgId : OrgId) (approvalId : ApprovalId)
  | consumeApproval (consumer : ConsumerId) (auth : ConnectionAuthResult) (approvalId : ApprovalId)
      (decisionId : DecisionId)
  | recheckPolicy (consumer : ConsumerId) (denied : Bool)
  | commitConsumption (consumer : ConsumerId)

def Voter.holds (voter : Voter) (id : ApprovalId) : Bool :=
  voter.approvalId = id && match voter.phase with
    | .locked _ _ => true
    | _ => false

namespace State

def rowLocked (s : State) (id : ApprovalId) : Bool := s.voters.rows.any fun voter => voter.holds id

def waiting? (s : State) (id : VoterId) : Option (Voter × Nat) :=
  match s.voters.find? id with
  | some voter =>
    match voter.phase with
    | .waiting count => some (voter, count)
    | _ => none
  | none => none

def locked? (s : State) (id : VoterId) : Option (Voter × ApprovalRow × Nat) :=
  match s.voters.find? id with
  | some voter =>
    match voter.phase with
    | .locked existing count => some (voter, existing, count)
    | _ => none
  | none => none

def checked? (s : State) (id : ConsumerId) : Option (Consumer × ApprovalRow) :=
  match s.consumers.find? id with
  | some consumer =>
    match consumer.phase with
    | .checked approval => some (consumer, approval)
    | _ => none
  | none => none

def rechecked? (s : State) (id : ConsumerId) : Option (Consumer × ApprovalRow) :=
  match s.consumers.find? id with
  | some consumer =>
    match consumer.phase with
    | .rechecked approval => some (consumer, approval)
    | _ => none
  | none => none

def setVoter (s : State) (voter : Voter) (phase : VoterPhase) : State :=
  { s with voters := s.voters.put { voter with phase } }

def setConsumer (s : State) (consumer : Consumer) (phase : ConsumerPhase) : State :=
  { s with consumers := s.consumers.put { consumer with phase } }

end State

def policyDenied : Failure := forbidden "Approval can no longer be consumed because current policy denies the action."

/-- How `consumeApproval` starts: it reads the approval and checks it. -/
def consumerOf (s : State) (id : ConsumerId) (auth : ConnectionAuthResult) (approvalId : ApprovalId)
    (decisionId : DecisionId) : Consumer :=
  { id, auth, approvalId, decisionId
    phase := match (getApproval s.approvals auth.org_id approvalId).bind (checkConsumable s.now auth decisionId) with
      | .ok approval => .checked approval
      | .error failure => .finished (.error failure) }

def step (s : State) : Label → Option State
  | .tick now => if s.now ≤ now then some { s with now } else none
  | .createApprovalRequest id input =>
    (s.approvals.insert? (approvalRowOf s.now id input)).map fun approvals => { s with approvals }
  | .approveApproval voter actorId orgId approvalId =>
    (s.voters.insert? ⟨voter, actorId, orgId, approvalId, .waiting (votesCount s.votes approvalId)⟩).map
      fun voters => { s with voters }
  | .lockApproval voter =>
    match s.waiting? voter with
    | none => none
    | some (voter, count) =>
      if s.rowLocked voter.approvalId then none
      else match checkApprovable s.now voter.actorId (findScoped s.approvals voter.orgId voter.approvalId) with
        | .error failure => some (s.setVoter voter (.finished (.error failure)))
        | .ok existing => some (s.setVoter voter (.locked existing count))
  | .castVote voter =>
    match s.locked? voter with
    | none => none
    | some (voter, existing, count) =>
      match castVote s.approvals s.votes existing count voter.actorId with
      | .error failure => some (s.setVoter voter (.finished (.error failure)))
      | .ok (approvals, votes) => some { s.setVoter voter (.finished (.ok ())) with approvals, votes }
  | .abandonVote voter =>
    match s.voters.find? voter with
    | none => none
    | some voter => some (s.setVoter voter (.finished (.error (.thrown "connection_lost"))))
  | .denyApproval startedAt actorId orgId approvalId =>
    if s.now < startedAt ∨ s.rowLocked approvalId then none
    else match denyApproval s.approvals startedAt actorId orgId approvalId with
      | .error _ => some s
      | .ok approvals => some { s with approvals }
  | .consumeApproval consumer auth approvalId decisionId =>
    (s.consumers.insert? (consumerOf s consumer auth approvalId decisionId)).map fun consumers => { s with consumers }
  | .recheckPolicy consumer denied =>
    match s.checked? consumer with
    | none => none
    | some (consumer, approval) =>
      some (s.setConsumer consumer (if denied then .finished (.error policyDenied) else .rechecked approval))
  | .commitConsumption consumer =>
    match s.rechecked? consumer with
    | none => none
    | some (consumer, approval) =>
      if s.rowLocked approval.id then none
      else match commitConsumption s.approvals s.consumptions consumer.auth approval consumer.decisionId with
        | .error failure => some (s.setConsumer consumer (.finished (.error failure)))
        | .ok (approvals, consumptions) =>
          some { s.setConsumer consumer (.finished (.ok ())) with approvals, consumptions }

end AgentOps.Approvals
