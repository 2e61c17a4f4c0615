import AgentOps.Identity.Errors
import AgentOps.Lib.Query
import AgentOps.Lib.Table
import AgentOps.Policy.DecisionEngine

namespace AgentOps.Policy
open Lib Identity

/-! # Policies, their bindings, and what they are bound to -/

abbrev TeamId := TargetId
abbrev PolicyBindingId := Nat

inductive ConnectionStatus where
  | active
  | revoked
  deriving DecidableEq

inductive PolicyVersionStatus where
  | active
  | superseded
  | archived
  deriving DecidableEq

inductive PolicyBindingStatus where
  | active
  | removed
  deriving DecidableEq

inductive PolicyCategory where
  | management
  | operational
  | capability
  deriving DecidableEq

structure OrgRow where
  id : OrgId
  display_name : String
  default_policy_effect : PolicyDefaultEffect
  deriving DecidableEq

structure TeamRow where
  id : TeamId
  org_id : OrgId
  name : String
  deriving DecidableEq

structure AgentRow where
  id : AgentId
  org_id : OrgId
  team_id : TeamId
  name : String
  deriving DecidableEq

structure ConnectionRow where
  id : ConnectionId
  org_id : OrgId
  agent_id : AgentId
  name : String
  status : ConnectionStatus
  created_at : Time
  deriving DecidableEq

structure PolicyActionRow where
  action_id : String
  binding_target_types : List PolicyTargetType
  deriving DecidableEq

/-- A version of a policy, which `(policy_id, version)` identifies -/
abbrev VersionKey := PolicyId × Nat

structure PolicyVersionRow where
  policy_id : PolicyId
  version : Nat
  org_id : OrgId
  name : String
  description : String
  category : PolicyCategory
  status : PolicyVersionStatus
  statements : List PolicyStatement
  created_at : Time
  deriving DecidableEq

def PolicyVersionRow.key (row : PolicyVersionRow) : VersionKey := (row.policy_id, row.version)

structure BindingTarget where
  type : PolicyTargetType
  id : TargetId
  deriving DecidableEq

structure PolicyBindingRow where
  id : PolicyBindingId
  org_id : OrgId
  policy_id : PolicyId
  policy_version : Nat
  target : BindingTarget
  status : PolicyBindingStatus
  created_at : Time
  deriving DecidableEq

def PolicyBindingRow.versionKey (row : PolicyBindingRow) : VersionKey := (row.policy_id, row.policy_version)

structure PolicyStore where
  orgs : Table OrgRow.id
  teams : Table TeamRow.id
  agents : Table AgentRow.id
  connections : Table ConnectionRow.id
  policyActionRegistry : Table PolicyActionRow.action_id
  policyVersions : Table PolicyVersionRow.key
  policyBindings : Table PolicyBindingRow.id
  /-- An agent's team is a team of the agent's organisation: every write of `team_id` checks it. -/
  placed : ∀ agent ∈ agents, (∃ org ∈ orgs, org.id = agent.org_id) ∧
    ∃ team ∈ teams, team.id = agent.team_id ∧ team.org_id = agent.org_id
  owned : ∀ connection ∈ connections, ∃ agent ∈ agents,
    agent.id = connection.agent_id ∧ agent.org_id = connection.org_id

namespace PolicyStore

variable (store : PolicyStore)

def org? (orgId : OrgId) : Option OrgRow := store.orgs.find? orgId

def team? (orgId : OrgId) (id : TeamId) : Option TeamRow := (store.teams.find? id).filter (·.org_id = orgId)

def agent? (orgId : OrgId) (id : AgentId) : Option AgentRow := (store.agents.find? id).filter (·.org_id = orgId)

def connection? (orgId : OrgId) (id : ConnectionId) : Option ConnectionRow :=
  (store.connections.find? id).filter (·.org_id = orgId)

def targetTypeOrder : List PolicyTargetType := [.org, .team, .agent, .connection]

def bindingTargetTypesForAction (action : String) : List PolicyTargetType :=
  if action = "*" then targetTypeOrder
  else ((store.policyActionRegistry.find? action).map (·.binding_target_types)).getD []

def bindingTargetTypesForStatements (statements : List PolicyStatement) : List PolicyTargetType :=
  targetTypeOrder.filter fun targetType => statements.any fun statement => statement.actions.any fun action =>
    targetType ∈ store.bindingTargetTypesForAction action

def targetTypeText : PolicyTargetType → String
  | .org => "org"
  | .team => "team"
  | .agent => "agent"
  | .connection => "connection"

def assertBindingTargetTypeAllowed (statements : List PolicyStatement) (target : BindingTarget) : Except Failure Unit :=
  if target.type ∈ store.bindingTargetTypesForStatements statements then .ok ()
  else
    .error (badRequest "invalid_policy_binding_target"
      ("This policy cannot be bound to a " ++ targetTypeText target.type ++ " target."))

def targetExists (orgId : OrgId) (target : BindingTarget) : Bool :=
  match target.type with
  | .agent => (store.agent? orgId target.id).isSome
  | .connection => (store.connection? orgId target.id).isSome
  | .org => target.id = orgId ∧ (store.org? orgId).isSome
  | .team => (store.team? orgId target.id).isSome

def assertBindingTargetExists (orgId : OrgId) (target : BindingTarget) : Except Failure Unit :=
  if store.targetExists orgId target then .ok () else .error (notFound "Policy binding target was not found.")

def activeVersion? (orgId : OrgId) (version : VersionKey) : Option PolicyVersionRow :=
  (store.policyVersions.find? version).filter fun row => row.org_id = orgId ∧ row.status = .active

def activelyBound (orgId : OrgId) (version : VersionKey) (target : BindingTarget) : Bool :=
  store.policyBindings.rows.any fun binding => binding.status = .active ∧ binding.org_id = orgId ∧
    binding.versionKey = version ∧ binding.target = target

structure BindPolicyInput where
  policy_version : Nat
  target : BindingTarget

def bindPolicy (orgId : OrgId) (policyId : PolicyId) (input : BindPolicyInput) (bindingId : PolicyBindingId)
    (now : Time) : Except Failure PolicyStore := do
  match store.activeVersion? orgId (policyId, input.policy_version) with
  | none => .error (notFound "Active policy version was not found.")
  | some policy =>
    store.assertBindingTargetTypeAllowed policy.statements input.target
    store.assertBindingTargetExists orgId input.target
    if store.activelyBound orgId policy.key input.target then
      .error (.constraint "policy_bindings_active_unique_idx")
    else
      match store.policyBindings.insert?
        { id := bindingId, org_id := orgId, policy_id := policyId, policy_version := input.policy_version
          target := input.target, status := .active, created_at := now } with
      | none => .error (.constraint "policy_bindings_pkey")
      | some bindings => .ok { store with policyBindings := bindings }

def boundVersions (orgId : OrgId) (candidates : List BindingTarget) : List (PolicyVersionRow × PolicyBindingRow) :=
  join (store.policyVersions.rows.filter fun version => version.org_id = orgId ∧ version.status = .active)
    store.policyBindings.rows fun version binding =>
      binding.org_id = version.org_id ∧ binding.versionKey = version.key ∧ binding.status = .active ∧
        binding.target ∈ candidates

def targetBindingCandidates (orgId : OrgId) (target : DecisionTarget) : List BindingTarget :=
  match target.type, target.id with
  | .org, _ | _, none => [⟨.org, orgId⟩]
  | .team, some id => [⟨.org, orgId⟩, ⟨.team, id⟩]
  | .agent, some id =>
    match store.agent? orgId id with
    | none => [⟨.org, orgId⟩]
    | some agent => [⟨.org, orgId⟩, ⟨.team, agent.team_id⟩, ⟨.agent, id⟩]
  | .connection, some id =>
    match (store.connection? orgId id).bind fun connection => store.agent? orgId connection.agent_id with
    | none => [⟨.org, orgId⟩]
    | some agent => [⟨.org, orgId⟩, ⟨.team, agent.team_id⟩, ⟨.agent, agent.id⟩, ⟨.connection, id⟩]

def effectivePolicyOf (version : PolicyVersionRow) : EffectivePolicy where
  policyId := version.policy_id
  version := version.version
  name := version.name
  statements := version.statements

/-- `ORDER BY pv.policy_id, pv.version, pb.created_at` -/
def byVersion (row other : PolicyVersionRow × PolicyBindingRow) : Bool :=
  row.1.policy_id < other.1.policy_id || (row.1.policy_id = other.1.policy_id &&
    (row.1.version < other.1.version || (row.1.version = other.1.version && row.2.created_at ≤ other.2.created_at)))

def effectivePoliciesForRequest (orgId : OrgId) (request : PolicyDecisionRequest) : List EffectivePolicy :=
  (distinctOn (fun row : PolicyVersionRow × PolicyBindingRow => row.1.key)
    (orderBy byVersion (store.boundVersions orgId (store.targetBindingCandidates orgId request.target)))).map
      fun row => effectivePolicyOf row.1

def orgDefaultPolicyEffect (orgId : OrgId) : PolicyDefaultEffect :=
  ((store.org? orgId).map (·.default_policy_effect)).getD .deny

def checkPolicyDecision (orgId : OrgId) (request : PolicyDecisionRequest) : Except Failure PolicyDecisionResult :=
  if (store.policyActionRegistry.find? request.action).isSome then
    .ok (evaluatePolicyDecision request (store.effectivePoliciesForRequest orgId request)
      (store.orgDefaultPolicyEffect orgId))
  else .error (badRequest "unknown_policy_action" "Policy action is not registered.")

inductive AgentPolicyBindingScope where
  | credential
  | direct
  | team
  | workspace
  deriving DecidableEq

structure BindingCandidate where
  target : BindingTarget
  label : String
  scope : AgentPolicyBindingScope
  deriving DecidableEq

/-- `ORDER BY created_at ASC, id ASC` -/
def byCreation (row other : ConnectionRow) : Bool :=
  row.created_at < other.created_at || (row.created_at = other.created_at && row.id ≤ other.id)

def activeConnections (orgId : OrgId) (agentId : AgentId) : List ConnectionRow :=
  orderBy byCreation (store.connections.rows.filter fun connection =>
    connection.org_id = orgId ∧ connection.agent_id = agentId ∧ connection.status = .active)

def agentPolicyBindingCandidates (orgId : OrgId) (agentId : AgentId) : Except Failure (List BindingCandidate) :=
  match store.agent? orgId agentId with
  | none => .error (notFound "Agent was not found.")
  | some agent =>
    match store.org? agent.org_id, store.team? agent.org_id agent.team_id with
    | some org, some team =>
      .ok ([⟨⟨.org, orgId⟩, org.display_name, .workspace⟩, ⟨⟨.team, team.id⟩, team.name, .team⟩,
        ⟨⟨.agent, agentId⟩, agent.name, .direct⟩] ++
          (store.activeConnections orgId agentId).map fun connection =>
            ⟨⟨.connection, connection.id⟩, connection.name, .credential⟩)
    | _, _ => .error (notFound "Agent was not found.")

structure AgentPolicyAssignment where
  id : PolicyId
  version : Nat
  name : String
  description : String
  category : PolicyCategory
  binding_id : PolicyBindingId
  scope : AgentPolicyBindingScope
  target : BindingTarget
  target_label : String
  deriving DecidableEq

def targetTypeRank : PolicyTargetType → Nat
  | .agent => 1
  | .connection => 2
  | .team => 3
  | .org => 4

def byTargetType (row other : PolicyVersionRow × PolicyBindingRow) : Bool :=
  let rank := targetTypeRank row.2.target.type
  let otherRank := targetTypeRank other.2.target.type
  rank < otherRank || (rank = otherRank && (other.1.created_at < row.1.created_at ||
    (other.1.created_at = row.1.created_at && other.1.policy_id ≤ row.1.policy_id)))

def assignmentOf (candidates : List BindingCandidate) (row : PolicyVersionRow × PolicyBindingRow) :
    AgentPolicyAssignment :=
  let candidate := candidates.reverse.find? fun candidate => candidate.target = row.2.target
  { id := row.1.policy_id
    version := row.1.version
    name := row.1.name
    description := row.1.description
    category := row.1.category
    binding_id := row.2.id
    scope := (candidate.map (·.scope)).getD .direct
    target := row.2.target
    target_label := (candidate.map (·.label)).getD (toString row.2.target.id) }

def listAgentEffectivePolicies (orgId : OrgId) (agentId : AgentId) : Except Failure (List AgentPolicyAssignment) := do
  let candidates ← store.agentPolicyBindingCandidates orgId agentId
  .ok ((orderBy byTargetType (store.boundVersions orgId (candidates.map (·.target)))).map (assignmentOf candidates))

end PolicyStore

end AgentOps.Policy
