import AgentOps.Payments.Prepare
import AgentOps.Policy.Store

namespace AgentOps.Policy
open Lib Identity

/-! # The calls that enforce policy, and the policies they evaluate -/

structure PolicyCheck where
  orgId : OrgId
  request : PolicyDecisionRequest

def PolicyCheck.decide (check : PolicyCheck) (store : PolicyStore) : Except Failure PolicyDecisionResult :=
  store.checkPolicyDecision check.orgId check.request

def x402Check (auth : ConnectionAuthResult) (context : JsonObject) : PolicyCheck where
  orgId := auth.org_id
  request :=
    { actor := { type := .connection, id := some auth.connection_id }
      action := "payment.x402.authorize"
      target := ⟨.agent, some auth.agent_id⟩
      context }

def policyEffectOf : PolicyDecisionValue → Payments.PolicyEffect
  | .allow => .allow
  | .observe => .observe
  | .approvalRequired => .approvalRequired
  | .deny => .deny

def enforceX402Policy (store : PolicyStore) (auth : ConnectionAuthResult) (account : Payments.AgentPaymentAccountRow)
    (quote : Payments.RuntimeQuote) (context : JsonObject) (decisionId : DecisionId) : Except Failure Bool := do
  let result ← (x402Check auth context).decide store
  Payments.enforceX402Policy account quote
    { id := decisionId, decision := policyEffectOf result.decision, reasonCode := result.reasonCode
      explanation := result.explanation }

def runtimeActionIds : List String := ["runtime.http.request", "payment.x402.authorize", "tool.call"]

inductive NormalizedRuntimeRequest where
  | complete (action : String) (context : JsonObject)
  | incomplete (action : Option String) (missingFields : List String) (explanation : String)

def NormalizedRuntimeRequest.action? : NormalizedRuntimeRequest → Option String
  | .complete action _ => some action
  | .incomplete action _ _ => action

inductive RuntimeDecision where
  | needsMoreInfo (missingFields : List String) (explanation : String)
  | decided (result : PolicyDecisionResult)

def supportedRuntimeAction (normalized : NormalizedRuntimeRequest) : Except Failure Unit :=
  if normalized.action?.all (· ∈ runtimeActionIds) then .ok ()
  else
    .error (badRequest "unsupported_runtime_action"
      "Agent runtime checks only support HTTP requests, x402 authorization, and tool calls.")

def runtimeCheck (auth : ConnectionAuthResult) (action : String) (context : JsonObject) : PolicyCheck where
  orgId := auth.org_id
  request :=
    { actor := { type := .connection, id := some auth.connection_id }
      action
      target := ⟨.agent, some auth.agent_id⟩
      context }

/-- `checkRuntimePolicy`, up to the approval it may ask for -/
def checkRuntimePolicy (store : PolicyStore) (auth : ConnectionAuthResult) (normalized : NormalizedRuntimeRequest) :
    Except Failure RuntimeDecision := do
  supportedRuntimeAction normalized
  match normalized with
  | .incomplete _ missingFields explanation => .ok (.needsMoreInfo missingFields explanation)
  | .complete action context => (runtimeCheck auth action context).decide store >>= fun result => .ok (.decided result)

structure OperatorContext where
  actorId : ActorId
  role : Role

structure OperationCheckInput where
  agent_id : AgentId
  connection_id : Option ConnectionId
  action : String
  /-- As `normalizedContext` leaves it -/
  context : JsonObject

def supportedOperationalActions : List String := ["runtime.http.request", "tool.call"]

def validateOperationalInput (input : OperationCheckInput) : Except Failure Unit :=
  if input.action ∉ supportedOperationalActions then
    .error (badRequest "unsupported_operational_action"
      "Section 5 operations support tool calls and external API requests.")
  else if input.action = "tool.call" ∧ stringAt (objectAt input.context "tool") "name" = none then
    .error (badRequest "operation_needs_more_info" "Tool operation checks require tool.name.")
  else if input.action = "runtime.http.request" ∧ stringAt (objectAt input.context "resource") "url" = none ∧
      stringAt (objectAt input.context "resource") "category" = none then
    .error (badRequest "operation_needs_more_info"
      "External API operation checks require resource.url or resource.category.")
  else .ok ()

def getAgentScope (store : PolicyStore) (orgId : OrgId) (agentId : AgentId) : Except Failure AgentRow :=
  match store.agent? orgId agentId with
  | some agent => .ok agent
  | none => .error (notFound "Agent was not found.")

def assertConnectionBelongsToAgent (store : PolicyStore) (orgId : OrgId) (agentId : AgentId)
    (connectionId : ConnectionId) : Except Failure Unit :=
  if (store.connection? orgId connectionId).any fun connection =>
      connection.agent_id = agentId ∧ connection.status = .active then .ok ()
  else .error (notFound "Connection was not found.")

def operationActor (operator : OperatorContext) : Option ConnectionId → PolicyActor
  | none => { type := .user, id := some operator.actorId, role := some operator.role }
  | some connectionId => { type := .connection, id := some connectionId, role := some .member }

/-- `checkOperation`, up to its policy decision -/
def operationCheck (store : PolicyStore) (operator : OperatorContext) (orgId : OrgId) (input : OperationCheckInput) :
    Except Failure PolicyCheck := do
  validateOperationalInput input
  let _ ← getAgentScope store orgId input.agent_id
  input.connection_id.forM (assertConnectionBelongsToAgent store orgId input.agent_id)
  .ok
    { orgId
      request :=
        { actor := operationActor operator input.connection_id
          action := input.action
          target := ⟨.agent, some input.agent_id⟩
          context := input.context } }

def runtimeOperationCheck (store : PolicyStore) (auth : ConnectionAuthResult) (action : String) (context : JsonObject) :
    Except Failure PolicyCheck :=
  operationCheck store ⟨auth.connection_id, .member⟩ auth.org_id
    { agent_id := auth.agent_id, connection_id := some auth.connection_id, action, context }

def checkRuntimeOperation (store : PolicyStore) (auth : ConnectionAuthResult) (action : String) (context : JsonObject) :
    Except Failure PolicyDecisionResult := do
  let check ← runtimeOperationCheck store auth action context
  check.decide store

inductive EnforcementPath where
  | x402Payment (context : JsonObject)
  | runtimeCheck (action : String) (context : JsonObject)
  | operationCheck (action : String) (context : JsonObject)

def EnforcementPath.check (path : EnforcementPath) (store : PolicyStore) (auth : ConnectionAuthResult) :
    Except Failure PolicyCheck :=
  match path with
  | .x402Payment context => .ok (x402Check auth context)
  | .runtimeCheck action context => do
    supportedRuntimeAction (.complete action context)
    .ok (Policy.runtimeCheck auth action context)
  | .operationCheck action context => runtimeOperationCheck store auth action context

theorem target_of_check {path : EnforcementPath} {store : PolicyStore} {auth : ConnectionAuthResult}
    {check : PolicyCheck} (checked : path.check store auth = .ok check) :
    check.orgId = auth.org_id ∧ check.request.target = ⟨.agent, some auth.agent_id⟩ := by
  cases path with
  | x402Payment context =>
    cases checked
    exact ⟨rfl, rfl⟩
  | runtimeCheck action context =>
    simp only [EnforcementPath.check, bind_eq_ok] at checked
    obtain ⟨_, _, checked⟩ := checked
    cases checked
    exact ⟨rfl, rfl⟩
  | operationCheck action context =>
    simp only [EnforcementPath.check, runtimeOperationCheck, operationCheck, bind_eq_ok] at checked
    obtain ⟨_, _, _, _, _, _, checked⟩ := checked
    cases checked
    exact ⟨rfl, rfl⟩

def Bound (store : PolicyStore) (orgId : OrgId) (version : VersionKey) (target : BindingTarget) : Prop :=
  (store.activeVersion? orgId version).isSome ∧ store.activelyBound orgId version target = true

theorem activeVersion?_isSome {store : PolicyStore} {orgId : OrgId} {version : VersionKey} :
    (store.activeVersion? orgId version).isSome ↔
      ∃ row ∈ store.policyVersions, row.key = version ∧ row.org_id = orgId ∧ row.status = .active := by
  rw [Option.isSome_iff_exists]
  simp only [PolicyStore.activeVersion?, Option.filter_eq_some_iff, Table.find?_eq_some, decide_eq_true_eq]
  constructor
  · rintro ⟨row, ⟨member, keyed⟩, org, active⟩
    exact ⟨row, member, keyed, org, active⟩
  · rintro ⟨row, member, keyed, org, active⟩
    exact ⟨row, ⟨member, keyed⟩, org, active⟩

theorem exists_boundVersions {store : PolicyStore} {orgId : OrgId} {candidates : List BindingTarget}
    {version : VersionKey} {p : BindingTarget → Prop} :
    (∃ row ∈ store.boundVersions orgId candidates, row.1.key = version ∧ p row.2.target) ↔
      ∃ target ∈ candidates, p target ∧ Bound store orgId version target := by
  simp only [Bound, activeVersion?_isSome, PolicyStore.activelyBound, PolicyStore.boundVersions, List.any_eq_true,
    decide_eq_true_eq, Prod.exists, mem_join, List.mem_filter]
  constructor
  · rintro ⟨row, binding, ⟨⟨member, org, active⟩, bound, sameOrg, keyed, live, candidate⟩, rfl, holds⟩
    refine ⟨binding.target, candidate, holds, ⟨row, member, rfl, org, active⟩, binding, bound, live, ?_, keyed, rfl⟩
    rw [sameOrg, org]
  · rintro ⟨_, candidate, holds, ⟨row, member, rfl, org, active⟩, binding, bound, live, sameOrg, keyed, rfl⟩
    refine ⟨row, binding, ⟨⟨member, org, active⟩, bound, ?_, keyed, live, candidate⟩, rfl, holds⟩
    rw [sameOrg, org]

def evaluatedVersions (store : PolicyStore) (check : PolicyCheck) : Set VersionKey :=
  {version | ∃ policy ∈ store.effectivePoliciesForRequest check.orgId check.request,
    (policy.policyId, policy.version) = version}

def listedVersions (assignments : List PolicyStore.AgentPolicyAssignment) (connectionId : ConnectionId) :
    Set VersionKey :=
  {version | ∃ assignment ∈ assignments, (assignment.id, assignment.version) = version ∧
    (assignment.target.type = .connection → assignment.target.id = connectionId)}

theorem mem_evaluatedVersions {store : PolicyStore} {check : PolicyCheck} {version : VersionKey} :
    version ∈ evaluatedVersions store check ↔
      ∃ target ∈ store.targetBindingCandidates check.orgId check.request.target,
        Bound store check.orgId version target := by
  let candidates := store.targetBindingCandidates check.orgId check.request.target
  have bound : (∃ row ∈ store.boundVersions check.orgId candidates, row.1.key = version ∧ True) ↔
      ∃ target ∈ candidates, True ∧ Bound store check.orgId version target := exists_boundVersions (p := fun _ => True)
  simp only [true_and, and_true] at bound
  rw [← bound]
  simp only [evaluatedVersions, PolicyStore.effectivePoliciesForRequest, Set.mem_ofPred_eq, List.mem_map]
  constructor
  · rintro ⟨_, ⟨row, member, rfl⟩, rfl⟩
    exact ⟨row, mem_orderBy.1 (mem_of_mem_distinctOn _ member), rfl⟩
  · rintro ⟨row, member, rfl⟩
    have ordered : row ∈ orderBy PolicyStore.byVersion _ := mem_orderBy.2 member
    obtain ⟨kept, found, keyed⟩ :=
      exists_mem_distinctOn (fun row : PolicyVersionRow × PolicyBindingRow => row.1.key) ordered
    exact ⟨_, ⟨kept, found, rfl⟩, keyed⟩

end AgentOps.Policy
