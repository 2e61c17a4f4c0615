import AgentOps.Policy.Enforcement

namespace AgentOps.Policy
open Lib Identity

/-! # What is listed as effective for an agent, and what is enforced -/

/-- An active connection of an agent, as `authenticateConnection` finds it -/
structure Authenticated (store : PolicyStore) (auth : ConnectionAuthResult) : Prop where
  active : ∃ connection ∈ store.connections, connection.id = auth.connection_id ∧
    connection.org_id = auth.org_id ∧ connection.agent_id = auth.agent_id ∧ connection.status = .active

def agentTargets (auth : ConnectionAuthResult) (agent : AgentRow) : List BindingTarget :=
  [⟨.org, auth.org_id⟩, ⟨.team, agent.team_id⟩, ⟨.agent, auth.agent_id⟩]

theorem Authenticated.agent {store : PolicyStore} {auth : ConnectionAuthResult}
    (authenticated : Authenticated store auth) : ∃ agent, store.agent? auth.org_id auth.agent_id = some agent := by
  obtain ⟨connection, member, _, org, owner, _⟩ := authenticated.active
  obtain ⟨agent, placed, same, sameOrg⟩ := store.owned connection member
  refine ⟨agent, ?_⟩
  rw [PolicyStore.agent?, Option.filter_eq_some_iff, Table.find?_eq_some]
  exact ⟨⟨placed, same.trans owner⟩, by simp [sameOrg, org]⟩

theorem mem_activeConnections {store : PolicyStore} {orgId : OrgId} {agentId : AgentId} {connection : ConnectionRow} :
    connection ∈ store.activeConnections orgId agentId ↔ connection ∈ store.connections ∧
      connection.org_id = orgId ∧ connection.agent_id = agentId ∧ connection.status = .active := by
  simp [PolicyStore.activeConnections, Table.mem_def]

theorem targetBindingCandidates_agent {store : PolicyStore} {auth : ConnectionAuthResult} {agent : AgentRow}
    (found : store.agent? auth.org_id auth.agent_id = some agent) :
    store.targetBindingCandidates auth.org_id ⟨.agent, some auth.agent_id⟩ = agentTargets auth agent := by
  simp [PolicyStore.targetBindingCandidates, found, agentTargets]

theorem agentPolicyBindingCandidates_targets {store : PolicyStore} {auth : ConnectionAuthResult} {agent : AgentRow}
    (found : store.agent? auth.org_id auth.agent_id = some agent) :
    ∃ candidates, store.agentPolicyBindingCandidates auth.org_id auth.agent_id = .ok candidates ∧
      candidates.map (·.target) = agentTargets auth agent ++
        (store.activeConnections auth.org_id auth.agent_id).map fun connection => ⟨.connection, connection.id⟩ := by
  have row := found
  rw [PolicyStore.agent?, Option.filter_eq_some_iff, Table.find?_eq_some, decide_eq_true_eq] at row
  obtain ⟨⟨member, _⟩, inOrg⟩ := row
  obtain ⟨⟨org, orgMember, orgKey⟩, team, teamMember, teamKey, teamOrg⟩ := store.placed agent member
  have orgFound : store.org? agent.org_id = some org := Table.find?_eq_some.2 ⟨orgMember, orgKey⟩
  have teamFound : store.team? agent.org_id agent.team_id = some team := by
    rw [PolicyStore.team?, Option.filter_eq_some_iff, Table.find?_eq_some]
    exact ⟨⟨teamMember, teamKey⟩, by simp [teamOrg]⟩
  simp only [PolicyStore.agentPolicyBindingCandidates, found, orgFound, teamFound, Except.ok.injEq, exists_eq_left']
  simp [agentTargets, teamKey]

theorem mem_evaluatedVersions_of_path {path : EnforcementPath} {store : PolicyStore} {auth : ConnectionAuthResult}
    {agent : AgentRow} {check : PolicyCheck} {version : VersionKey} (checked : path.check store auth = .ok check)
    (found : store.agent? auth.org_id auth.agent_id = some agent) : version ∈ evaluatedVersions store check ↔
      ∃ target ∈ agentTargets auth agent, Bound store auth.org_id version target := by
  obtain ⟨org, target⟩ := target_of_check checked
  rw [mem_evaluatedVersions, org, target, targetBindingCandidates_agent found]

theorem mem_listedVersions {store : PolicyStore} {auth : ConnectionAuthResult} {agent : AgentRow}
    (authenticated : Authenticated store auth) (found : store.agent? auth.org_id auth.agent_id = some agent) :
    ∃ assignments, store.listAgentEffectivePolicies auth.org_id auth.agent_id = .ok assignments ∧
      ∀ version, version ∈ listedVersions assignments auth.connection_id ↔
        (∃ target ∈ agentTargets auth agent, Bound store auth.org_id version target) ∨
          Bound store auth.org_id version ⟨.connection, auth.connection_id⟩ := by
  obtain ⟨candidates, listed, targets⟩ := agentPolicyBindingCandidates_targets found
  refine ⟨_, by rw [PolicyStore.listAgentEffectivePolicies, listed]; rfl, fun version => ?_⟩
  have bound : (∃ row ∈ store.boundVersions auth.org_id (candidates.map (·.target)),
      row.1.key = version ∧ (row.2.target.type = .connection → row.2.target.id = auth.connection_id)) ↔
        ∃ target ∈ candidates.map (·.target), (target.type = .connection → target.id = auth.connection_id) ∧
          Bound store auth.org_id version target :=
    exists_boundVersions (p := fun target => target.type = .connection → target.id = auth.connection_id)
  have rows : version ∈ listedVersions ((orderBy PolicyStore.byTargetType
        (store.boundVersions auth.org_id (candidates.map (·.target)))).map (PolicyStore.assignmentOf candidates))
        auth.connection_id ↔ ∃ row ∈ store.boundVersions auth.org_id (candidates.map (·.target)),
          row.1.key = version ∧ (row.2.target.type = .connection → row.2.target.id = auth.connection_id) := by
    simp [listedVersions, PolicyStore.assignmentOf, PolicyVersionRow.key]
  rw [rows, bound, targets]
  constructor
  · rintro ⟨target, candidate, through, holds⟩
    obtain above | below := List.mem_append.1 candidate
    · exact .inl ⟨target, above, holds⟩
    · obtain ⟨connection, _, rfl⟩ := List.mem_map.1 below
      exact .inr (through rfl ▸ holds)
  · rintro (⟨target, above, holds⟩ | holds)
    · refine ⟨target, List.mem_append_left _ above, ?_, holds⟩
      intro isConnection
      simp only [agentTargets, List.mem_cons, List.not_mem_nil, or_false] at above
      obtain rfl | rfl | rfl := above <;> cases isConnection
    · obtain ⟨connection, member, key, org, owner, active⟩ := authenticated.active
      refine ⟨_, List.mem_append_right _ (List.mem_map.2 ⟨connection, ?_, rfl⟩), fun _ => key, key ▸ holds⟩
      exact mem_activeConnections.2 ⟨member, org, owner, active⟩

/-- Every version bound to the connection is bound to the organisation, the agent's team or the agent as well. -/
def BoundAboveConnection (store : PolicyStore) (auth : ConnectionAuthResult) : Prop :=
  ∀ version, Bound store auth.org_id version ⟨.connection, auth.connection_id⟩ →
    ∃ agent, store.agent? auth.org_id auth.agent_id = some agent ∧
      (Bound store auth.org_id version ⟨.org, auth.org_id⟩ ∨ Bound store auth.org_id version ⟨.team, agent.team_id⟩ ∨
        Bound store auth.org_id version ⟨.agent, auth.agent_id⟩)

/-- A check evaluates exactly what the listing shows for its connection, and no version that denies and is bound to
the connection is left out. -/
structure ListedEnforced (store : PolicyStore) (auth : ConnectionAuthResult) (check : PolicyCheck)
    (assignments : List PolicyStore.AgentPolicyAssignment) : Prop where
  listed : store.listAgentEffectivePolicies auth.org_id auth.agent_id = .ok assignments
  same : evaluatedVersions store check = listedVersions assignments auth.connection_id
  denies : ∀ row ∈ store.policyVersions, (∃ statement ∈ row.statements, statement.decision = .deny) →
    Bound store auth.org_id row.key ⟨.connection, auth.connection_id⟩ → row.key ∈ evaluatedVersions store check

theorem boundAbove_iff {store : PolicyStore} {auth : ConnectionAuthResult} {agent : AgentRow}
    (found : store.agent? auth.org_id auth.agent_id = some agent) : BoundAboveConnection store auth ↔
      ∀ version, Bound store auth.org_id version ⟨.connection, auth.connection_id⟩ →
        ∃ target ∈ agentTargets auth agent, Bound store auth.org_id version target := by
  simp [BoundAboveConnection, found, agentTargets]

theorem listedEnforced_boundAbove {store : PolicyStore} {auth : ConnectionAuthResult} {path : EnforcementPath}
    {check : PolicyCheck} (authenticated : Authenticated store auth) (checked : path.check store auth = .ok check) :
    (∃ assignments, ListedEnforced store auth check assignments) ↔ BoundAboveConnection store auth := by
  obtain ⟨agent, found⟩ := authenticated.agent
  obtain ⟨assignments, listed, listedIff⟩ := mem_listedVersions authenticated found
  rw [boundAbove_iff found]
  constructor
  · rintro ⟨assignments', enforced⟩ version bound
    have one : assignments' = assignments := Except.ok.inj (enforced.listed.symm.trans listed)
    have shown : version ∈ listedVersions assignments' auth.connection_id := one ▸ (listedIff version).2 (.inr bound)
    exact (mem_evaluatedVersions_of_path checked found).1 (enforced.same ▸ shown)
  · intro above
    have evaluated : ∀ version, Bound store auth.org_id version ⟨.connection, auth.connection_id⟩ →
        version ∈ evaluatedVersions store check :=
      fun version bound => (mem_evaluatedVersions_of_path checked found).2 (above version bound)
    refine ⟨assignments, listed, Set.ext fun version => ?_, fun row _ _ bound => evaluated row.key bound⟩
    rw [listedIff, mem_evaluatedVersions_of_path checked found]
    exact ⟨.inl, fun either => either.elim id (above version)⟩

theorem denies_of_evaluated {store : PolicyStore} {check : PolicyCheck} {row : PolicyVersionRow}
    {statement : PolicyStatement} {result : PolicyDecisionResult} (member : row ∈ store.policyVersions)
    (evaluated : row.key ∈ evaluatedVersions store check) (written : statement ∈ row.statements)
    (denies : statement.decision = .deny) (holds : matchesStatement statement check.request = true)
    (decided : check.decide store = .ok result) : result.decision = .deny := by
  obtain ⟨policy, policyMember, keyed⟩ := evaluated
  have statements : policy.statements = row.statements := by
    obtain ⟨⟨version, binding⟩, joined, rfl⟩ := List.mem_map.1 policyMember
    have kept := mem_orderBy.1 (mem_of_mem_distinctOn _ joined)
    simp only [PolicyStore.boundVersions, mem_join, List.mem_filter] at kept
    have same : version = row := Table.eq_of_key kept.1.1 member keyed
    rw [PolicyStore.effectivePolicyOf, same]
  simp only [PolicyCheck.decide, PolicyStore.checkPolicyDecision] at decided
  split at decided
  · cases decided
    exact evaluate_denies policyMember (statements ▸ written) holds denies _
  · cases decided

/-- What a check evaluates is what the listing shows, if and only if all that is bound to the connection is bound above it as well.
What is evaluated and denies is obeyed. -/
theorem listed_enforced_iff {store : PolicyStore} {auth : ConnectionAuthResult} {path : EnforcementPath}
    {check : PolicyCheck} (authenticated : Authenticated store auth) (checked : path.check store auth = .ok check) :
    ((∃ assignments, ListedEnforced store auth check assignments) ↔ BoundAboveConnection store auth) ∧
      ∀ row ∈ store.policyVersions, row.key ∈ evaluatedVersions store check → ∀ statement ∈ row.statements,
        statement.decision = .deny → matchesStatement statement check.request = true →
          ∀ result, check.decide store = .ok result → result.decision = .deny :=
  ⟨listedEnforced_boundAbove authenticated checked,
    fun _ member evaluated _ written denies holds _ => denies_of_evaluated member evaluated written denies holds⟩

namespace CredentialWorkspace

def auth : ConnectionAuthResult where
  org_id := 1
  agent_id := 3
  connection_id := 4

def denyEverything : PolicyVersionRow where
  policy_id := 7
  version := 1
  org_id := 1
  name := "Stop the credential"
  description := ""
  category := .operational
  status := .active
  statements := [{ id := "stop", decision := .deny, actions := ["*"] }]
  created_at := 0

def binding (id : PolicyBindingId) (target : BindingTarget) : PolicyBindingRow where
  id := id
  org_id := 1
  policy_id := 7
  policy_version := 1
  target := target
  status := .active
  created_at := 0

def workspace : PolicyStore where
  orgs := .singleton ⟨1, "Workspace", .allow⟩
  teams := .singleton ⟨2, 1, "Team"⟩
  agents := .singleton ⟨3, 1, 2, "Agent"⟩
  connections := .singleton ⟨4, 1, 3, "Credential", .active, 0⟩
  policyActionRegistry :=
    ⟨[⟨"payment.x402.authorize", [.org, .team, .agent]⟩, ⟨"tool.call", [.org, .team, .agent]⟩], by decide⟩
  policyVersions := .singleton denyEverything
  policyBindings := .empty
  placed := by simp [Table.singleton, Table.mem_def]
  owned := by simp [Table.singleton, Table.mem_def]

def boundToCredential : PolicyStore :=
  { workspace with policyBindings := .singleton (binding 8 ⟨.connection, 4⟩) }

def boundToBoth : PolicyStore :=
  { workspace with policyBindings := ⟨[binding 8 ⟨.connection, 4⟩, binding 9 ⟨.agent, 3⟩], by decide⟩ }

def toolContext : JsonObject := [("tool", .object [("name", .string "browser.search")])]

def paths : List EnforcementPath :=
  [.x402Payment [], .runtimeCheck "tool.call" toolContext, .operationCheck "tool.call" toolContext]

theorem authenticated_boundToCredential : Authenticated boundToCredential auth where
  active := ⟨⟨4, 1, 3, "Credential", .active, 0⟩, List.mem_cons_self, rfl, rfl, rfl, rfl⟩

theorem boundToCredential_listed : ∃ assignments, boundToCredential.listAgentEffectivePolicies 1 3 = .ok assignments ∧
    (7, 1) ∈ listedVersions assignments 4 := by
  refine ⟨[⟨7, 1, "Stop the credential", "", .operational, 8, .credential, ⟨.connection, 4⟩, "Credential"⟩], rfl, ?_⟩
  exact ⟨_, List.mem_cons_self, rfl, fun _ => rfl⟩

end CredentialWorkspace

open CredentialWorkspace in
/-- `bindPolicy` lets a policy that denies every action be bound to a credential, it is listed, and each of the three
paths allows what it denies. -/
theorem credential_denial_ignored : workspace.bindPolicy 1 7 ⟨1, ⟨.connection, 4⟩⟩ 8 0 = .ok boundToCredential ∧
    Authenticated boundToCredential auth ∧ ∀ path ∈ paths, ∃ check result,
      path.check boundToCredential auth = .ok check ∧ check.decide boundToCredential = .ok result ∧
        result.decision = .allow ∧ ¬∃ assignments, ListedEnforced boundToCredential auth check assignments := by
  refine ⟨rfl, authenticated_boundToCredential, fun path member => ?_⟩
  have ignored : ∀ check : PolicyCheck, boundToCredential.effectivePoliciesForRequest check.orgId check.request = [] →
      ¬∃ assignments, ListedEnforced boundToCredential auth check assignments := by
    rintro check none ⟨assignments, enforced⟩
    obtain ⟨listed, found, shown⟩ := boundToCredential_listed
    have same : assignments = listed := Except.ok.inj (enforced.listed.symm.trans found)
    have evaluated : (7, 1) ∈ evaluatedVersions boundToCredential check := by
      rw [enforced.same, same]
      exact shown
    simp [evaluatedVersions, none] at evaluated
  simp only [paths, List.mem_cons, List.not_mem_nil, or_false] at member
  obtain rfl | rfl | rfl := member
  · exact ⟨_, _, rfl, rfl, rfl, ignored _ rfl⟩
  · exact ⟨_, _, rfl, rfl, rfl, ignored _ rfl⟩
  · exact ⟨_, _, rfl, rfl, rfl, ignored _ rfl⟩

open CredentialWorkspace in
theorem denial_bound_twice_enforced : ∃ assignments,
    ListedEnforced boundToBoth auth (x402Check auth []) assignments := by
  have authenticated : Authenticated boundToBoth auth :=
    ⟨⟨4, 1, 3, "Credential", .active, 0⟩, List.mem_cons_self, rfl, rfl, rfl, rfl⟩
  have checked : (EnforcementPath.x402Payment []).check boundToBoth auth = .ok (x402Check auth []) := rfl
  refine (listed_enforced_iff authenticated checked).1.2 fun version bound => ?_
  refine ⟨⟨3, 1, 2, "Agent"⟩, rfl, .inr (.inr ?_)⟩
  have only : version = (7, 1) := by
    have bindings := bound.2
    simp [PolicyStore.activelyBound, boundToBoth, binding, PolicyBindingRow.versionKey, auth] at bindings
    exact bindings.symm
  subst only
  exact ⟨rfl, rfl⟩

end AgentOps.Policy
