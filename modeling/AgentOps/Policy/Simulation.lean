import AgentOps.Policy.DecisionMeaning
import AgentOps.Policy.EffectiveBindings
import AgentOps.Policy.Lifecycle

namespace AgentOps.Policy
open Lib Identity

/-! # What a simulation says of a draft, and what the policy decides once it is bound -/

def simulatePolicyDraft (store : PolicyStore) (policyDrafts : Table PolicyDraftRow.id) (orgId : OrgId) (draftId : PolicyDraftId)
    (request : PolicyDecisionRequest) : Except Failure PolicyDecisionResult :=
  if (store.policyActionRegistry.find? request.action).isSome then
    match (policyDrafts.find? draftId).filter (·.org_id = orgId) with
    | none => .error (notFound "Policy draft was not found.")
    | some draft =>
      if draft.status = .discarded then
        .error (badRequest "policy_draft_discarded" "Discarded drafts cannot be simulated.")
      else
        .ok (evaluatePolicyDecision request
          [{ policyId := draft.id, version := 0, name := draft.name, statements := draft.statements }]
          (store.orgDefaultPolicyEffect orgId))
  else .error (badRequest "unknown_policy_action" "Policy action is not registered.")

def PolicyDecisionResult.combine (result other : PolicyDecisionResult) : PolicyDecisionValue :=
  if result.matched = [] then other.decision
  else if other.matched = [] then result.decision
  else stricter result.decision other.decision

variable {request : PolicyDecisionRequest} {policies policies' both : List EffectivePolicy} {defaultEffect : PolicyDefaultEffect}
variable {store store' : PolicyStore} {orgId : OrgId} {policyId : PolicyId} {statement : PolicyStatement}

theorem evaluate_unmatched : (evaluatePolicyDecision request policies defaultEffect).matched = [] ↔
    ¬∃ statement, Relevant request policies statement := by
  rw [← matches_isEmpty, List.isEmpty_iff]
  by_cases none : policies.flatMap (matchesOf request) = []
  · simp only [evaluatePolicyDecision, none, List.isEmpty_nil, if_true, iff_true]
    split <;> rfl
  · have nonempty : (policies.flatMap (matchesOf request)).isEmpty = false := by simpa using none
    simp only [evaluatePolicyDecision, nonempty, Bool.false_eq_true, if_false]

theorem rank_stricter (decision other : PolicyDecisionValue) :
    decisionRank (stricter decision other) = max (decisionRank decision) (decisionRank other) := by
  unfold stricter
  split <;> omega

theorem eq_evaluate {decision : PolicyDecisionValue}
    (attained : ∃ statement, Relevant request policies statement ∧ statement.decision = decision)
    (bounds : ∀ statement, Relevant request policies statement → decisionRank statement.decision ≤ decisionRank decision) :
    decision = (evaluatePolicyDecision request policies defaultEffect).decision := by
  obtain ⟨statement, relevant, rfl⟩ := attained
  obtain ⟨⟨other, relevant', same⟩, above⟩ := @evaluate_strictest request policies defaultEffect ⟨statement, relevant⟩
  refine decisionRank_injective (Nat.le_antisymm (above statement relevant) ?_)
  rw [← same]
  exact bounds other relevant'

theorem evaluate_authored (same : ∀ statement, Authored policies statement ↔ Authored policies' statement) :
    (evaluatePolicyDecision request policies defaultEffect).decision =
      (evaluatePolicyDecision request policies' defaultEffect).decision := by
  have relevant (statement : PolicyStatement) : Relevant request policies statement ↔ Relevant request policies' statement := by
    simp only [Relevant, same]
  by_cases some : ∃ statement, Relevant request policies statement
  · obtain ⟨⟨strict, isRelevant, decides⟩, above⟩ := @evaluate_strictest request policies defaultEffect some
    exact eq_evaluate ⟨strict, (relevant strict).mp isRelevant, decides⟩ fun statement member =>
      above statement ((relevant statement).mpr member)
  · rw [evaluate_none some, evaluate_none (by simpa only [relevant] using some)]

/-- Policies are decided together as their answers combine, in whatever order they come. -/
theorem evaluate_union
    (union : ∀ statement, Authored both statement ↔ Authored policies statement ∨ Authored policies' statement) :
    (evaluatePolicyDecision request both defaultEffect).decision =
      (evaluatePolicyDecision request policies defaultEffect).combine (evaluatePolicyDecision request policies' defaultEffect) := by
  have relevant (statement : PolicyStatement) : Relevant request both statement ↔
      Relevant request policies statement ∨ Relevant request policies' statement := by
    simp only [Relevant, union, or_and_right]
  unfold PolicyDecisionResult.combine
  by_cases first : ∃ statement, Relevant request policies statement
  · rw [if_neg (mt evaluate_unmatched.mp (not_not.mpr first))]
    obtain ⟨⟨strict, isRelevant, decides⟩, above⟩ := @evaluate_strictest request policies defaultEffect first
    by_cases second : ∃ statement, Relevant request policies' statement
    · rw [if_neg (mt evaluate_unmatched.mp (not_not.mpr second))]
      obtain ⟨⟨strict', isRelevant', decides'⟩, above'⟩ := @evaluate_strictest request policies' defaultEffect second
      refine (eq_evaluate ?_ fun statement member => ?_).symm
      · rw [← decides, ← decides']
        unfold stricter
        split
        · exact ⟨strict', (relevant _).mpr (.inr isRelevant'), rfl⟩
        · exact ⟨strict, (relevant _).mpr (.inl isRelevant), rfl⟩
      · rw [rank_stricter]
        rcases (relevant statement).mp member with here | there
        · exact le_max_of_le_left (above statement here)
        · exact le_max_of_le_right (above' statement there)
    · rw [if_pos (evaluate_unmatched.mpr second)]
      refine (eq_evaluate ⟨strict, (relevant _).mpr (.inl isRelevant), decides⟩ fun statement member => ?_).symm
      rcases (relevant statement).mp member with here | there
      · exact above statement here
      · exact absurd ⟨statement, there⟩ second
  · rw [if_pos (evaluate_unmatched.mpr first)]
    by_cases second : ∃ statement, Relevant request policies' statement
    · obtain ⟨⟨strict', isRelevant', decides'⟩, above'⟩ := @evaluate_strictest request policies' defaultEffect second
      refine (eq_evaluate ⟨strict', (relevant _).mpr (.inr isRelevant'), decides'⟩ fun statement member => ?_).symm
      rcases (relevant statement).mp member with here | there
      · exact absurd ⟨statement, here⟩ first
      · exact above' statement there
    · have third : ¬∃ statement, Relevant request both statement := by
        rintro ⟨statement, member⟩
        rcases (relevant statement).mp member with here | there
        · exact first ⟨statement, here⟩
        · exact second ⟨statement, there⟩
      rw [evaluate_none third, evaluate_none second]

theorem authored_effective : Authored (store.effectivePoliciesForRequest orgId request) statement ↔
    ∃ row ∈ store.policyVersions, statement ∈ row.statements ∧
      ∃ target ∈ store.targetBindingCandidates orgId request.target, Bound store orgId row.key target := by
  have evaluated (version : VersionKey) := @mem_evaluatedVersions store ⟨orgId, request⟩ version
  have joined {policy : EffectivePolicy} (member : policy ∈ store.effectivePoliciesForRequest orgId request) :
      ∃ row ∈ store.policyVersions, policy = PolicyStore.effectivePolicyOf row := by
    obtain ⟨⟨row, binding⟩, kept, rfl⟩ := List.mem_map.mp member
    have bound := mem_orderBy.mp (mem_of_mem_distinctOn _ kept)
    simp only [PolicyStore.boundVersions, mem_join, List.mem_filter] at bound
    exact ⟨row, bound.1.1, rfl⟩
  constructor
  · rintro ⟨policy, member, written⟩
    obtain ⟨row, present, rfl⟩ := joined member
    exact ⟨row, present, written, (evaluated row.key).mp ⟨_, member, rfl⟩⟩
  · rintro ⟨row, present, written, bound⟩
    obtain ⟨policy, member, keyed⟩ := (evaluated row.key).mpr bound
    obtain ⟨row', present', rfl⟩ := joined member
    obtain rfl : row' = row := Table.eq_of_key present' present keyed
    exact ⟨_, member, written⟩

theorem bindPolicy_ok {input : PolicyStore.BindPolicyInput} {bindingId : PolicyBindingId} {now : Time}
    (made : store.bindPolicy orgId policyId input bindingId now = .ok store') :
    (store.activeVersion? orgId (policyId, input.policy_version)).isSome ∧ ∃ bindings,
      store.policyBindings.insert? ⟨bindingId, orgId, policyId, input.policy_version, input.target, .active, now⟩ = some bindings ∧
        store' = { store with policyBindings := bindings } := by
  unfold PolicyStore.bindPolicy at made
  split at made
  · cases made
  · rename_i row found
    obtain ⟨_, -, made⟩ := bind_eq_ok.mp made
    obtain ⟨_, -, made⟩ := bind_eq_ok.mp made
    split at made
    · cases made
    · split at made
      · cases made
      · rename_i bindings inserted
        exact ⟨by rw [found]; rfl, bindings, inserted, (Except.ok.inj made).symm⟩

theorem bound_bindPolicy {input : PolicyStore.BindPolicyInput} {bindingId : PolicyBindingId} {now : Time}
    (made : store.bindPolicy orgId policyId input bindingId now = .ok store') {version : VersionKey} {target : BindingTarget} :
    Bound store' orgId version target ↔
      Bound store orgId version target ∨ version = (policyId, input.policy_version) ∧ target = input.target := by
  obtain ⟨active, bindings, inserted, rfl⟩ := bindPolicy_ok made
  have rows := (Table.insert?_eq_some inserted).1
  have versions : PolicyStore.activeVersion? { store with policyBindings := bindings } orgId version =
      store.activeVersion? orgId version := rfl
  simp only [Bound, versions, PolicyStore.activelyBound, rows, List.any_cons, Bool.or_eq_true, decide_eq_true_eq,
    PolicyBindingRow.versionKey, true_and]
  constructor
  · rintro ⟨isActive, ⟨rfl, rfl⟩ | earlier⟩
    · exact .inr ⟨rfl, rfl⟩
    · exact .inl ⟨isActive, earlier⟩
  · rintro (⟨isActive, earlier⟩ | ⟨rfl, rfl⟩)
    · exact ⟨isActive, .inr earlier⟩
    · exact ⟨active, .inl ⟨rfl, rfl⟩⟩

/-- Once a draft is a version and the version is bound, a request on the target is decided as before and as its simulation
said, combined; other requests are decided as before. -/
theorem simulation_predicts {policyDrafts : Table PolicyDraftRow.id} {draft : PolicyDraftRow} {version : PolicyVersionRow}
    {input : PolicyStore.BindPolicyInput} {bindingId : PolicyBindingId} {now : Time} {before simulated : PolicyDecisionResult}
    (drafted : draft ∈ policyDrafts) (simulates : simulatePolicyDraft store policyDrafts orgId draft.id request = .ok simulated)
    (stored : store.policyVersions.find? (policyId, input.policy_version) = some version)
    (activated : version.statements = draft.statements) (decided : store.checkPolicyDecision orgId request = .ok before)
    (made : store.bindPolicy orgId policyId input bindingId now = .ok store') :
    ∃ after, store'.checkPolicyDecision orgId request = .ok after ∧ after.decision =
      if input.target ∈ store.targetBindingCandidates orgId request.target then before.combine simulated else before.decision := by
  obtain ⟨-, bindings, -, rfl⟩ := bindPolicy_ok made
  unfold PolicyStore.checkPolicyDecision at decided
  split at decided
  · rename_i registered
    obtain rfl := Except.ok.inj decided
    have said : simulated = evaluatePolicyDecision request
        [{ policyId := draft.id, version := 0, name := draft.name, statements := draft.statements }]
        (store.orgDefaultPolicyEffect orgId) := by
      unfold simulatePolicyDraft at simulates
      rw [if_pos registered, Table.find?_of_mem drafted] at simulates
      split at simulates
      · cases simulates
      · rename_i found
        obtain ⟨same, -⟩ := Option.filter_eq_some_iff.mp found
        obtain rfl := Option.some.inj same
        split at simulates
        · cases simulates
        · exact (Except.ok.inj simulates).symm
    have authored (statement : PolicyStatement) : Authored
        (PolicyStore.effectivePoliciesForRequest { store with policyBindings := bindings } orgId request) statement ↔
          Authored (store.effectivePoliciesForRequest orgId request) statement ∨
            input.target ∈ store.targetBindingCandidates orgId request.target ∧ statement ∈ draft.statements := by
      rw [authored_effective, authored_effective]
      simp only [bound_bindPolicy made]
      constructor
      · rintro ⟨row, present, written, target, candidate, earlier | ⟨keyed, rfl⟩⟩
        · exact .inl ⟨row, present, written, target, candidate, earlier⟩
        · obtain rfl : row = version := Option.some.inj ((Table.find?_of_mem present).symm.trans (keyed ▸ stored))
          exact .inr ⟨candidate, activated ▸ written⟩
      · rintro (⟨row, present, written, target, candidate, earlier⟩ | ⟨candidate, written⟩)
        · exact ⟨row, present, written, target, candidate, .inl earlier⟩
        · exact ⟨version, Table.mem_of_find? stored, activated ▸ written, input.target, candidate,
            .inr ⟨Table.key_of_find? stored, rfl⟩⟩
    refine ⟨_, by rw [PolicyStore.checkPolicyDecision, if_pos registered], ?_⟩
    rw [said]
    split
    · rename_i candidate
      refine evaluate_union fun statement => ?_
      rw [authored]
      simp [Authored, candidate]
    · rename_i other
      refine evaluate_authored fun statement => ?_
      rw [authored]
      simp [other]
  · cases decided

def denialDraft : PolicyDraftRow :=
  createdDraft 1 5 ⟨"Stop the credential", none, .operational, [{ id := "stop", decision := .deny, actions := ["*"] }]⟩

def toolRequest : PolicyDecisionRequest := ⟨⟨.agent, none, none⟩, "tool.call", ⟨.agent, some 3⟩, []⟩

theorem simulation_predicts_denial : ∃ before simulated store' after,
    simulatePolicyDraft CredentialWorkspace.workspace (.singleton denialDraft) 1 5 toolRequest = .ok simulated ∧
    simulated.decision = .deny ∧
    CredentialWorkspace.workspace.checkPolicyDecision 1 toolRequest = .ok before ∧ before.decision = .allow ∧
    CredentialWorkspace.workspace.bindPolicy 1 7 ⟨1, ⟨.agent, 3⟩⟩ 8 0 = .ok store' ∧
    store'.checkPolicyDecision 1 toolRequest = .ok after ∧
    after.decision = if ⟨.agent, 3⟩ ∈ CredentialWorkspace.workspace.targetBindingCandidates 1 toolRequest.target
      then before.combine simulated else before.decision := by
  have simulates : simulatePolicyDraft CredentialWorkspace.workspace (.singleton denialDraft) 1 denialDraft.id toolRequest =
      .ok ⟨.deny, reasonCode .deny, explanation .deny, [⟨5, 0, "Stop the credential", "stop", .deny⟩]⟩ := rfl
  have decided : CredentialWorkspace.workspace.checkPolicyDecision 1 toolRequest =
      .ok ⟨.allow, reasonCode .allow, explanation .allow, []⟩ := rfl
  have made : CredentialWorkspace.workspace.bindPolicy 1 7 ⟨1, ⟨.agent, 3⟩⟩ 8 0 =
      .ok { CredentialWorkspace.workspace with policyBindings := .singleton (CredentialWorkspace.binding 8 ⟨.agent, 3⟩) } := rfl
  obtain ⟨after, checked, combined⟩ := simulation_predicts List.mem_cons_self simulates rfl rfl decided made
  exact ⟨_, _, _, after, simulates, rfl, decided, rfl, made, checked, combined⟩

end AgentOps.Policy
