import AgentOps.Policy.DecisionMeaning
import AgentOps.Policy.Store
import AgentOps.Policy.Validator

namespace AgentOps.Policy
open Lib Identity

/-! # Requests that differ in their recipient -/

/-- A policy is known by its version, a statement of it by its id. -/
structure Identified (policies : List EffectivePolicy) : Prop where
  policy : ∀ policy ∈ policies, ∀ policy' ∈ policies, policy.policyId = policy'.policyId → policy.version = policy'.version →
    policy = policy'
  statement : ∀ policy ∈ policies, ∀ statement ∈ policy.statements, ∀ statement' ∈ policy.statements,
    statement.id = statement'.id → statement = statement'

theorem valid_injective {knownActions : String → Bool} {actionConditionGroups : String → List PolicyConditionGroup}
    {statements : List PolicyStatement} (valid : (validatePolicyStatements knownActions actionConditionGroups statements).valid = true)
    {statement statement' : PolicyStatement} (member : statement ∈ statements) (member' : statement' ∈ statements)
    (same : statement.id = statement'.id) : statement = statement' := by
  simp only [validatePolicyStatements, List.isEmpty_iff, List.append_eq_nil_iff, List.flatMap_eq_nil_iff] at valid
  have unlisted {index : Nat} (inside : index < statements.length) {earlier : Nat} (before : earlier < index) :
      statements[earlier].id ≠ statements[index].id := by
    intro repeated
    have none := valid.2 (statements[index], index) (List.mk_mem_zipIdx_iff_getElem?.mpr (List.getElem?_eq_getElem inside))
    simp only [PolicyStatement.errors, PolicyStatement.identityErrors, List.append_eq_nil_iff] at none
    have known : (statements.take index).any (·.id = statements[index].id) = true := by
      rw [List.any_eq_true]
      exact ⟨statements[earlier], List.mem_take_iff_getElem.mpr ⟨earlier, by omega, rfl⟩, by simpa using repeated⟩
    replace none := none.1.1.1.1.1
    simp only [known, if_true] at none
    split at none <;> cases none
  obtain ⟨index, inside, rfl⟩ := List.getElem_of_mem member
  obtain ⟨index', inside', rfl⟩ := List.getElem_of_mem member'
  rcases lt_trichotomy index index' with before | rfl | after
  · exact absurd same (unlisted inside' before)
  · rfl
  · exact absurd same.symm (unlisted inside after)

theorem effectivePolicies_identified {store : PolicyStore} {orgId : OrgId} {request : PolicyDecisionRequest}
    (checked : ∀ policy ∈ store.effectivePoliciesForRequest orgId request, ∃ knownActions actionConditionGroups,
      (validatePolicyStatements knownActions actionConditionGroups policy.statements).valid = true) :
    Identified (store.effectivePoliciesForRequest orgId request) where
  policy := by
    intro policy member policy' member' id version
    obtain ⟨row, found, rfl⟩ := List.mem_map.mp member
    obtain ⟨row', found', rfl⟩ := List.mem_map.mp member'
    rw [distinctOn_injective _ found found' (Prod.ext id version)]
  statement := by
    intro policy member statement written statement' written' same
    obtain ⟨_, _, valid⟩ := checked policy member
    exact valid_injective valid written written' same

variable {request request' : PolicyDecisionRequest} {policies : List EffectivePolicy} {defaultEffect : PolicyDefaultEffect}

theorem evaluate_matched :
    (evaluatePolicyDecision request policies defaultEffect).matched = policies.flatMap (matchesOf request) := by
  by_cases none : (policies.flatMap (matchesOf request)).isEmpty = true
  · simp only [evaluatePolicyDecision, none, if_true]
    split <;> exact (List.isEmpty_iff.mp none).symm
  · simp only [evaluatePolicyDecision, none, Bool.false_eq_true, if_false]

theorem evaluate_congr (same : ∀ statement, Authored policies statement → (Applies statement request ↔ Applies statement request')) :
    evaluatePolicyDecision request policies defaultEffect = evaluatePolicyDecision request' policies defaultEffect := by
  have matched : policies.flatMap (matchesOf request) = policies.flatMap (matchesOf request') := by
    refine List.flatMap_congr fun policy member => congrArg _ (List.filter_congr fun statement written => ?_)
    rw [Bool.eq_iff_iff, matchesStatement_iff, matchesStatement_iff]
    exact same statement ⟨policy, member, written⟩
  simp only [evaluatePolicyDecision, matched]

theorem applies_of_evaluate (identified : Identified policies)
    (same : evaluatePolicyDecision request policies defaultEffect = evaluatePolicyDecision request' policies defaultEffect)
    {statement : PolicyStatement} (authored : Authored policies statement) (applies : Applies statement request) :
    Applies statement request' := by
  have matched := congrArg (·.matched) same
  simp only [evaluate_matched] at matched
  obtain ⟨policy, member, written⟩ := authored
  have found := mem_matches.mpr ⟨policy, member, statement, written, matchesStatement_iff.mpr applies, rfl⟩
  rw [matched] at found
  obtain ⟨policy', member', statement', written', holds, record⟩ := mem_matches.mp found
  simp only [PolicyDecisionMatch.mk.injEq] at record
  obtain ⟨id, version, -, statementId, -⟩ := record
  obtain rfl := identified.policy policy member policy' member' id version
  obtain rfl := identified.statement policy member statement written statement' written' statementId
  exact matchesStatement_iff.mp holds

theorem evaluate_eq_iff (identified : Identified policies) :
    evaluatePolicyDecision request policies defaultEffect = evaluatePolicyDecision request' policies defaultEffect ↔
      ∀ statement, Authored policies statement → (Applies statement request ↔ Applies statement request') :=
  ⟨fun same _ authored => ⟨applies_of_evaluate identified same authored, applies_of_evaluate identified same.symm authored⟩,
    evaluate_congr⟩

def PaymentCondition.anyRecipient (condition : PaymentCondition) : PaymentCondition := { condition with recipients := none }

def PolicyStatementConditions.anyRecipient (conditions : PolicyStatementConditions) : PolicyStatementConditions :=
  { conditions with payment := conditions.payment.map (·.anyRecipient) }

namespace PolicyStatement

def anyRecipient (statement : PolicyStatement) : PolicyStatement :=
  { statement with conditions := statement.conditions.map (·.anyRecipient) }

def recipients (statement : PolicyStatement) : List String :=
  (((statement.conditions.bind (·.payment)).bind (·.recipients)).getD [])

end PolicyStatement

theorem admits_some {α : Type} {listed : Option (List α)} {value : α} :
    Admits listed (some value) ↔ (listed.getD [] ≠ [] → value ∈ listed.getD []) := by
  cases listed <;> simp [Admits]

theorem paymentHolds_recipient {condition : PaymentCondition} {context : JsonObject} {recipient : String}
    (paid : stringAt (objectAt context "payment") "recipient" = some recipient) :
    PaymentHolds condition context ↔ PaymentHolds condition.anyRecipient context ∧
      (condition.recipients.getD [] ≠ [] → recipient ∈ condition.recipients.getD []) := by
  have anyone : Admits condition.anyRecipient.recipients (some recipient) := by
    intro listed absent
    cases absent
  simp only [PaymentHolds, paid, ← admits_some, anyone, and_true, and_assoc]
  rfl

theorem anyRecipient_conditions {statement : PolicyStatement} {holds : PolicyStatementConditions → Prop}
    (unread : ∀ conditions, holds (PolicyStatementConditions.anyRecipient conditions) ↔ holds conditions) :
    (∀ conditions ∈ statement.anyRecipient.conditions, holds conditions) ↔ ∀ conditions ∈ statement.conditions, holds conditions := by
  simp only [PolicyStatement.anyRecipient, Option.mem_map, forall_exists_index, and_imp, forall_apply_eq_imp_iff₂, unread]

theorem payment_recipient {statement : PolicyStatement} {context : JsonObject} {recipient : String}
    (paid : stringAt (objectAt context "payment") "recipient" = some recipient) :
    (∀ conditions ∈ statement.conditions, ∀ condition ∈ conditions.payment, PaymentHolds condition context) ↔
      (∀ conditions ∈ statement.anyRecipient.conditions, ∀ condition ∈ conditions.payment, PaymentHolds condition context) ∧
        (statement.recipients ≠ [] → recipient ∈ statement.recipients) := by
  simp only [PolicyStatement.anyRecipient, PolicyStatement.recipients]
  obtain _ | ⟨resource, _ | condition, tool⟩ := statement.conditions
  · simp
  · simp [PolicyStatementConditions.anyRecipient]
  · simpa [PolicyStatementConditions.anyRecipient] using paymentHolds_recipient paid

theorem applies_recipient {statement : PolicyStatement} {recipient : String}
    (paid : stringAt (objectAt request.context "payment") "recipient" = some recipient) :
    Applies statement request ↔ Applies statement.anyRecipient request ∧
      (statement.recipients ≠ [] → recipient ∈ statement.recipients) := by
  constructor
  · intro ⟨action, roles, types, ids, resource, payment, tool⟩
    obtain ⟨payment, listed⟩ := (payment_recipient paid).mp payment
    exact ⟨⟨action, roles, types, ids, (anyRecipient_conditions fun _ => Iff.rfl).mpr resource, payment,
      (anyRecipient_conditions fun _ => Iff.rfl).mpr tool⟩, listed⟩
  · intro ⟨⟨action, roles, types, ids, resource, payment, tool⟩, listed⟩
    exact ⟨action, roles, types, ids, (anyRecipient_conditions fun _ => Iff.rfl).mp resource,
      (payment_recipient paid).mpr ⟨payment, listed⟩, (anyRecipient_conditions fun _ => Iff.rfl).mp tool⟩

structure SameButRecipient (request request' : PolicyDecisionRequest) : Prop where
  actor : request'.actor = request.actor
  action : request'.action = request.action
  target : request'.target = request.target
  resource : objectAt request'.context "resource" = objectAt request.context "resource"
  tool : objectAt request'.context "tool" = objectAt request.context "tool"
  amount : numberAt (objectAt request'.context "payment") "amount" = numberAt (objectAt request.context "payment") "amount"
  asset : stringAt (objectAt request'.context "payment") "asset" = stringAt (objectAt request.context "payment") "asset"
  network : stringAt (objectAt request'.context "payment") "network" = stringAt (objectAt request.context "payment") "network"

theorem paymentHolds_anyRecipient (same : SameButRecipient request request') (condition : PaymentCondition) :
    PaymentHolds condition.anyRecipient request'.context ↔ PaymentHolds condition.anyRecipient request.context := by
  have anyone (recipient : Option String) : Admits condition.anyRecipient.recipients recipient := by
    intro listed absent
    cases absent
  simp only [PaymentHolds, same.amount, same.asset, same.network, anyone]

theorem applies_anyRecipient (same : SameButRecipient request request') (statement : PolicyStatement) :
    Applies statement.anyRecipient request' ↔ Applies statement.anyRecipient request := by
  have payment : (∀ conditions ∈ statement.anyRecipient.conditions, ∀ condition ∈ conditions.payment,
        PaymentHolds condition request'.context) ↔
      ∀ conditions ∈ statement.anyRecipient.conditions, ∀ condition ∈ conditions.payment, PaymentHolds condition request.context := by
    simp only [PolicyStatement.anyRecipient, PolicyStatementConditions.anyRecipient, Option.mem_map, forall_exists_index, and_imp,
      forall_apply_eq_imp_iff₂, paymentHolds_anyRecipient same]
  constructor
  · intro ⟨action, roles, types, ids, resource, paid, tool⟩
    simp only [same.action, same.actor, same.target, ResourceHolds, ToolHolds, same.resource, same.tool]
      at action roles types ids resource tool
    exact ⟨action, roles, types, ids, resource, payment.mp paid, tool⟩
  · intro ⟨action, roles, types, ids, resource, paid, tool⟩
    simp only [← same.action, ← same.actor, ← same.target, ResourceHolds, ToolHolds, ← same.resource, ← same.tool]
      at action roles types ids resource tool
    exact ⟨action, roles, types, ids, resource, payment.mpr paid, tool⟩

/-- Every authored statement that is otherwise about the payment lists both recipients or neither. -/
def ListedAlike (policies : List EffectivePolicy) (request : PolicyDecisionRequest) (recipient recipient' : String) : Prop :=
  ∀ statement, Authored policies statement → Applies statement.anyRecipient request →
    (recipient ∈ statement.recipients ↔ recipient' ∈ statement.recipients)

theorem evaluate_recipient_iff (same : SameButRecipient request request') (identified : Identified policies)
    {recipient recipient' : String}
    (paid : stringAt (objectAt request.context "payment") "recipient" = some recipient)
    (paid' : stringAt (objectAt request'.context "payment") "recipient" = some recipient') :
    evaluatePolicyDecision request policies defaultEffect = evaluatePolicyDecision request' policies defaultEffect ↔
      ListedAlike policies request recipient recipient' := by
  rw [evaluate_eq_iff identified]
  refine forall_congr' fun statement => imp_congr_right fun _ => ?_
  rw [applies_recipient paid, applies_recipient paid', applies_anyRecipient same, and_congr_right_iff]
  refine imp_congr_right fun _ => ?_
  by_cases none : statement.recipients = []
  · simp [none]
  · simp [none]

end AgentOps.Policy
