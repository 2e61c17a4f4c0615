import AgentOps.Identity.Ids
import AgentOps.Lib.JsNumber
import AgentOps.Lib.Json

namespace AgentOps.Policy
open Lib Identity

/-! # The policy decision engine -/

abbrev PolicyId := Nat

/-- A target of any type: organisations, teams, agents and connections share one space of texts here. -/
abbrev TargetId := Nat

inductive PolicyDecisionValue where
  | allow
  | observe
  | approvalRequired
  | deny
  deriving DecidableEq

inductive PolicyTargetType where
  | org
  | team
  | agent
  | connection
  deriving DecidableEq

inductive Role where
  | owner
  | admin
  | operator
  | auditor
  | viewer
  | member
  deriving DecidableEq

inductive PolicyActorType where
  | user
  | agent
  | connection
  | system
  deriving DecidableEq

structure ResourceCondition where
  categories : Option (List String) := none
  domains : Option (List String) := none
  deriving DecidableEq

structure PaymentCondition where
  minAmount : Option String := none
  maxAmount : Option String := none
  assets : Option (List String) := none
  networks : Option (List String) := none
  recipients : Option (List String) := none
  deriving DecidableEq

structure ToolCondition where
  names : Option (List String) := none
  riskLevels : Option (List String) := none
  deriving DecidableEq

structure PolicyStatementConditions where
  resource : Option ResourceCondition := none
  payment : Option PaymentCondition := none
  tool : Option ToolCondition := none
  deriving DecidableEq

structure PolicyStatement where
  id : String
  decision : PolicyDecisionValue
  actions : List String
  actorRoles : Option (List Role) := none
  targetTypes : Option (List PolicyTargetType) := none
  targetIds : Option (List TargetId) := none
  conditions : Option PolicyStatementConditions := none
  deriving DecidableEq

structure PolicyActor where
  type : PolicyActorType
  id : Option ActorId := none
  role : Option Role := none
  deriving DecidableEq

structure DecisionTarget where
  type : PolicyTargetType
  id : Option TargetId
  deriving DecidableEq

structure PolicyDecisionRequest where
  actor : PolicyActor
  action : String
  target : DecisionTarget
  context : JsonObject

structure EffectivePolicy where
  policyId : PolicyId
  version : Nat
  name : String
  statements : List PolicyStatement
  deriving DecidableEq

structure PolicyDecisionMatch where
  policyId : PolicyId
  policyVersion : Nat
  policyName : String
  statementId : String
  decision : PolicyDecisionValue
  deriving DecidableEq

inductive PolicyDefaultEffect where
  | deny
  | allow
  deriving DecidableEq

structure PolicyDecisionResult where
  decision : PolicyDecisionValue
  reasonCode : String
  explanation : String
  matched : List PolicyDecisionMatch
  deriving DecidableEq

def objectAt (value : JsonObject) (key : String) : JsonObject :=
  match value.field? key with
  | some (.object fields) => fields
  | _ => []

def stringAt (value : JsonObject) (key : String) : Option String :=
  (value.string? key).filter fun text => (trim text).length > 0

def numberAt (value : JsonObject) (key : String) : Option ℚ :=
  match value.field? key with
  | some (.number text) | some (.string text) => numberOf? text
  | _ => none

def includesIfPresent {α : Type} [DecidableEq α] (allowed : Option (List α)) (actual : Option α) : Bool :=
  match allowed with
  | none | some [] => true
  | some allowed => actual.any (· ∈ allowed)

def matchesResourceCondition (condition : ResourceCondition) (context : JsonObject) : Bool :=
  let resource := objectAt context "resource"
  includesIfPresent condition.categories (stringAt resource "category") &&
    includesIfPresent condition.domains (stringAt resource "domain")

/-- A bound that is no finite number admits nothing, and neither does an amount that is none. -/
def withinBound (bound : Option String) (amount : Option ℚ) (within : ℚ → ℚ → Bool) : Bool :=
  match bound with
  | none => true
  | some text =>
    match numberOf? text, amount with
    | some limit, some amount => within limit amount
    | _, _ => false

def matchesPaymentCondition (condition : PaymentCondition) (context : JsonObject) : Bool :=
  let payment := objectAt context "payment"
  let amount := numberAt payment "amount"
  withinBound condition.minAmount amount (fun minAmount amount => minAmount ≤ amount) &&
    withinBound condition.maxAmount amount (fun maxAmount amount => amount ≤ maxAmount) &&
    includesIfPresent condition.assets (stringAt payment "asset") &&
    includesIfPresent condition.networks (stringAt payment "network") &&
    includesIfPresent condition.recipients (stringAt payment "recipient")

def matchesToolCondition (condition : ToolCondition) (context : JsonObject) : Bool :=
  let tool := objectAt context "tool"
  includesIfPresent condition.names (stringAt tool "name") &&
    includesIfPresent condition.riskLevels (stringAt tool "riskLevel")

def matchesConditions (conditions : Option PolicyStatementConditions) (context : JsonObject) : Bool :=
  match conditions with
  | none => true
  | some conditions =>
    conditions.resource.all (matchesResourceCondition · context) &&
      conditions.payment.all (matchesPaymentCondition · context) &&
      conditions.tool.all (matchesToolCondition · context)

def matchesStatement (statement : PolicyStatement) (request : PolicyDecisionRequest) : Bool :=
  (statement.actions.contains "*" || statement.actions.contains request.action) &&
    includesIfPresent statement.actorRoles request.actor.role &&
    includesIfPresent statement.targetTypes (some request.target.type) &&
    includesIfPresent statement.targetIds request.target.id &&
    matchesConditions statement.conditions request.context

def decisionRank : PolicyDecisionValue → Nat
  | .allow => 0
  | .observe => 1
  | .approvalRequired => 2
  | .deny => 3

def reasonCode : PolicyDecisionValue → String
  | .allow => "no_matching_policy"
  | .observe => "policy_observed"
  | .approvalRequired => "policy_requires_approval"
  | .deny => "policy_denied"

def explanation : PolicyDecisionValue → String
  | .allow => "No active policy blocked this request."
  | .observe => "A policy marked this request for observation."
  | .approvalRequired => "A policy requires approval before this request can continue."
  | .deny => "A policy denied this request."

def matchesOf (request : PolicyDecisionRequest) (policy : EffectivePolicy) : List PolicyDecisionMatch :=
  (policy.statements.filter fun statement => matchesStatement statement request).map fun statement =>
    { policyId := policy.policyId, policyVersion := policy.version, policyName := policy.name
      statementId := statement.id, decision := statement.decision }

def stricter (current decision : PolicyDecisionValue) : PolicyDecisionValue :=
  if decisionRank decision > decisionRank current then decision else current

def strictest (matched : List PolicyDecisionMatch) : PolicyDecisionValue :=
  matched.foldl (fun current found => stricter current found.decision) .allow

def evaluatePolicyDecision (request : PolicyDecisionRequest) (policies : List EffectivePolicy)
    (defaultEffect : PolicyDefaultEffect) : PolicyDecisionResult :=
  let matched := policies.flatMap (matchesOf request)
  if matched.isEmpty then
    -- Not the fold from `deny`, which every match would lose to
    if defaultEffect = .allow then
      { decision := .allow, reasonCode := reasonCode .allow, explanation := explanation .allow, matched := [] }
    else
      { decision := .deny, reasonCode := "no_matching_policy_denied"
        explanation := "No policy authorizes this request.", matched := [] }
  else
    let decision := strictest matched
    { decision, reasonCode := reasonCode decision, explanation := explanation decision, matched }

theorem mem_matches {request : PolicyDecisionRequest} {policies : List EffectivePolicy} {found : PolicyDecisionMatch} :
    found ∈ policies.flatMap (matchesOf request) ↔ ∃ policy ∈ policies, ∃ statement ∈ policy.statements,
      matchesStatement statement request = true ∧
        found = ⟨policy.policyId, policy.version, policy.name, statement.id, statement.decision⟩ := by
  simp only [List.mem_flatMap, matchesOf, List.mem_map, List.mem_filter]
  constructor
  · rintro ⟨policy, member, statement, ⟨written, holds⟩, rfl⟩
    exact ⟨policy, member, statement, written, holds, rfl⟩
  · rintro ⟨policy, member, statement, written, holds, rfl⟩
    exact ⟨policy, member, statement, ⟨written, holds⟩, rfl⟩

theorem le_stricter_left (current decision : PolicyDecisionValue) :
    decisionRank current ≤ decisionRank (stricter current decision) := by
  unfold stricter
  split <;> omega

theorem le_stricter_right (current decision : PolicyDecisionValue) :
    decisionRank decision ≤ decisionRank (stricter current decision) := by
  unfold stricter
  split <;> omega

theorem rank_le_foldl (matched : List PolicyDecisionMatch) (start : PolicyDecisionValue) :
    decisionRank start ≤ decisionRank (matched.foldl (fun current found => stricter current found.decision) start) ∧
      ∀ found ∈ matched, decisionRank found.decision ≤
        decisionRank (matched.foldl (fun current found => stricter current found.decision) start) := by
  induction matched generalizing start with
  | nil => simp
  | cons first matched ih =>
    have rest := ih (stricter start first.decision)
    refine ⟨(le_stricter_left _ _).trans rest.1, ?_⟩
    intro found member
    obtain rfl | member := List.mem_cons.1 member
    · exact (le_stricter_right _ _).trans rest.1
    · exact rest.2 found member

theorem eq_deny_of_rank {decision : PolicyDecisionValue} (strict : 3 ≤ decisionRank decision) : decision = .deny := by
  cases decision <;> simp_all [decisionRank]

/-- No other policy and no default outweighs a statement that denies. -/
theorem evaluate_denies {request : PolicyDecisionRequest} {policies : List EffectivePolicy} {policy : EffectivePolicy}
    {statement : PolicyStatement} (member : policy ∈ policies) (written : statement ∈ policy.statements)
    (holds : matchesStatement statement request = true) (denies : statement.decision = .deny)
    (defaultEffect : PolicyDefaultEffect) :
    (evaluatePolicyDecision request policies defaultEffect).decision = .deny := by
  have found := mem_matches.2 ⟨policy, member, statement, written, holds, rfl⟩
  have some : (policies.flatMap (matchesOf request)).isEmpty = false := by
    rw [List.isEmpty_eq_false_iff]
    exact List.ne_nil_of_mem found
  have strict := (rank_le_foldl (policies.flatMap (matchesOf request)) .allow).2 _ found
  simp only [denies, decisionRank] at strict
  simp only [evaluatePolicyDecision, some]
  exact eq_deny_of_rank strict

end AgentOps.Policy
