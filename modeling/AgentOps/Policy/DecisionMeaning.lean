import AgentOps.Policy.DecisionEngine

namespace AgentOps.Policy
open Lib Identity

/-! # What a policy decision means -/

def Admits {α : Type} (allowed : Option (List α)) (actual : Option α) : Prop :=
  ∀ listed ∈ allowed, listed ≠ [] → ∃ value ∈ actual, value ∈ listed

def BoundHolds (bound : Option String) (amount : Option ℚ) (within : ℚ → ℚ → Prop) : Prop :=
  ∀ text ∈ bound, ∃ limit ∈ numberOf? text, ∃ value ∈ amount, within limit value

def ResourceHolds (condition : ResourceCondition) (context : JsonObject) : Prop :=
  Admits condition.categories (stringAt (objectAt context "resource") "category") ∧
    Admits condition.domains (stringAt (objectAt context "resource") "domain")

def PaymentHolds (condition : PaymentCondition) (context : JsonObject) : Prop :=
  let payment := objectAt context "payment"
  BoundHolds condition.minAmount (numberAt payment "amount") (fun limit value => limit ≤ value) ∧
    BoundHolds condition.maxAmount (numberAt payment "amount") (fun limit value => value ≤ limit) ∧
    Admits condition.assets (stringAt payment "asset") ∧ Admits condition.networks (stringAt payment "network") ∧
    Admits condition.recipients (stringAt payment "recipient")

def ToolHolds (condition : ToolCondition) (context : JsonObject) : Prop :=
  Admits condition.names (stringAt (objectAt context "tool") "name") ∧
    Admits condition.riskLevels (stringAt (objectAt context "tool") "riskLevel")

structure Applies (statement : PolicyStatement) (request : PolicyDecisionRequest) : Prop where
  action : "*" ∈ statement.actions ∨ request.action ∈ statement.actions
  roles : Admits statement.actorRoles request.actor.role
  targetTypes : Admits statement.targetTypes (some request.target.type)
  targetIds : Admits statement.targetIds request.target.id
  resource : ∀ conditions ∈ statement.conditions, ∀ condition ∈ conditions.resource, ResourceHolds condition request.context
  payment : ∀ conditions ∈ statement.conditions, ∀ condition ∈ conditions.payment, PaymentHolds condition request.context
  tool : ∀ conditions ∈ statement.conditions, ∀ condition ∈ conditions.tool, ToolHolds condition request.context

theorem includesIfPresent_iff {α : Type} [DecidableEq α] {allowed : Option (List α)} {actual : Option α} :
    includesIfPresent allowed actual = true ↔ Admits allowed actual := by
  unfold includesIfPresent Admits
  split
  · simp
  · simp
  · rename_i listed something
    simp [show listed ≠ [] from something, Option.any_eq_true]

theorem withinBound_iff {bound : Option String} {amount : Option ℚ} {within : ℚ → ℚ → Bool} :
    withinBound bound amount within = true ↔ BoundHolds bound amount fun limit value => within limit value = true := by
  unfold withinBound BoundHolds
  cases bound with
  | none => simp
  | some text => cases limit : numberOf? text <;> cases amount <;> simp [limit]

theorem resource_iff {condition : ResourceCondition} {context : JsonObject} :
    matchesResourceCondition condition context = true ↔ ResourceHolds condition context := by
  simp only [matchesResourceCondition, ResourceHolds, Bool.and_eq_true, includesIfPresent_iff]

theorem payment_iff {condition : PaymentCondition} {context : JsonObject} :
    matchesPaymentCondition condition context = true ↔ PaymentHolds condition context := by
  simp only [matchesPaymentCondition, PaymentHolds, Bool.and_eq_true, includesIfPresent_iff, withinBound_iff,
    decide_eq_true_eq, and_assoc]

theorem tool_iff {condition : ToolCondition} {context : JsonObject} :
    matchesToolCondition condition context = true ↔ ToolHolds condition context := by
  simp only [matchesToolCondition, ToolHolds, Bool.and_eq_true, includesIfPresent_iff]

theorem matchesStatement_iff {statement : PolicyStatement} {request : PolicyDecisionRequest} :
    matchesStatement statement request = true ↔ Applies statement request := by
  have all {α : Type} {option : Option α} {test : α → Bool} : option.all test = true ↔ ∀ value ∈ option, test value = true := by
    cases option <;> simp
  have conditions : matchesConditions statement.conditions request.context = true ↔ ∀ conditions ∈ statement.conditions,
      (∀ condition ∈ conditions.resource, ResourceHolds condition request.context) ∧
      (∀ condition ∈ conditions.payment, PaymentHolds condition request.context) ∧
      ∀ condition ∈ conditions.tool, ToolHolds condition request.context := by
    cases statement.conditions with
    | none => simp [matchesConditions]
    | some conditions =>
      simp [matchesConditions, all, resource_iff, payment_iff, tool_iff, and_assoc]
  simp only [matchesStatement, Bool.and_eq_true, Bool.or_eq_true, List.contains_iff_mem, includesIfPresent_iff, conditions]
  constructor
  · rintro ⟨⟨⟨⟨action, roles⟩, types⟩, ids⟩, holds⟩
    exact ⟨action, roles, types, ids, fun c member => (holds c member).1, fun c member => (holds c member).2.1,
      fun c member => (holds c member).2.2⟩
  · intro applies
    exact ⟨⟨⟨⟨applies.action, applies.roles⟩, applies.targetTypes⟩, applies.targetIds⟩, fun c member =>
      ⟨applies.resource c member, applies.payment c member, applies.tool c member⟩⟩

def Authored (policies : List EffectivePolicy) (statement : PolicyStatement) : Prop :=
  ∃ policy ∈ policies, statement ∈ policy.statements

def Relevant (request : PolicyDecisionRequest) (policies : List EffectivePolicy) (statement : PolicyStatement) : Prop :=
  Authored policies statement ∧ Applies statement request

variable {request : PolicyDecisionRequest} {policies policies' : List EffectivePolicy} {defaultEffect : PolicyDefaultEffect}

theorem decision_mem_matches {decision : PolicyDecisionValue} :
    (∃ found ∈ policies.flatMap (matchesOf request), found.decision = decision) ↔
      ∃ statement, Relevant request policies statement ∧ statement.decision = decision := by
  constructor
  · rintro ⟨found, member, rfl⟩
    obtain ⟨policy, present, statement, written, holds, rfl⟩ := mem_matches.mp member
    exact ⟨statement, ⟨⟨policy, present, written⟩, Iff.mp matchesStatement_iff holds⟩, rfl⟩
  · rintro ⟨statement, ⟨⟨policy, present, written⟩, applies⟩, rfl⟩
    exact ⟨_, mem_matches.mpr ⟨policy, present, statement, written, Iff.mpr matchesStatement_iff applies, rfl⟩, rfl⟩

theorem matches_isEmpty : (policies.flatMap (matchesOf request)).isEmpty = true ↔
    ¬∃ statement, Relevant request policies statement := by
  rw [List.isEmpty_iff, List.eq_nil_iff_forall_not_mem]
  constructor
  · rintro none ⟨statement, relevant⟩
    obtain ⟨found, member, -⟩ := Iff.mpr decision_mem_matches ⟨statement, relevant, rfl⟩
    exact none found member
  · intro none found member
    obtain ⟨statement, relevant, -⟩ := decision_mem_matches.mp ⟨found, member, rfl⟩
    exact none ⟨statement, relevant⟩

theorem foldl_stricter_mem (matched : List PolicyDecisionMatch) (start : PolicyDecisionValue) :
    matched.foldl (fun current found => stricter current found.decision) start = start ∨
      ∃ found ∈ matched, found.decision = matched.foldl (fun current found => stricter current found.decision) start := by
  induction matched generalizing start with
  | nil => exact .inl rfl
  | cons first matched ih =>
    rw [List.foldl_cons]
    rcases ih (stricter start first.decision) with same | ⟨found, member, same⟩
    · rw [same]
      unfold stricter
      split
      · exact .inr ⟨first, List.mem_cons_self, rfl⟩
      · exact .inl rfl
    · exact .inr ⟨found, List.mem_cons_of_mem _ member, same⟩

theorem strictest_mem {matched : List PolicyDecisionMatch} (some : matched ≠ []) :
    ∃ found ∈ matched, found.decision = strictest matched := by
  rcases foldl_stricter_mem matched .allow with lowest | found
  · obtain ⟨first, rest, rfl⟩ := List.exists_cons_of_ne_nil some
    have least := (rank_le_foldl (first :: rest) .allow).2 first List.mem_cons_self
    rw [lowest] at least
    refine ⟨first, List.mem_cons_self, ?_⟩
    rw [strictest, lowest]
    cases decision : first.decision <;> simp_all [decisionRank]
  · exact found

theorem evaluate_none (none : ¬∃ statement, Relevant request policies statement) :
    evaluatePolicyDecision request policies defaultEffect =
      if defaultEffect = .allow then ⟨.allow, reasonCode .allow, explanation .allow, []⟩
      else ⟨.deny, "no_matching_policy_denied", "No policy authorizes this request.", []⟩ := by
  simp only [evaluatePolicyDecision, matches_isEmpty.mpr none, if_true]

theorem evaluate_some (some : ∃ statement, Relevant request policies statement) :
    evaluatePolicyDecision request policies defaultEffect =
      ⟨strictest (policies.flatMap (matchesOf request)), reasonCode (strictest (policies.flatMap (matchesOf request))),
        explanation (strictest (policies.flatMap (matchesOf request))), policies.flatMap (matchesOf request)⟩ := by
  have nonempty : (policies.flatMap (matchesOf request)).isEmpty = false := by
    rw [← Bool.not_eq_true, matches_isEmpty, not_not]
    exact some
  simp only [evaluatePolicyDecision, nonempty, Bool.false_eq_true, if_false]

theorem evaluate_strictest (some : ∃ statement, Relevant request policies statement) :
    (∃ statement, Relevant request policies statement ∧
      statement.decision = (evaluatePolicyDecision request policies defaultEffect).decision) ∧
    ∀ statement, Relevant request policies statement →
      decisionRank statement.decision ≤ decisionRank (evaluatePolicyDecision request policies defaultEffect).decision := by
  rw [evaluate_some some]
  have nonempty : policies.flatMap (matchesOf request) ≠ [] := by
    rw [ne_eq, ← List.isEmpty_iff, matches_isEmpty, not_not]
    exact some
  refine ⟨Iff.mp decision_mem_matches (strictest_mem nonempty), fun statement relevant => ?_⟩
  obtain ⟨found, member, same⟩ := Iff.mpr decision_mem_matches ⟨statement, relevant, rfl⟩
  rw [← same]
  exact (rank_le_foldl _ .allow).2 found member

theorem decisionRank_injective : Function.Injective decisionRank := by
  intro decision decision' same
  cases decision <;> cases decision' <;> first | rfl | cases same

theorem evaluate_mono (some : ∃ statement, Relevant request policies statement)
    (more : ∀ statement, Authored policies statement → Authored policies' statement) :
    decisionRank (evaluatePolicyDecision request policies defaultEffect).decision ≤
      decisionRank (evaluatePolicyDecision request policies' defaultEffect).decision := by
  obtain ⟨⟨statement, ⟨written, applies⟩, same⟩, -⟩ := @evaluate_strictest request policies defaultEffect some
  have kept : Relevant request policies' statement := ⟨more statement written, applies⟩
  rw [← same]
  exact (evaluate_strictest ⟨statement, kept⟩).2 statement kept

theorem reasonCode_allow {decision : PolicyDecisionValue} : reasonCode decision = "no_matching_policy" ↔ decision = .allow := by
  cases decision <;> decide

theorem reasonCode_denied (decision : PolicyDecisionValue) : reasonCode decision ≠ "no_matching_policy_denied" := by
  cases decision <;> decide

/-- The strictest of the statements about the request decides, and the default effect when there is none. Which statements are
authored counts, not how often or where. -/
theorem evaluate_meaning (request : PolicyDecisionRequest) (policies : List EffectivePolicy)
    (defaultEffect : PolicyDefaultEffect) :
    ((∃ statement, Relevant request policies statement) →
      (∃ statement, Relevant request policies statement ∧
        statement.decision = (evaluatePolicyDecision request policies defaultEffect).decision) ∧
      ∀ statement, Relevant request policies statement →
        decisionRank statement.decision ≤ decisionRank (evaluatePolicyDecision request policies defaultEffect).decision) ∧
    ((¬∃ statement, Relevant request policies statement) →
      (evaluatePolicyDecision request policies defaultEffect).decision = if defaultEffect = .allow then .allow else .deny) ∧
    (∀ policies', (∀ statement, Authored policies statement ↔ Authored policies' statement) →
      (evaluatePolicyDecision request policies defaultEffect).decision =
          (evaluatePolicyDecision request policies' defaultEffect).decision ∧
        (evaluatePolicyDecision request policies defaultEffect).reasonCode =
          (evaluatePolicyDecision request policies' defaultEffect).reasonCode) ∧
    (∀ policies', (∃ statement, Relevant request policies statement) →
      (∀ statement, Authored policies statement → Authored policies' statement) →
      decisionRank (evaluatePolicyDecision request policies defaultEffect).decision ≤
        decisionRank (evaluatePolicyDecision request policies' defaultEffect).decision) ∧
    ((evaluatePolicyDecision request policies defaultEffect).reasonCode = "no_matching_policy_denied" ↔
      defaultEffect ≠ .allow ∧ ¬∃ statement, Relevant request policies statement) ∧
    ((evaluatePolicyDecision request policies defaultEffect).reasonCode = "no_matching_policy" ↔
      (∀ statement, Relevant request policies statement → statement.decision = .allow) ∧
        (defaultEffect = .allow ∨ ∃ statement, Relevant request policies statement)) := by
  refine ⟨evaluate_strictest, fun none => ?_, fun policies' same => ?_, fun policies' some more => evaluate_mono some more, ?_, ?_⟩
  · rw [evaluate_none none]
    split <;> rfl
  · have relevant (statement : PolicyStatement) : Relevant request policies statement ↔ Relevant request policies' statement :=
      and_congr_left fun _ => same statement
    by_cases some : ∃ statement, Relevant request policies statement
    · have some' := (exists_congr relevant).mp some
      have decision : (evaluatePolicyDecision request policies defaultEffect).decision =
          (evaluatePolicyDecision request policies' defaultEffect).decision :=
        decisionRank_injective (le_antisymm (evaluate_mono some fun statement => (same statement).mp)
          (evaluate_mono some' fun statement => (same statement).mpr))
      refine ⟨decision, ?_⟩
      rw [evaluate_some some, evaluate_some some'] at decision ⊢
      exact congrArg reasonCode decision
    · have none' := mt (exists_congr relevant).mpr some
      rw [evaluate_none some, evaluate_none none']
      exact ⟨rfl, rfl⟩
  · by_cases some : ∃ statement, Relevant request policies statement
    · simp only [evaluate_some some, reasonCode_denied, some, not_true_eq_false, and_false]
    · rw [evaluate_none some]
      split <;> simp_all [reasonCode]
  · by_cases some : ∃ statement, Relevant request policies statement
    · obtain ⟨⟨chosen, relevant, same⟩, strict⟩ := @evaluate_strictest request policies defaultEffect some
      have reason : (evaluatePolicyDecision request policies defaultEffect).reasonCode = "no_matching_policy" ↔
          (evaluatePolicyDecision request policies defaultEffect).decision = .allow := by
        rw [evaluate_some some]
        exact reasonCode_allow
      rw [reason]
      constructor
      · intro allowed
        refine ⟨fun statement about => ?_, .inr some⟩
        have least := strict statement about
        rw [allowed] at least
        exact decisionRank_injective (Nat.le_zero.mp least)
      · rintro ⟨all, -⟩
        rw [← same]
        exact all chosen relevant
    · have vacuous : ∀ statement, Relevant request policies statement → statement.decision = .allow :=
        fun statement about => absurd ⟨statement, about⟩ some
      rw [evaluate_none some]
      simp only [some, or_false, and_iff_right vacuous]
      split <;> simp_all [reasonCode]

def allowAll : EffectivePolicy := ⟨1, 1, "Allow", [{ id := "stmt_allow", decision := .allow, actions := ["*"] }]⟩

/-- An explicit allow has the reason code of a request that nothing matched. -/
theorem reasonCode_confuses : ¬∀ (request : PolicyDecisionRequest) (policies : List EffectivePolicy)
    (defaultEffect : PolicyDefaultEffect),
    (evaluatePolicyDecision request policies defaultEffect).reasonCode ∈ ["no_matching_policy", "no_matching_policy_denied"] ↔
      (evaluatePolicyDecision request policies defaultEffect).matched = [] := by
  intro claimed
  have explicit := claimed ⟨⟨.agent, none, none⟩, "runtime.tool.call", ⟨.agent, none⟩, []⟩ [allowAll] .deny
  revert explicit
  decide +kernel

end AgentOps.Policy
