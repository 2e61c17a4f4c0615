import AgentOps.Lib.DecimalText
import AgentOps.Policy.DecisionMeaning
import AgentOps.Policy.Validator

namespace AgentOps.Policy
open Lib

/-! # Statements that can match -/

/-- An action stands for itself, and `*` for each known one. -/
def StandsFor (knownActions : String → Bool) (action name : String) : Prop :=
  if action = "*" then knownActions name = true else name = action

def EnforcedOn (statement : PolicyStatement) (request : PolicyDecisionRequest) : Prop :=
  matchesStatement statement request = true ∧ ∀ policies defaultEffect, Authored policies statement →
    decisionRank statement.decision ≤ decisionRank (evaluatePolicyDecision request policies defaultEffect).decision

theorem enforcedOn_iff {statement : PolicyStatement} {request : PolicyDecisionRequest} :
    EnforcedOn statement request ↔ Applies statement request := by
  rw [← matchesStatement_iff]
  refine ⟨And.left, fun holds => ⟨holds, fun policies defaultEffect authored => ?_⟩⟩
  have relevant : Relevant request policies statement := ⟨authored, matchesStatement_iff.mp holds⟩
  exact (evaluate_strictest ⟨statement, relevant⟩).2 statement relevant

def PaymentCondition.bounds (payment : PaymentCondition) : List String := payment.minAmount.toList ++ payment.maxAmount.toList

namespace PolicyStatement

structure Live (knownActions : String → Bool) (statement : PolicyStatement) : Prop where
  enforced : ∀ action ∈ statement.actions, ∀ name, StandsFor knownActions action name →
    ∃ request, request.action = name ∧ EnforcedOn statement request
  bounds : ∀ payment ∈ statement.payment?, ∀ text ∈ payment.bounds, text ≠ "" ∧ ReadAsWritten text

end PolicyStatement

def Meetable (allowed : Option (List String)) : Prop := ∀ listed ∈ allowed, listed ≠ [] → ∃ text ∈ listed, (trim text).length > 0

def PaymentCondition.InOrder (payment : PaymentCondition) : Prop :=
  ∀ minAmount ∈ payment.minAmount, ∀ maxAmount ∈ payment.maxAmount,
    ∀ low ∈ numberOf? minAmount, ∀ high ∈ numberOf? maxAmount, low ≤ high

structure PolicyStatement.Satisfiable (statement : PolicyStatement) : Prop where
  resource : ∀ resource ∈ statement.resource?, Meetable resource.categories ∧ Meetable resource.domains
  payment : ∀ payment ∈ statement.payment?,
    Meetable payment.assets ∧ Meetable payment.networks ∧ Meetable payment.recipients ∧ payment.InOrder
  tool : ∀ tool ∈ statement.tool?, Meetable tool.names ∧ Meetable tool.riskLevels

theorem stringAt_some {fields : JsonObject} {key text : String} :
    text ∈ stringAt fields key ↔ fields.string? key = some text ∧ (trim text).length > 0 := by
  simp [stringAt, Option.filter_eq_some_iff]

theorem meetable_of_admits {allowed : Option (List String)} {fields : JsonObject} {key : String}
    (admits : Admits allowed (stringAt fields key)) : Meetable allowed := by
  intro listed member something
  obtain ⟨text, given, among⟩ := admits listed member something
  exact ⟨text, among, (stringAt_some.mp given).2⟩

theorem satisfiable_of_applies {statement : PolicyStatement} {request : PolicyDecisionRequest}
    (applies : Applies statement request) :
    statement.Satisfiable where
  resource := by
    intro resource member
    obtain ⟨conditions, given, member⟩ := Option.bind_eq_some_iff.mp member
    obtain ⟨categories, domains⟩ := applies.resource conditions given resource member
    exact ⟨meetable_of_admits categories, meetable_of_admits domains⟩
  payment := by
    intro payment member
    obtain ⟨conditions, given, member⟩ := Option.bind_eq_some_iff.mp member
    obtain ⟨least, most, assets, networks, recipients⟩ := applies.payment conditions given payment member
    refine ⟨meetable_of_admits assets, meetable_of_admits networks, meetable_of_admits recipients, ?_⟩
    intro minAmount lower maxAmount upper low reads high reads'
    obtain ⟨limit, same, amount, found, above⟩ := least minAmount lower
    obtain ⟨limit', same', amount', found', below⟩ := most maxAmount upper
    obtain rfl := Option.mem_unique same reads
    obtain rfl := Option.mem_unique same' reads'
    obtain rfl := Option.mem_unique found found'
    exact above.trans below
  tool := by
    intro tool member
    obtain ⟨conditions, given, member⟩ := Option.bind_eq_some_iff.mp member
    obtain ⟨names, riskLevels⟩ := applies.tool conditions given tool member
    exact ⟨meetable_of_admits names, meetable_of_admits riskLevels⟩

def pick (allowed : Option (List String)) : String := ((allowed.getD []).find? fun text => (trim text).length > 0).getD ""

def ResourceCondition.met (resource : ResourceCondition) : Json :=
  .object [("category", .string (pick resource.categories)), ("domain", .string (pick resource.domains))]

def PaymentCondition.met (payment : PaymentCondition) : Json :=
  .object [("amount", .string ((payment.minAmount.or payment.maxAmount).getD "")), ("asset", .string (pick payment.assets)),
    ("network", .string (pick payment.networks)), ("recipient", .string (pick payment.recipients))]

def ToolCondition.met (tool : ToolCondition) : Json :=
  .object [("name", .string (pick tool.names)), ("riskLevel", .string (pick tool.riskLevels))]

def PolicyStatement.metContext (statement : PolicyStatement) : JsonObject :=
  [("resource", (statement.resource?.getD {}).met), ("payment", (statement.payment?.getD {}).met),
    ("tool", (statement.tool?.getD {}).met)]

def PolicyStatement.metRequest (statement : PolicyStatement) (name : String) : PolicyDecisionRequest where
  actor := ⟨.agent, none, (statement.actorRoles.getD []).head?⟩
  action := name
  target := ⟨(statement.targetTypes.getD []).head?.getD .agent, (statement.targetIds.getD []).head?⟩
  context := statement.metContext

theorem admits_head {α : Type} (allowed : Option (List α)) : Admits allowed (allowed.getD []).head? := by
  rintro listed rfl something
  obtain ⟨first, rest, rfl⟩ := List.exists_cons_of_ne_nil something
  exact ⟨first, rfl, List.mem_cons_self⟩

theorem admits_pick {allowed : Option (List String)} (meetable : Meetable allowed) {fields : JsonObject} {key : String}
    (given : fields.string? key = some (pick allowed)) : Admits allowed (stringAt fields key) := by
  rintro listed rfl something
  obtain ⟨text, among, visible⟩ := meetable listed rfl something
  obtain ⟨found, first⟩ := Option.isSome_iff_exists.mp
    (List.find?_isSome.mpr ⟨text, among, by simpa using visible⟩ : (listed.find? fun text => (trim text).length > 0).isSome = true)
  have picked : pick (some listed) = found := by simp [pick, first]
  have chosen := List.find?_some first
  simp only [decide_eq_true_eq] at chosen
  exact ⟨found, stringAt_some.mpr ⟨by rw [given, picked], chosen⟩, List.mem_of_find?_eq_some first⟩

variable {statement : PolicyStatement}

theorem objectAt_resource : objectAt statement.metContext "resource" =
    [("category", .string (pick (statement.resource?.getD {}).categories)),
      ("domain", .string (pick (statement.resource?.getD {}).domains))] := rfl

theorem objectAt_payment : objectAt statement.metContext "payment" =
    [("amount", .string (((statement.payment?.getD {}).minAmount.or (statement.payment?.getD {}).maxAmount).getD "")),
      ("asset", .string (pick (statement.payment?.getD {}).assets)),
      ("network", .string (pick (statement.payment?.getD {}).networks)),
      ("recipient", .string (pick (statement.payment?.getD {}).recipients))] := rfl

theorem objectAt_tool : objectAt statement.metContext "tool" =
    [("name", .string (pick (statement.tool?.getD {}).names)),
      ("riskLevel", .string (pick (statement.tool?.getD {}).riskLevels))] := rfl

theorem boundsHold {payment : PaymentCondition} (finite : ∀ text ∈ payment.bounds, (numberOf? text).isSome = true)
    (ordered : payment.InOrder) {fields : JsonObject}
    (given : fields.field? "amount" = some (.string ((payment.minAmount.or payment.maxAmount).getD ""))) :
    BoundHolds payment.minAmount (numberAt fields "amount") (fun limit value => limit ≤ value) ∧
      BoundHolds payment.maxAmount (numberAt fields "amount") (fun limit value => value ≤ limit) := by
  have amount : numberAt fields "amount" = numberOf? ((payment.minAmount.or payment.maxAmount).getD "") := by
    simp only [numberAt, given]
  rw [amount]
  cases lower : payment.minAmount with
  | none =>
    constructor
    · intro text member
      cases member
    · intro text member
      have upper : payment.maxAmount = some text := member
      obtain ⟨limit, reads⟩ := Option.isSome_iff_exists.mp (finite text (by simp [PaymentCondition.bounds, upper]))
      exact ⟨limit, reads, limit, by simpa [upper] using reads, le_refl _⟩
  | some least =>
    obtain ⟨low, reads⟩ := Option.isSome_iff_exists.mp (finite least (by simp [PaymentCondition.bounds, lower]))
    constructor
    · intro text member
      obtain rfl := Option.some.inj member
      exact ⟨low, reads, low, by simpa using reads, le_refl _⟩
    · intro most upper
      obtain ⟨high, reads'⟩ := Option.isSome_iff_exists.mp
        (finite most (by simp [PaymentCondition.bounds, Option.mem_def.mp upper]))
      exact ⟨high, reads', low, by simpa using reads, ordered least lower most upper low reads high reads'⟩

theorem met_applies (finite : ∀ payment ∈ statement.payment?, ∀ text ∈ payment.bounds, (numberOf? text).isSome = true)
    (satisfiable : statement.Satisfiable) {name : String} (named : "*" ∈ statement.actions ∨ name ∈ statement.actions) :
    Applies statement (statement.metRequest name) where
  action := named
  roles := admits_head _
  targetTypes := by
    intro listed member something
    obtain ⟨first, head, among⟩ := admits_head statement.targetTypes listed member something
    have chosen : (statement.metRequest name).target.type = first := by
      simp only [PolicyStatement.metRequest, Option.mem_def.mp head, Option.getD_some]
    exact ⟨first, congrArg some chosen, among⟩
  targetIds := admits_head _
  resource := by
    intro conditions given resource member
    have here : statement.resource? = some resource := Option.bind_eq_some_iff.mpr ⟨conditions, given, member⟩
    obtain ⟨categories, domains⟩ := satisfiable.resource resource here
    simp only [ResourceHolds, PolicyStatement.metRequest, objectAt_resource, here, Option.getD_some]
    exact ⟨admits_pick categories rfl, admits_pick domains rfl⟩
  payment := by
    intro conditions given payment member
    have here : statement.payment? = some payment := Option.bind_eq_some_iff.mpr ⟨conditions, given, member⟩
    obtain ⟨assets, networks, recipients, ordered⟩ := satisfiable.payment payment here
    have amount : (objectAt statement.metContext "payment").field? "amount" =
        some (.string ((payment.minAmount.or payment.maxAmount).getD "")) := by
      rw [objectAt_payment, here, Option.getD_some]
      rfl
    obtain ⟨least, most⟩ := boundsHold (finite payment here) ordered amount
    refine ⟨least, most, ?_⟩
    simp only [PolicyStatement.metRequest, objectAt_payment, here, Option.getD_some]
    exact ⟨admits_pick assets rfl, admits_pick networks rfl, admits_pick recipients rfl⟩
  tool := by
    intro conditions given tool member
    have here : statement.tool? = some tool := Option.bind_eq_some_iff.mpr ⟨conditions, given, member⟩
    obtain ⟨names, riskLevels⟩ := satisfiable.tool tool here
    simp only [ToolHolds, PolicyStatement.metRequest, objectAt_tool, here, Option.getD_some]
    exact ⟨admits_pick names rfl, admits_pick riskLevels rfl⟩

section

variable {knownActions : String → Bool} {actionConditionGroups : String → List PolicyConditionGroup}
  {statements : List PolicyStatement}

theorem valid_errors (valid : (validatePolicyStatements knownActions actionConditionGroups statements).valid = true)
    (member : statement ∈ statements) : ∃ earlier, statement.errors knownActions actionConditionGroups earlier = [] := by
  simp only [validatePolicyStatements, List.isEmpty_iff, List.append_eq_nil_iff, List.flatMap_eq_nil_iff] at valid
  obtain ⟨index, inside, rfl⟩ := List.getElem_of_mem member
  exact ⟨_, valid.2 (statements[index], index) (List.mk_mem_zipIdx_iff_getElem?.mpr (List.getElem?_eq_getElem inside))⟩

theorem amountErrors_none {amount : Option String} {field : String} (none : statement.amountErrors amount field = []) :
    ∀ text ∈ amount, (numberOf? text).isSome = true := by
  rintro text rfl
  by_contra unreadable
  simp [PolicyStatement.amountErrors, Option.not_isSome_iff_eq_none.mp unreadable] at none

theorem valid_bounds (valid : (validatePolicyStatements knownActions actionConditionGroups statements).valid = true)
    (member : statement ∈ statements) :
    ∀ payment ∈ statement.payment?, ∀ text ∈ payment.bounds, (numberOf? text).isSome = true := by
  obtain ⟨earlier, none⟩ := valid_errors valid member
  simp only [PolicyStatement.errors, List.append_eq_nil_iff] at none
  obtain ⟨⟨-, least⟩, most⟩ := none
  intro payment given text bound
  rw [Option.mem_def.mp given, Option.bind_some] at least most
  rcases List.mem_append.mp bound with lower | upper
  · exact amountErrors_none least text (Option.mem_toList.mp lower)
  · exact amountErrors_none most text (Option.mem_toList.mp upper)

theorem valid_actions (valid : (validatePolicyStatements knownActions actionConditionGroups statements).valid = true)
    (member : statement ∈ statements) : statement.actions ≠ [] := by
  obtain ⟨earlier, none⟩ := valid_errors valid member
  simp only [PolicyStatement.errors, PolicyStatement.actionErrors, List.append_eq_nil_iff] at none
  obtain ⟨⟨⟨⟨⟨-, ⟨some, -⟩⟩, -⟩, -⟩, -⟩, -⟩ := none
  intro empty
  simp [empty] at some

theorem StandsFor.named {action name : String} (stands : StandsFor knownActions action name)
    (member : action ∈ statement.actions) :
    "*" ∈ statement.actions ∨ name ∈ statement.actions := by
  unfold StandsFor at stands
  split at stands
  · rename_i all
    exact .inl (all ▸ member)
  · exact .inr (stands ▸ member)

/-- Every statement of an accepted list is enforced on each of its actions, with bounds that mean what they say, if and only if its
bounds are unadorned and in order and each of its lists has a text that is not blank. With no action known, `*` stands for
nothing. -/
theorem statements_live_iff (knownActions : String → Bool) (actionConditionGroups : String → List PolicyConditionGroup)
    (statements : List PolicyStatement)
    (valid : (validatePolicyStatements knownActions actionConditionGroups statements).valid = true) :
    (∀ statement ∈ statements, statement.Live knownActions) ↔
      ∀ statement ∈ statements, (∀ payment ∈ statement.payment?, ∀ text ∈ payment.bounds, Unadorned text) ∧
        ((∃ action, knownActions action = true) → statement.Satisfiable) := by
  refine forall₂_congr fun statement member => ?_
  have finite := valid_bounds valid member
  constructor
  · intro live
    refine ⟨fun payment given text bound => ?_, fun ⟨known, knows⟩ => ?_⟩
    · exact (readAsWritten_iff (finite payment given text bound)).mp (live.bounds payment given text bound).2
    · obtain ⟨action, rest, first⟩ := List.exists_cons_of_ne_nil (valid_actions valid member)
      have stands : ∃ name, StandsFor knownActions action name := by
        by_cases all : action = "*"
        · exact ⟨known, by simpa [StandsFor, all] using knows⟩
        · exact ⟨action, by simp [StandsFor, all]⟩
      obtain ⟨name, stands⟩ := stands
      obtain ⟨request, -, enforced⟩ := live.enforced action (first ▸ List.mem_cons_self) name stands
      exact satisfiable_of_applies (enforcedOn_iff.mp enforced)
  · rintro ⟨unadorned, satisfiable⟩
    refine ⟨fun action among name stands => ?_, fun payment given text bound => ?_⟩
    · have known : ∃ action, knownActions action = true := by
        unfold StandsFor at stands
        split at stands
        · exact ⟨name, stands⟩
        · rename_i explicit
          obtain ⟨earlier, none⟩ := valid_errors valid member
          simp only [PolicyStatement.errors, PolicyStatement.actionErrors, List.append_eq_nil_iff, List.map_eq_nil_iff,
            List.filter_eq_nil_iff] at none
          obtain ⟨⟨⟨⟨⟨-, ⟨-, unknown⟩⟩, -⟩, -⟩, -⟩, -⟩ := none
          exact ⟨action, by simpa [explicit] using unknown action among⟩
      exact ⟨statement.metRequest name, rfl, enforcedOn_iff.mpr (met_applies finite (satisfiable known) (stands.named among))⟩
    · have plain := unadorned payment given text bound
      exact ⟨plain.nonempty, (readAsWritten_iff (finite payment given text bound)).mpr plain⟩

end

def x402Action (action : String) : Bool := action = "payment.x402.authorize"

def x402Groups (action : String) : List PolicyConditionGroup := if x402Action action then [.resource, .payment] else []

def crossedDenial : PolicyStatement :=
  { id := "stmt_range", decision := .deny, actions := ["payment.x402.authorize"]
    conditions := some { payment := some { minAmount := some "5", maxAmount := some "3" } } }

/-- It is accepted, and no payment is denied. -/
theorem crossedDenial_dead : ¬∀ knownActions actionConditionGroups statements,
    (validatePolicyStatements knownActions actionConditionGroups statements).valid = true →
      ∀ statement ∈ statements, statement.Live knownActions := by
  intro claimed
  have live := claimed x402Action x402Groups [crossedDenial] (by decide +kernel) crossedDenial List.mem_cons_self
  obtain ⟨request, -, enforced⟩ := live.enforced "payment.x402.authorize" List.mem_cons_self _ rfl
  obtain ⟨-, -, -, ordered⟩ := (satisfiable_of_applies (enforcedOn_iff.mp enforced)).payment _ rfl
  have impossible := ordered "5" rfl "3" rfl 5 (by decide +kernel) 3 (by decide +kernel)
  revert impossible
  decide +kernel

def dearDenial : PolicyStatement :=
  { id := "stmt_dear", decision := .deny, actions := ["payment.x402.authorize"]
    conditions := some { payment := some { minAmount := some "1.00", assets := some ["USDC"] } } }

theorem dearDenial_live : dearDenial.Live x402Action := by
  refine (statements_live_iff x402Action x402Groups [dearDenial] (by decide +kernel)).mpr ?_ dearDenial List.mem_cons_self
  intro statement member
  obtain rfl := List.mem_singleton.mp member
  refine ⟨?_, fun _ => ⟨?_, ?_, ?_⟩⟩
  · intro payment given text member
    obtain rfl := Option.some.inj given
    obtain rfl : text = "1.00" := by simpa [PaymentCondition.bounds] using member
    exact ⟨by decide, by decide +kernel, by decide +kernel⟩
  · intro resource given
    cases given
  · intro payment given
    obtain rfl := Option.some.inj given
    refine ⟨?_, ?_, ?_, ?_⟩
    · intro listed given _
      obtain rfl := Option.some.inj given
      exact ⟨"USDC", List.mem_cons_self, by decide +kernel⟩
    · intro listed given
      cases given
    · intro listed given
      cases given
    · intro minAmount _ maxAmount given
      cases given
  · intro tool given
    cases given

end AgentOps.Policy
