import AgentOps.Policy.DecisionEngine

namespace AgentOps.Policy
open Lib

/-! # Which statements a draft may be activated with -/

inductive PolicyConditionGroup where
  | resource
  | payment
  | tool
  deriving DecidableEq

structure PolicyValidationResult where
  valid : Bool
  errors : List String
  warnings : List String
  deriving DecidableEq

def conditionGroups : List PolicyConditionGroup := [.resource, .payment, .tool]

def groupText : PolicyConditionGroup → String
  | .resource => "resource"
  | .payment => "payment"
  | .tool => "tool"

def supportedConditionGroups (action : String) (actionConditionGroups : String → List PolicyConditionGroup) :
    List PolicyConditionGroup :=
  if action = "*" then conditionGroups else actionConditionGroups action

def hasValues {α : Type} (value : Option (List α)) : Bool := value.any fun values => !values.isEmpty

def ResourceCondition.given (resource : ResourceCondition) : Bool :=
  hasValues resource.categories || hasValues resource.domains

def PaymentCondition.given (payment : PaymentCondition) : Bool :=
  payment.minAmount.isSome || payment.maxAmount.isSome || hasValues payment.assets || hasValues payment.networks ||
    hasValues payment.recipients

def ToolCondition.given (tool : ToolCondition) : Bool := hasValues tool.names || hasValues tool.riskLevels

namespace PolicyStatement

variable (statement : PolicyStatement)

def resource? : Option ResourceCondition := statement.conditions.bind (·.resource)

def payment? : Option PaymentCondition := statement.conditions.bind (·.payment)

def tool? : Option ToolCondition := statement.conditions.bind (·.tool)

def usedConditionGroups : List PolicyConditionGroup :=
  (if statement.resource?.any (·.given) then [.resource] else []) ++
    (if statement.payment?.any (·.given) then [.payment] else []) ++
    (if statement.tool?.any (·.given) then [.tool] else [])

def named : String := "Statement \"" ++ statement.id ++ "\" "

def identityErrors (earlier : List PolicyStatement) : List String :=
  if (trim statement.id).length = 0 then ["Statement " ++ toString (earlier.length + 1) ++ " is missing an id."]
  else if earlier.any (·.id = statement.id) then ["Statement id \"" ++ statement.id ++ "\" is duplicated."]
  else []

def actionErrors (knownActions : String → Bool) : List String :=
  (if statement.actions.isEmpty then [statement.named ++ "must include at least one action."] else []) ++
    (statement.actions.filter fun action => action ≠ "*" && !knownActions action).map fun action =>
      statement.named ++ "references unknown action \"" ++ action ++ "\"."

def groupErrors (actionConditionGroups : String → List PolicyConditionGroup) : List String :=
  statement.usedConditionGroups.flatMap fun group =>
    (statement.actions.filter fun action => group ∉ supportedConditionGroups action actionConditionGroups).map
      fun action => statement.named ++ "action \"" ++ action ++ "\" does not support " ++ groupText group ++ " conditions."

def emptyError (group : PolicyConditionGroup) : String :=
  statement.named ++ "has an empty " ++ groupText group ++ " condition."

def emptyConditionErrors : List String :=
  (if statement.resource?.any (!·.given) then [statement.emptyError .resource] else []) ++
    (if statement.payment?.any (!·.given) then [statement.emptyError .payment] else []) ++
    (if statement.tool?.any (!·.given) then [statement.emptyError .tool] else [])

def amountErrors (amount : Option String) (field : String) : List String :=
  if amount.any fun text => (numberOf? text).isNone then [statement.named ++ "has an invalid payment " ++ field ++ "."]
  else []

def errors (knownActions : String → Bool) (actionConditionGroups : String → List PolicyConditionGroup)
    (earlier : List PolicyStatement) : List String :=
  statement.identityErrors earlier ++ statement.actionErrors knownActions ++
    statement.groupErrors actionConditionGroups ++ statement.emptyConditionErrors ++
    statement.amountErrors (statement.payment?.bind (·.minAmount)) "minAmount" ++
    statement.amountErrors (statement.payment?.bind (·.maxAmount)) "maxAmount"

def warnings : List String :=
  if statement.decision = .allow then [statement.named ++ "allows a request but does not make enforcement stricter."]
  else []

end PolicyStatement

def validatePolicyStatements (knownActions : String → Bool)
    (actionConditionGroups : String → List PolicyConditionGroup) (statements : List PolicyStatement) :
    PolicyValidationResult :=
  let errors := (if statements.isEmpty then ["Policy must contain at least one statement."] else []) ++
    statements.zipIdx.flatMap fun (statement, index) =>
      statement.errors knownActions actionConditionGroups (statements.take index)
  { valid := errors.isEmpty, errors := errors, warnings := statements.flatMap (·.warnings) }

end AgentOps.Policy
