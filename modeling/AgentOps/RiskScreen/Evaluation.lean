import AgentOps.Execution.Service
import AgentOps.Lib.Query
import AgentOps.RiskScreen.Heuristics

namespace AgentOps.RiskScreen
open Lib
open Execution (AgentStatus ClockReadings Guid PolicyActionType UtcDate)

/-! # The evaluation of a request against its agent, its permission and the policy -/

structure ToolPermission where
  toolName : String
  maxSpendPerCallUsd : HostDecimal
  riskLevel : RiskLevel
  isEnabled : Bool
  deriving DecidableEq

structure AgentIdentity where
  id : Guid
  organizationId : String
  status : AgentStatus
  dailyBudgetCapUsd : HostDecimal
  spentTodayUsd : HostDecimal
  budgetResetDateUtc : UtcDate
  toolPermissions : List ToolPermission
  deriving DecidableEq

/-- `createdAtUtc` counts ticks. -/
structure GovernancePolicy where
  id : Guid
  name : String
  organizationId : String
  maxAllowedRiskLevel : RiskLevel
  autoApprovalSpendThresholdUsd : HostDecimal
  requiresMultiSigForExternalTransfers : Bool
  isActive : Bool
  isDeleted : Bool
  createdAtUtc : Nat
  deriving DecidableEq

structure Store where
  agentIdentities : List AgentIdentity
  governancePolicies : List GovernancePolicy

/-- What the evaluation takes from the host: the capital of a character, the equality of the database's collation, the sum of
two decimals unless it overflows, and the clock -/
structure Host where
  upper : Char → Char
  sameOrganization : String → String → Bool
  sum? : HostDecimal → HostDecimal → Option HostDecimal
  clock : ClockReadings

def nothingSpent : HostDecimal := ⟨0, 0, by decide, by decide⟩

namespace AgentIdentity

def resetDailyBudgetIfExpired (host : Host) (agent : AgentIdentity) : AgentIdentity :=
  if host.clock.compared > agent.budgetResetDateUtc then
    { agent with spentTodayUsd := nothingSpent, budgetResetDateUtc := host.clock.assigned }
  else agent

def canSpend (host : Host) (agent : AgentIdentity) (amountUsd : HostDecimal) : Option (AgentIdentity × Bool) :=
  let agent := agent.resetDailyBudgetIfExpired host
  (host.sum? agent.spentTodayUsd amountUsd).map fun total =>
    (agent, decide (total.value ≤ agent.dailyBudgetCapUsd.value) && decide (agent.status = .active))

/-- `StringComparison.OrdinalIgnoreCase` -/
def permission? (host : Host) (agent : AgentIdentity) (toolName : String) : Option ToolPermission :=
  agent.toolPermissions.find? fun permission =>
    permission.toolName.toList.map host.upper = toolName.toList.map host.upper && permission.isEnabled

end AgentIdentity

namespace Store

def agent? (store : Store) (id : Guid) : Option AgentIdentity := store.agentIdentities.find? fun agent => agent.id = id

def policy? (store : Store) (host : Host) (organizationId : String) : Option GovernancePolicy :=
  (orderBy (fun policy other => policy.createdAtUtc ≥ other.createdAtUtc) (store.governancePolicies.filter fun policy =>
    host.sameOrganization policy.organizationId organizationId && policy.isActive && !policy.isDeleted)).head?

end Store

def GovernancePolicy.evaluateSpend (policy : GovernancePolicy) (requestedSpendUsd : HostDecimal) (actionRisk : RiskLevel) :
    PolicyActionType :=
  if policy.isActive = false then .deny
  else if actionRisk > policy.maxAllowedRiskLevel then .deny
  else if requestedSpendUsd.value > policy.autoApprovalSpendThresholdUsd.value then
    if policy.requiresMultiSigForExternalTransfers then .requireMultiSig else .requireHumanApproval
  else .allow

structure EvaluateExecutionRequestDto where
  agentId : Guid
  toolName : String
  payloadJson : Option String
  requestedSpendUsd : HostDecimal
  actionRisk : RiskLevel
  deriving DecidableEq

structure PolicyEvaluationResult where
  isAllowed : Bool
  actionRequired : PolicyActionType
  policyName : String
  evaluatedRisk : RiskLevel
  reasoning : String
  appliedRuleIds : List Guid
  deriving DecidableEq

def actionText : PolicyActionType → String
  | .allow => "Allow"
  | .requireHumanApproval => "RequireHumanApproval"
  | .requireMultiSig => "RequireMultiSig"
  | .deny => "Deny"

def decimalText (amount : HostDecimal) : String :=
  if amount.scale = 0 then toString amount.mantissa else String.ofList (placesText amount.scale amount.mantissa)

def denied (request : EvaluateExecutionRequestDto) (policyName reasoning : String) : PolicyEvaluationResult :=
  ⟨false, .deny, policyName, request.actionRisk, reasoning, []⟩

def governed (request : EvaluateExecutionRequestDto) (policy : GovernancePolicy) : PolicyEvaluationResult :=
  let actionRequired := policy.evaluateSpend request.requestedSpendUsd request.actionRisk
  { isAllowed := actionRequired = .allow
    actionRequired := actionRequired
    policyName := policy.name
    evaluatedRisk := request.actionRisk
    reasoning := if actionRequired = .allow then "Complies with organizational governance thresholds."
      else "Requires " ++ actionText actionRequired ++ " state transition."
    appliedRuleIds := [policy.id] }

/-- The result, and the agent as the budget check left it; the sum of the budget check may throw. -/
def evaluateExecutionAsync (host : Host) (store : Store) (request : EvaluateExecutionRequestDto) :
    Option (PolicyEvaluationResult × Option AgentIdentity) :=
  match store.agent? request.agentId with
  | none => some (denied request "AgentNotFound" "Agent identity is not recognized.", none)
  | some agent =>
    if agent.status ≠ .active then
      some (denied request "AgentSuspended" "Agent identity is suspended or revoked.", some agent)
    else
      match agent.permission? host request.toolName with
      | none =>
        some (denied request "ToolNotPermitted"
          ("Tool '" ++ request.toolName ++ "' has not been authorized for this agent."), some agent)
      | some permission =>
        if request.actionRisk > permission.riskLevel then
          some (denied request "ToolRiskCeilingExceeded" ("Action risk " ++ request.actionRisk.text ++ " is above the " ++
            permission.riskLevel.text ++ " ceiling granted for '" ++ permission.toolName ++ "'."), some agent)
        else if request.requestedSpendUsd.value > permission.maxSpendPerCallUsd.value then
          some (denied request "SpendPerCallExceeded" ("Requested spend $" ++ decimalText request.requestedSpendUsd ++
            " exceeds per-call limit $" ++ decimalText permission.maxSpendPerCallUsd ++ "."), some agent)
        else
          match agent.canSpend host request.requestedSpendUsd with
          | none => none
          | some (agent, false) =>
            some (denied request "DailyBudgetExceeded" ("Requested spend $" ++ decimalText request.requestedSpendUsd ++
              " exceeds daily budget cap $" ++ decimalText agent.dailyBudgetCapUsd ++ "."), some agent)
          | some (agent, true) =>
            match store.policy? host agent.organizationId with
            | none =>
              some (denied request "NoActivePolicy" ("Organization '" ++ agent.organizationId ++
                "' has no active governance policy; execution is denied by default."), some agent)
            | some policy => some (governed request policy, some agent)

variable {host : Host} {store : Store} {request : EvaluateExecutionRequestDto} {result : PolicyEvaluationResult}
  {agent afterwards : AgentIdentity} {kept : Option AgentIdentity} {permission : ToolPermission} {policy : GovernancePolicy}

structure Complies (host : Host) (store : Store) (request : EvaluateExecutionRequestDto) (agent afterwards : AgentIdentity)
    (permission : ToolPermission) (policy : GovernancePolicy) : Prop where
  found : store.agent? request.agentId = some agent
  active : agent.status = .active
  permitted : agent.permission? host request.toolName = some permission
  ceiling : request.actionRisk ≤ permission.riskLevel
  perCall : request.requestedSpendUsd.value ≤ permission.maxSpendPerCallUsd.value
  budget : agent.canSpend host request.requestedSpendUsd = some (afterwards, true)
  governed : store.policy? host agent.organizationId = some policy
  maximum : request.actionRisk ≤ policy.maxAllowedRiskLevel
  threshold : request.requestedSpendUsd.value ≤ policy.autoApprovalSpendThresholdUsd.value

theorem canSpend_organization {amountUsd : HostDecimal} {answer : Bool}
    (checked : agent.canSpend host amountUsd = some (afterwards, answer)) : afterwards.organizationId = agent.organizationId := by
  obtain ⟨total, -, left⟩ := Option.map_eq_some_iff.mp checked
  rw [← (Prod.mk.inj left).1, AgentIdentity.resetDailyBudgetIfExpired]
  split <;> rfl

theorem policy?_active {organizationId : String} (found : store.policy? host organizationId = some policy) :
    policy.isActive = true := by
  have listed := mem_orderBy.mp (List.mem_of_mem_head? found)
  have kept := (List.mem_filter.mp listed).2
  simp only [Bool.and_eq_true] at kept
  exact kept.1.2

theorem evaluateSpend_allow_iff {requestedSpendUsd : HostDecimal} {actionRisk : RiskLevel} (active : policy.isActive = true) :
    policy.evaluateSpend requestedSpendUsd actionRisk = .allow ↔
      actionRisk ≤ policy.maxAllowedRiskLevel ∧ requestedSpendUsd.value ≤ policy.autoApprovalSpendThresholdUsd.value := by
  unfold GovernancePolicy.evaluateSpend
  rw [if_neg (by simp [active]), ← not_lt, ← not_lt]
  split_ifs with above beyond multiSig
  · simp [above]
  · simp [beyond]
  · simp [beyond]
  · exact iff_of_true rfl ⟨above, beyond⟩

theorem evaluatedRisk_eq (evaluated : evaluateExecutionAsync host store request = some (result, kept)) :
    result.evaluatedRisk = request.actionRisk := by
  unfold evaluateExecutionAsync at evaluated
  repeat' split at evaluated
  all_goals first | cases evaluated; rfl | cases evaluated

theorem complies_of_allowed (evaluated : evaluateExecutionAsync host store request = some (result, kept))
    (allowed : result.isAllowed = true) :
    ∃ agent afterwards permission policy, Complies host store request agent afterwards permission policy := by
  have refuses {policyName reasoning : String} {kept' : Option AgentIdentity}
      (same : some (denied request policyName reasoning, kept') = some (result, kept)) : False := by
    cases same
    cases allowed
  unfold evaluateExecutionAsync at evaluated
  split at evaluated
  · exact (refuses evaluated).elim
  rename_i agent found
  split at evaluated
  · exact (refuses evaluated).elim
  rename_i active
  split at evaluated
  · exact (refuses evaluated).elim
  rename_i permission permitted
  split at evaluated
  · exact (refuses evaluated).elim
  rename_i ceiling
  split at evaluated
  · exact (refuses evaluated).elim
  rename_i perCall
  split at evaluated
  · cases evaluated
  · exact (refuses evaluated).elim
  rename_i afterwards budget
  split at evaluated
  · exact (refuses evaluated).elim
  rename_i policy governs
  cases evaluated
  have within := (evaluateSpend_allow_iff (policy?_active governs)).mp (of_decide_eq_true allowed)
  rw [canSpend_organization budget] at governs
  exact ⟨agent, afterwards, permission, policy, found, not_not.mp active, permitted, not_lt.mp ceiling, not_lt.mp perCall, budget,
    governs, within.1, within.2⟩

theorem evaluate_of_complies (complies : Complies host store request agent afterwards permission policy) :
    evaluateExecutionAsync host store request = some (governed request policy, some afterwards) ∧
      (governed request policy).isAllowed = true := by
  have governs := complies.governed
  rw [← canSpend_organization complies.budget] at governs
  have allowed := (evaluateSpend_allow_iff (policy?_active governs)).mpr ⟨complies.maximum, complies.threshold⟩
  constructor
  · simp only [evaluateExecutionAsync, complies.found, complies.permitted, complies.budget, governs]
    rw [if_neg (not_not.mpr complies.active), if_neg (not_lt.mpr complies.ceiling), if_neg (not_lt.mpr complies.perCall)]
  · exact decide_eq_true allowed

end AgentOps.RiskScreen
