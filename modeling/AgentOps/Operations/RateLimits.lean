import AgentOps.Lib.Query
import AgentOps.Lib.Table
import AgentOps.Lib.Transition
import AgentOps.Policy.ResourceDomains

namespace AgentOps.Operations
open Lib Identity
open Policy (PolicyDecisionValue PolicyTargetType BindingTarget OperationInput objectAt normalizedContext)
open Payments (stringValue)

/-! # Rate limits of operation checks -/

abbrev RateLimitId := Nat

inductive RateLimitStatus where
  | active
  | disabled
  deriving DecidableEq

structure RateLimitRow where
  id : RateLimitId
  org_id : OrgId
  target : BindingTarget
  action_id : String
  bucket : String
  limit_count : Nat
  window_seconds : Nat
  status : RateLimitStatus
  created_at : Time
  deriving DecidableEq

structure OperationCheck where
  orgId : OrgId
  agentId : AgentId
  teamId : Policy.TeamId
  connectionId : Option ConnectionId
  action : String
  bucket : String
  policyDecision : PolicyDecisionValue
  deriving DecidableEq

def toolName (context : JsonObject) : Option String := stringValue ((objectAt context "tool").string? "name")

def operationBucket (action : String) (context : JsonObject) : String :=
  if action = "tool.call" then "tool:" ++ (toolName context).getD "unknown"
  else
    let resource := objectAt context "resource"
    "resource:" ++ (((stringValue (resource.string? "domain")).or (stringValue (resource.string? "category"))).or
      (stringValue (resource.string? "url"))).getD "unknown"

def operationCheckOf (newURL : String → Option PaidHttp.Url) (orgId : OrgId) (teamId : Policy.TeamId) (input : OperationInput)
    (policyDecision : PolicyDecisionValue) : OperationCheck where
  orgId
  agentId := input.agent_id
  teamId
  connectionId := input.connection_id
  action := input.action
  bucket := operationBucket input.action (normalizedContext newURL input)
  policyDecision

namespace OperationCheck

variable (check : OperationCheck)

def targetCandidates : List BindingTarget :=
  (check.connectionId.toList.map fun connectionId => ⟨.connection, connectionId⟩) ++
    [⟨.agent, check.agentId⟩, ⟨.team, check.teamId⟩, ⟨.org, check.orgId⟩]

/-- `policyDecision.decision === 'allow' || policyDecision.decision === 'observe'` -/
def permitted : Bool := check.policyDecision = .allow || check.policyDecision = .observe

end OperationCheck

def RateLimitRow.covers (limit : RateLimitRow) (check : OperationCheck) : Bool :=
  limit.org_id = check.orgId && limit.action_id = check.action && (limit.bucket = check.bucket || limit.bucket = "default") &&
    limit.target ∈ check.targetCandidates

def targetRank : PolicyTargetType → Nat
  | .connection => 1
  | .agent => 2
  | .team => 3
  | .org => 4

def RateLimitRow.bucketRank (limit : RateLimitRow) (bucket : String) : Nat := if limit.bucket = bucket then 1 else 2

/-- `ORDER BY` target, bucket, `created_at` -/
def inOrder (bucket : String) (limit other : RateLimitRow) : Bool :=
  targetRank limit.target.type < targetRank other.target.type ||
    (targetRank limit.target.type = targetRank other.target.type &&
      (limit.bucketRank bucket < other.bucketRank bucket ||
        (limit.bucketRank bucket = other.bucketRank bucket && limit.created_at ≤ other.created_at)))

def rateLimitOf (limits : Table RateLimitRow.id) (check : OperationCheck) : Option RateLimitRow :=
  if check.permitted && check.connectionId.isSome then
    (orderBy (inOrder check.bucket) (limits.rows.filter fun limit => limit.status = .active && limit.covers check)).head?
  else none

/-- The key of `operational_rate_counters` -/
structure CounterKey where
  rate_limit_id : RateLimitId
  agent_id : AgentId
  connection_id : Option ConnectionId
  bucket : String
  window_start : Nat
  deriving DecidableEq

def RateLimitRow.windowStart (limit : RateLimitRow) (now : Nat) : Nat :=
  let windowMs := limit.window_seconds * 1000
  now / windowMs * windowMs

def counterKeyOf (check : OperationCheck) (limit : RateLimitRow) (now : Nat) : CounterKey where
  rate_limit_id := limit.id
  agent_id := check.agentId
  connection_id := check.connectionId
  bucket := check.bucket
  window_start := limit.windowStart now

structure Answered where
  check : OperationCheck
  answeredAt : Nat
  rateLimited : Bool
  deriving DecidableEq

structure RateWorld where
  limits : Table RateLimitRow.id
  /-- A counter that has no row is at zero. -/
  counters : CounterKey → Nat
  counting : List (OperationCheck × RateLimitRow)
  answered : List Answered

inductive RateLabel where
  | consults (check : OperationCheck) (now : Nat)
  | counts (check : OperationCheck) (limit : RateLimitRow) (now : Nat)

/-- The two statements of `applyRateLimit`, each on its own -/
def RateWorld.step (s : RateWorld) : RateLabel → Option RateWorld
  | .consults check now =>
    match rateLimitOf s.limits check with
    | none => some { s with answered := ⟨check, now, false⟩ :: s.answered }
    | some limit => some { s with counting := (check, limit) :: s.counting }
  | .counts check limit now =>
    if (check, limit) ∈ s.counting then
      let count := s.counters (counterKeyOf check limit now) + 1
      some
        { s with
          counters := Function.update s.counters (counterKeyOf check limit now) count
          counting := s.counting.erase (check, limit)
          answered := ⟨check, now, limit.limit_count < count⟩ :: s.answered }
    else none

def RateWorld.start (limits : Table RateLimitRow.id) : RateWorld := ⟨limits, fun _ => 0, [], []⟩

theorem inOrder_total (bucket : String) (limit other : RateLimitRow) :
    inOrder bucket limit other = true ∨ inOrder bucket other limit = true := by
  simp only [inOrder, Bool.or_eq_true, Bool.and_eq_true, decide_eq_true_eq]
  grind

theorem inOrder_trans (bucket : String) (limit other last : RateLimitRow) (first : inOrder bucket limit other = true)
    (second : inOrder bucket other last = true) : inOrder bucket limit last = true := by
  simp only [inOrder, Bool.or_eq_true, Bool.and_eq_true, decide_eq_true_eq] at first second ⊢
  grind

variable {limits : Table RateLimitRow.id} {limit : RateLimitRow} {check : OperationCheck}

theorem rateLimitOf_some (read : rateLimitOf limits check = some limit) :
    check.permitted = true ∧ check.connectionId.isSome = true ∧ limit ∈ limits ∧ limit.status = .active ∧ limit.covers check = true ∧
      ∀ other ∈ limits, other.status = .active → other.covers check = true → inOrder check.bucket limit other = true := by
  unfold rateLimitOf at read
  split at read
  · rename_i counted
    rw [Bool.and_eq_true] at counted
    obtain ⟨member, first⟩ := head_orderBy (inOrder_total check.bucket) (inOrder_trans check.bucket) read
    simp only [List.mem_filter, Bool.and_eq_true, decide_eq_true_eq, and_imp] at member first
    exact ⟨counted.1, counted.2, member.1, member.2.1, member.2.2, first⟩
  · cases read

def CounterKey.counts (key : CounterKey) (limits : Table RateLimitRow.id) (limit : RateLimitRow) (answered : Answered) : Bool :=
  rateLimitOf limits answered.check = some limit && counterKeyOf answered.check limit answered.answeredAt = key

structure Counted (limits : Table RateLimitRow.id) (s : RateWorld) : Prop where
  same : s.limits = limits
  read : ∀ entry ∈ s.counting, rateLimitOf limits entry.1 = some entry.2
  counter : ∀ limit ∈ limits, ∀ key, key.rate_limit_id = limit.id →
    s.counters key = (s.answered.filter (key.counts limits limit)).length
  passed : ∀ limit ∈ limits, ∀ key, key.rate_limit_id = limit.id →
    (s.answered.filter fun answered => key.counts limits limit answered && !answered.rateLimited).length =
      min limit.limit_count (s.counters key)

theorem counted_start : Counted limits (.start limits) where
  same := rfl
  read := by simp [RateWorld.start]
  counter := by simp [RateWorld.start]
  passed := by simp [RateWorld.start]

theorem counted_step {s s' : RateWorld} {label : RateLabel} (counted : Counted limits s) (taken : s.step label = some s') :
    Counted limits s' := by
  cases label with
  | consults check now =>
    simp only [RateWorld.step, counted.same] at taken
    split at taken
    · rename_i unread
      obtain rfl := Option.some.inj taken
      have apart (key : CounterKey) (limit : RateLimitRow) : key.counts limits limit ⟨check, now, false⟩ = false := by
        simp [CounterKey.counts, unread]
      exact ⟨rfl, counted.read, by simpa [apart] using counted.counter, by simpa [apart] using counted.passed⟩
    · rename_i limit read
      obtain rfl := Option.some.inj taken
      refine ⟨rfl, ?_, counted.counter, counted.passed⟩
      simpa [read] using counted.read
  | counts check limit now =>
    simp only [RateWorld.step] at taken
    split at taken
    · rename_i pending
      obtain rfl := Option.some.inj taken
      have read : rateLimitOf limits check = some limit := counted.read _ pending
      have member := (rateLimitOf_some read).2.2.1
      -- An answer of another limit is under another counter.
      have only (key : CounterKey) (other : RateLimitRow) (listed : other ∈ limits) (own : key.rate_limit_id = other.id)
          (limited : Bool) : key.counts limits other ⟨check, now, limited⟩ = true ↔ counterKeyOf check limit now = key := by
        simp only [CounterKey.counts, Bool.and_eq_true, decide_eq_true_eq, read, Option.some.injEq]
        constructor
        · rintro ⟨rfl, same⟩
          exact same
        · rintro rfl
          exact ⟨Table.eq_of_key member listed own, by rw [Table.eq_of_key member listed own]⟩
      refine ⟨counted.same, fun entry kept => counted.read entry (List.mem_of_mem_erase kept), fun other listed key own => ?_,
        fun other listed key own => ?_⟩
      · dsimp only
        by_cases here : counterKeyOf check limit now = key
        · subst here
          rw [Function.update_self, List.filter_cons_of_pos ((only _ other listed own _).mpr rfl), List.length_cons,
            counted.counter other listed _ own]
        · rw [Function.update_of_ne (Ne.symm here), List.filter_cons_of_neg (mt (only key other listed own _).mp here)]
          exact counted.counter other listed key own
      · have before := counted.passed other listed key own
        dsimp only
        by_cases here : counterKeyOf check limit now = key
        · subst here
          obtain rfl := Table.eq_of_key member listed own
          have counts := (only _ limit listed own (decide (limit.limit_count < s.counters (counterKeyOf check limit now) + 1))).mpr rfl
          rw [Function.update_self]
          by_cases full : limit.limit_count < s.counters (counterKeyOf check limit now) + 1
          · rw [List.filter_cons_of_neg (by simp [full]), before]
            omega
          · rw [List.filter_cons_of_pos (by simpa [full] using counts), List.length_cons, before]
            omega
        · have apart (limited : Bool) : key.counts limits other ⟨check, now, limited⟩ = false :=
            Bool.eq_false_iff.mpr (mt (only key other listed own limited).mp here)
          rw [Function.update_of_ne (Ne.symm here), List.filter_cons_of_neg (by simp only [apart, Bool.false_and]; decide)]
          exact before
    · cases taken

theorem counted_of_run {events : List (RateWorld × RateLabel)} {s : RateWorld}
    (run : Run RateWorld.step (.start limits) events s) : Counted limits s :=
  run.always (Counted limits) counted_start fun _ _ _ counted taken => counted_step counted taken

def RateLimitRow.subject (limits : Table RateLimitRow.id) (limit : RateLimitRow) (agentId : AgentId) (connectionId : ConnectionId)
    (bucket : String) (window : Nat) (answered : Answered) : Bool :=
  answered.check.agentId = agentId && answered.check.connectionId = some connectionId && answered.check.bucket = bucket &&
    rateLimitOf limits answered.check = some limit && limit.windowStart answered.answeredAt = window

/-- Each connection has a limit to itself in each bucket: the limit that is first of those that cover its check. -/
theorem rateLimit_perConnection {events : List (RateWorld × RateLabel)} {s : RateWorld}
    (run : Run RateWorld.step (.start limits) events s) (limit : RateLimitRow) (member : limit ∈ limits) (agentId : AgentId)
    (connectionId : ConnectionId) (bucket : String) (window : Nat) :
    (s.answered.filter fun answered => limit.subject limits agentId connectionId bucket window answered && !answered.rateLimited).length =
        min limit.limit_count (s.answered.filter (limit.subject limits agentId connectionId bucket window)).length ∧
      ∀ check, rateLimitOf limits check = some limit →
        check.permitted = true ∧ limit.status = .active ∧ limit.covers check = true ∧
          ∀ other ∈ limits, other.status = .active → other.covers check = true → inOrder check.bucket limit other = true := by
  have counted := counted_of_run run
  have same : limit.subject limits agentId connectionId bucket window =
      CounterKey.counts ⟨limit.id, agentId, some connectionId, bucket, window⟩ limits limit := by
    funext answered
    rw [Bool.eq_iff_iff]
    simp only [RateLimitRow.subject, CounterKey.counts, counterKeyOf, Bool.and_eq_true, decide_eq_true_eq, CounterKey.mk.injEq]
    tauto
  rw [same, counted.passed limit member _ rfl, counted.counter limit member _ rfl]
  refine ⟨rfl, fun check read => ?_⟩
  obtain ⟨permitted, -, -, active, covers, first⟩ := rateLimitOf_some read
  exact ⟨permitted, active, covers, first⟩

def Bounds (counted : Table RateLimitRow.id → RateLimitRow → OperationCheck → Bool) : Prop :=
  ∀ (limits : Table RateLimitRow.id) (events : List (RateWorld × RateLabel)) (s : RateWorld),
    Run RateWorld.step (.start limits) events s → ∀ limit ∈ limits, limit.status = .active → ∀ window,
      (s.answered.filter fun answered => counted limits limit answered.check && limit.windowStart answered.answeredAt = window &&
        !answered.rateLimited).length ≤ limit.limit_count

theorem not_bounds {counted : Table RateLimitRow.id → RateLimitRow → OperationCheck → Bool} (limits : Table RateLimitRow.id)
    (limit : RateLimitRow) (member : limit ∈ limits) (active : limit.status = .active) (labels : List RateLabel)
    (more : ((exec RateWorld.step (.start limits) labels).any fun result => decide
      (limit.limit_count < (result.2.answered.filter fun answered => counted limits limit answered.check &&
        limit.windowStart answered.answeredAt = 0 && !answered.rateLimited).length)) = true) : ¬Bounds counted := by
  intro bounds
  obtain ⟨events, s, run, above⟩ := exists_run labels (fun s : RateWorld => limit.limit_count < (s.answered.filter fun answered =>
    counted limits limit answered.check && limit.windowStart answered.answeredAt = 0 && !answered.rateLimited).length) more
  exact absurd (bounds limits events s run limit member active 0) (Nat.not_le.mpr above)

def oncePerMinute : RateLimitRow where
  id := 1
  org_id := 1
  target := ⟨.agent, 7⟩
  action_id := "tool.call"
  bucket := "default"
  limit_count := 1
  window_seconds := 60
  status := .active
  created_at := 0

def callBy (connectionId : ConnectionId) (bucket : String) (policyDecision : PolicyDecisionValue) : OperationCheck where
  orgId := 1
  agentId := 7
  teamId := 3
  connectionId := some connectionId
  action := "tool.call"
  bucket
  policyDecision

def searches : List RateLabel :=
  [.consults (callBy 1 "tool:search" .allow) 0, .counts (callBy 1 "tool:search" .allow) oncePerMinute 0,
    .consults (callBy 2 "tool:search" .allow) 1, .counts (callBy 2 "tool:search" .allow) oncePerMinute 1]

/-- Two connections of the agent are let through once each. -/
theorem rateLimit_perTarget_fails : ¬Bounds fun _ limit check => check.connectionId.isSome && limit.covers check :=
  not_bounds (.singleton oncePerMinute) oncePerMinute (List.mem_singleton_self _) rfl searches (by decide)

def twicePerMinute : RateLimitRow := { oncePerMinute with id := 2, target := ⟨.connection, 1⟩, limit_count := 2 }

theorem rateLimit_perConnection_only :
    (¬Bounds fun limits limit check => check.connectionId = some 1 && rateLimitOf limits check = some limit) ∧
      (¬Bounds fun _ limit check =>
        check.connectionId = some 1 && check.bucket = "tool:search" && check.permitted && limit.covers check) ∧
      ¬Bounds fun _ limit check => check.connectionId = some 1 && check.bucket = "tool:search" && limit.covers check := by
  refine ⟨not_bounds (.singleton oncePerMinute) oncePerMinute (List.mem_singleton_self _) rfl
      [.consults (callBy 1 "tool:search" .allow) 0, .counts (callBy 1 "tool:search" .allow) oncePerMinute 0,
        .consults (callBy 1 "tool:read" .allow) 1, .counts (callBy 1 "tool:read" .allow) oncePerMinute 1] (by decide),
    not_bounds ⟨[oncePerMinute, twicePerMinute], by decide⟩ oncePerMinute List.mem_cons_self rfl
      [.consults (callBy 1 "tool:search" .allow) 0, .counts (callBy 1 "tool:search" .allow) twicePerMinute 0,
        .consults (callBy 1 "tool:search" .allow) 1, .counts (callBy 1 "tool:search" .allow) twicePerMinute 1] (by decide),
    not_bounds (.singleton oncePerMinute) oncePerMinute (List.mem_singleton_self _) rfl
      [.consults (callBy 1 "tool:search" .deny) 0, .consults (callBy 1 "tool:search" .deny) 1] (by decide)⟩

theorem rateLimit_perConnection_once : ∃ events s, Run RateWorld.step (.start (.singleton oncePerMinute)) events s ∧
    s.answered.length = 2 ∧
    (s.answered.filter fun answered => oncePerMinute.subject (.singleton oncePerMinute) 7 1 "tool:search" 0 answered &&
        !answered.rateLimited).length =
      min 1 (s.answered.filter (oncePerMinute.subject (.singleton oncePerMinute) 7 1 "tool:search" 0)).length := by
  obtain ⟨events, s, run, both⟩ : ∃ events s, Run RateWorld.step (.start (.singleton oncePerMinute)) events s ∧ s.answered.length = 2 :=
    exists_run searches _ (by decide)
  exact ⟨events, s, run, both, (rateLimit_perConnection run oncePerMinute (List.mem_singleton_self _) 7 1 "tool:search" 0).1⟩

end AgentOps.Operations
