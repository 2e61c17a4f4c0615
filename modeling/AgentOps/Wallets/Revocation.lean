import AgentOps.Evidence.Recording
import AgentOps.Payments.Quote
import AgentOps.Wallets.Provisioning

namespace AgentOps.Wallets
open Lib Identity Payments
open Treasury (AllocationStatus JobStatus WalletStatus)
open Evidence (AuditStore Host JsonData RecordAuditEventInput recordAuditEvent findByKey)

/-! # Revoking agents -/

structure AgentAllocation where
  id : String
  orgId : OrgId
  agentId : AgentId
  mode : PaymentMode
  chain : PaymentChain
  allocatedUsdc : Nat
  gasReserveUsdc : Nat
  lowWaterMarkUsdc : Nat
  ceilingUsdc : Nat
  status : AllocationStatus
  createdBy : String
  deriving DecidableEq

/-- `UNIQUE (agent_id, mode, chain)` -/
def AgentAllocation.key (row : AgentAllocation) : AgentId × PaymentMode × PaymentChain := (row.agentId, row.mode, row.chain)

structure AgentStore where
  wallets : WalletStore
  agentAllocations : Table AgentAllocation.key
  audit : AuditStore

/-- A call of `revokeAgent`, with the ids that it draws and the time of its event -/
structure RevokeAgentCall where
  actorId : String
  orgId : OrgId
  agentId : AgentId
  mode : PaymentMode
  reason : String
  jobId : PaymentChain → JobId
  eventId : String
  now : Time

structure SetAllocationInput where
  orgId : OrgId
  agentId : AgentId
  mode : PaymentMode
  chain : PaymentChain
  allocatedUsdc : Nat
  gasReserveUsdc : Option Nat
  lowWaterMarkUsdc : Option Nat
  ceilingUsdc : Option Nat
  createdBy : String
  deriving DecidableEq

inductive SetStatus where
  | active
  | paused
  | deactivated
  deriving DecidableEq

def SetStatus.status : SetStatus → AgentStatus
  | .active => .active
  | .paused => .paused
  | .deactivated => .deactivated

def SetStatus.action : SetStatus → String
  | .active => "agent.activated"
  | .paused => "agent.paused"
  | .deactivated => "agent.deactivated"

/-- A call of `setAgentStatus`, with what its event draws -/
structure SetAgentStatusCall where
  actorId : String
  orgId : OrgId
  agentId : AgentId
  status : SetStatus
  idempotencyId : String
  eventId : String
  now : Time

namespace RevokeAgentCall

def payload (call : RevokeAgentCall) (chains : List PaymentChain) : JsonData where
  value := .object [("chains_swept", .array (chains.map fun chain => .string chain.name)), ("reason", .string call.reason)]
  distinct := by
    simp only [Json.distinct_object, Json.distinct_array, List.map_cons, List.map_nil, List.forall_mem_cons]
    refine ⟨by decide, ?_, rfl, List.forall_mem_nil _⟩
    simp [Json.Distinct, Json.all, Json.distinctKeys]
  numbers := by
    simp only [Json.numbers_object, Json.numbers_array, List.forall_mem_cons]
    refine ⟨?_, rfl, List.forall_mem_nil _⟩
    simp [Json.Numbers, Json.all, Json.numberText]

def idempotencyKey (call : RevokeAgentCall) : String := "agent.revoked:" ++ call.agentId

def event (call : RevokeAgentCall) (chains : List PaymentChain) : RecordAuditEventInput where
  orgId := call.orgId
  idempotencyKey := some call.idempotencyKey
  eventType := "agent.revoked"
  occurredAt := none
  actor := ⟨.user, some call.actorId⟩
  action := "agent.revoke"
  outcome := .success
  reasonCode := some call.reason
  resource := some ⟨"agent", call.agentId⟩
  classification := some ⟨some .payment, some .financial, some .critical, some ["section_9", "agent_revocation"]⟩
  relations := some ⟨some call.agentId, none, none, none, none, none⟩
  requestId := none
  source := some ⟨some "section_9", some "payments", none⟩
  refs := some ⟨none, none, none⟩
  externalRefs := none
  retentionClass := some .payment
  payload := some (call.payload chains)

def sweepJob (call : RevokeAgentCall) (chain : PaymentChain) : CircleProviderJob where
  id := call.jobId chain
  orgId := call.orgId
  mode := call.mode
  jobType := .agentWalletSweep
  chain := some chain
  status := .queued
  agentId := some call.agentId
  reason := some call.reason
  amountUsdc := none
  providerRef := none
  errorCode := none
  createdBy := call.actorId

end RevokeAgentCall

/-- The event of `recordIdentityEvent` for a change of an agent's status -/
def SetAgentStatusCall.event (call : SetAgentStatusCall) : RecordAuditEventInput where
  orgId := call.orgId
  idempotencyKey := some (call.status.action ++ ":" ++ call.agentId ++ ":" ++ call.idempotencyId)
  eventType := call.status.action
  occurredAt := none
  actor := ⟨.user, some call.actorId⟩
  action := call.status.action
  outcome := .success
  reasonCode := none
  resource := some ⟨"agent", call.agentId⟩
  classification := some ⟨some .identity, some .configuration, some .info, some ["section_1", "agent"]⟩
  relations := some ⟨some call.agentId, none, none, none, none, none⟩
  requestId := none
  source := some ⟨some "section_1", some "identity", none⟩
  refs := none
  externalRefs := none
  retentionClass := none
  payload := some Evidence.emptyObject

namespace AgentStore

def activeWallets (s : AgentStore) (agentId : AgentId) (mode : PaymentMode) : List AgentChainWallet :=
  s.wallets.agentChainWallets.rows.filter fun wallet => wallet.agentId = agentId && wallet.mode = mode && wallet.status = .active

def sweepJobs (s : AgentStore) (call : RevokeAgentCall) : Option (Table CircleProviderJob.id) :=
  s.wallets.circleProviderJobs.insertAll? ((s.activeWallets call.agentId call.mode).map fun wallet => call.sweepJob wallet.chain)

def suspend (agent : Agent) : Agent := { agent with status := .suspended }

def revokes (call : RevokeAgentCall) (row : AgentAllocation) : Bool :=
  row.agentId = call.agentId && row.mode = call.mode && row.status = .active

def revokeRow (call : RevokeAgentCall) (row : AgentAllocation) : AgentAllocation :=
  if revokes call row then { row with status := .revoked } else row

theorem revokeRow_key {call : RevokeAgentCall} (row : AgentAllocation) : (revokeRow call row).key = row.key := by
  unfold revokeRow
  split <;> rfl

def revoked (s : AgentStore) (call : RevokeAgentCall) (jobs : Table CircleProviderJob.id) (audit : AuditStore) : AgentStore where
  wallets := { s.wallets with agents := s.wallets.agents.modify call.agentId suspend, circleProviderJobs := jobs }
  agentAllocations := s.agentAllocations.rewrite (revokeRow call) revokeRow_key
  audit

def revokeAgent (host : Host) (parseJson : String → Option JsonData) (s : AgentStore) (call : RevokeAgentCall) :
    Except Failure AgentStore :=
  match s.wallets.agents.find? call.agentId with
  | none => .error (.thrown "agent_not_found")
  | some agent =>
    if agent.orgId ≠ call.orgId then .error (.thrown "agent_not_found")
    else
      let wallets := s.activeWallets call.agentId call.mode
      match s.sweepJobs call with
      | none => .error (.constraint "circle_provider_jobs_pkey")
      | some jobs =>
        -- the reason stands in the metadata of every job
        if !wallets.isEmpty && !storableText call.reason then .error Evidence.invalidJson
        else match recordAuditEvent host parseJson s.audit call.now call.eventId (call.event (wallets.map (·.chain))) with
        | .error failure => .error failure
        | .ok (audit, _) => .ok (s.revoked call jobs audit)

def setAgentStatus (host : Host) (parseJson : String → Option JsonData) (s : AgentStore) (call : SetAgentStatusCall) :
    Except Failure AgentStore :=
  match s.wallets.agents.find? call.agentId with
  | none => .error (.identity (notFound "Agent was not found."))
  | some agent =>
    if agent.orgId ≠ call.orgId then .error (.identity (notFound "Agent was not found."))
    else match recordAuditEvent host parseJson s.audit call.now call.eventId call.event with
    | .error failure => .error failure
    | .ok (audit, _) => .ok { s with
        wallets := { s.wallets with agents := s.wallets.agents.modify call.agentId ({ · with status := call.status.status }) }
        audit }

def allocatedToOthers (s : AgentStore) (input : SetAllocationInput) : Nat :=
  s.agentAllocations.sum fun row =>
    if row.orgId = input.orgId ∧ row.mode = input.mode ∧ row.chain = input.chain ∧ row.status = .active ∧ row.agentId ≠ input.agentId then
      row.allocatedUsdc
    else 0

/-- The row that `INSERT … ON CONFLICT DO UPDATE` leaves -/
def allocationRow (s : AgentStore) (rowId : String) (input : SetAllocationInput) : AgentAllocation :=
  match s.agentAllocations.find? (input.agentId, input.mode, input.chain) with
  | none => {
      id := rowId
      orgId := input.orgId
      agentId := input.agentId
      mode := input.mode
      chain := input.chain
      allocatedUsdc := input.allocatedUsdc
      gasReserveUsdc := input.gasReserveUsdc.getD 0
      lowWaterMarkUsdc := input.lowWaterMarkUsdc.getD 0
      ceilingUsdc := input.ceilingUsdc.getD input.allocatedUsdc
      status := .active
      createdBy := input.createdBy }
  | some stored => { stored with
      allocatedUsdc := input.allocatedUsdc
      gasReserveUsdc := input.gasReserveUsdc.getD 0
      lowWaterMarkUsdc := input.lowWaterMarkUsdc.getD 0
      ceilingUsdc := input.ceilingUsdc.getD input.allocatedUsdc }

/-- The table's checks, and the range of `numeric(20, 6)` -/
def allocationChecks (row : AgentAllocation) : Bool :=
  decide (row.allocatedUsdc ≤ row.ceilingUsdc) && decide (row.lowWaterMarkUsdc ≤ row.allocatedUsdc) &&
    decide (row.ceilingUsdc < 10 ^ 20) && decide (row.gasReserveUsdc < 10 ^ 20)

/-- `gatewayBalance` is what the provider says of the treasury's deposits. -/
def setAllocation (s : AgentStore) (gatewayBalance : Answer Nat) (rowId : String) (input : SetAllocationInput) :
    Except Failure AgentStore :=
  match s.wallets.treasuryWallet input.orgId input.mode input.chain, gatewayBalance with
  | none, _ => .error (.thrown "circle_wallet_missing")
  | some _, .error message => .error (.thrown (message.getD ""))
  | some _, .ok deposits =>
    if deposits < s.allocatedToOthers input + input.allocatedUsdc then
      .error (conflict "allocation_exceeds_treasury_solvency" "Total agent allocations would exceed treasury deposits for this chain.")
    else if (s.wallets.agents.find? input.agentId).isNone then .error (.constraint "agent_allocations_agent_id_fkey")
    else if !allocationChecks (s.allocationRow rowId input) then .error (.constraint "agent_allocations_check")
    else .ok { s with agentAllocations := s.agentAllocations.upsert (s.allocationRow rowId input) }

end AgentStore

inductive AgentLabel where
  | revokeAgent (call : RevokeAgentCall)
  | setAgentStatus (call : SetAgentStatusCall)
  | setAllocation (gatewayBalance : Answer Nat) (rowId : String) (input : SetAllocationInput)
  | wallets (label : WalletLabel)

/-- Each call under the organization's lock. One that throws leaves the tables as they are; ids are drawn that are new. -/
def agentStep (host : Host) (parseJson : String → Option JsonData) (s : AgentStore) : AgentLabel → Option AgentStore
  | .revokeAgent call =>
    if (s.sweepJobs call).isSome then some ((s.revokeAgent host parseJson call).toOption.getD s) else none
  | .setAgentStatus call => some ((s.setAgentStatus host parseJson call).toOption.getD s)
  | .setAllocation gatewayBalance rowId input => some ((s.setAllocation gatewayBalance rowId input).toOption.getD s)
  | .wallets label => (walletStep s.wallets label).map fun wallets => { s with wallets }

variable {host : Host} {parseJson : String → Option JsonData} {s s' : AgentStore} {call : RevokeAgentCall}

def unfinished (status : JobStatus) : Bool := status ≠ .complete && status ≠ .failed

def sweeps (call : RevokeAgentCall) (chain : PaymentChain) (job : CircleProviderJob) : Bool :=
  job.jobType = .agentWalletSweep && job.agentId = some call.agentId && job.mode = call.mode && job.chain = some chain &&
    unfinished job.status

namespace AgentStore

def unfinishedSweeps (s : AgentStore) (call : RevokeAgentCall) (chain : PaymentChain) : Nat :=
  s.wallets.circleProviderJobs.rows.countP (sweeps call chain)

def revocationEvents (s : AgentStore) (call : RevokeAgentCall) : Nat :=
  s.audit.events.rows.countP fun row => row.org_id = call.orgId && row.event_type = "agent.revoked" && row.resource_id = some call.agentId

end AgentStore

def Known (s : AgentStore) (call : RevokeAgentCall) : Prop :=
  ∃ agent ∈ s.wallets.agents, agent.id = call.agentId ∧ agent.orgId = call.orgId

def Changes (s : AgentStore) (call : RevokeAgentCall) : Prop :=
  (∃ agent ∈ s.wallets.agents, agent.id = call.agentId ∧ agent.status ≠ .suspended) ∨
    (∃ row ∈ s.agentAllocations, AgentStore.revokes call row = true) ∨ s.activeWallets call.agentId call.mode ≠ []

structure Revoked (s : AgentStore) (call : RevokeAgentCall) (s' : AgentStore) : Prop where
  suspended : ∀ agent ∈ s'.wallets.agents, agent.id = call.agentId → agent.status = .suspended
  unallocated : ∀ row ∈ s'.agentAllocations, row.agentId = call.agentId → row.mode = call.mode → row.status ≠ .active
  swept : ∀ wallet ∈ s'.activeWallets call.agentId call.mode, s'.unfinishedSweeps call wallet.chain = 1
  recorded : Changes s call → s'.revocationEvents call = s.revocationEvents call + 1

def AgentStore.revocationEvent (s : AgentStore) (call : RevokeAgentCall) : RecordAuditEventInput :=
  call.event ((s.activeWallets call.agentId call.mode).map (·.chain))

/-- What the writer of audit events makes of the revocation: it appends the first event of the agent, where the database takes it, and
takes a later one for the first where its body is the same. -/
def Records (host : Host) (parseJson : String → Option JsonData) (s : AgentStore) (call : RevokeAgentCall) : Prop :=
  let canonicalBodyHash := Evidence.sha256Hex host (Evidence.buildCanonicalBody (s.revocationEvent call)).value
  match findByKey s.audit.events call.orgId call.idempotencyKey with
  | none => ∃ result,
    Evidence.appendEvent host parseJson s.audit call.now call.eventId (s.revocationEvent call) canonicalBodyHash = .ok result
  | some existing => existing.canonical_body_hash = canonicalBodyHash ∧ ¬Changes s call

structure Repeatable (host : Host) (parseJson : String → Option JsonData) (s : AgentStore) (call : RevokeAgentCall) : Prop where
  unswept : ∀ wallet ∈ s.activeWallets call.agentId call.mode, s.unfinishedSweeps call wallet.chain = 0
  storable : s.activeWallets call.agentId call.mode ≠ [] → storableText call.reason = true
  records : Records host parseJson s call

theorem redactItems_texts (texts : List String) : (Evidence.redactItems (texts.map .string)).plain = true := by
  induction texts with
  | nil => rfl
  | cons text texts ih =>
    rw [List.map_cons, Evidence.redactItems]
    simp only [ih, Bool.and_true, Evidence.redactOpen]
    split_ifs <;> rfl

theorem redactedPayload_plain (chains : List PaymentChain) : (call.event chains).redactedPayload.plain = true := by
  have texts : chains.map (fun chain => Json.string chain.name) = (chains.map (·.name)).map .string := by simp
  have items := redactItems_texts (chains.map (·.name))
  rw [← texts] at items
  have value : (call.event chains).payloadValue = call.payload chains := rfl
  have openKeys : Evidence.isSensitiveKey "chains_swept" = false ∧ Evidence.isSensitiveKey "reason" = false := by decide
  have plainKeys : "chains_swept" ≠ "__proto__" ∧ "reason" ≠ "__proto__" := by decide
  rw [RecordAuditEventInput.redactedPayload, value]
  simp only [Evidence.redactAuditPayload, RevokeAgentCall.payload, Evidence.redactOpen, Evidence.redactFields, openKeys.1, openKeys.2,
    plainKeys.1, plainKeys.2, if_false, items, Bool.and_true, Bool.true_and, Bool.false_eq_true]
  split_ifs <;> rfl

theorem canonicalBodyHashOf_event (chains : List PaymentChain) : Evidence.canonicalBodyHashOf host (call.event chains) =
    .ok (Evidence.sha256Hex host (Evidence.buildCanonicalBody (call.event chains)).value) := by
  rw [Evidence.canonicalBodyHashOf, redactedPayload_plain, if_pos rfl]

theorem recordAuditEvent_event : recordAuditEvent host parseJson s.audit call.now call.eventId (s.revocationEvent call) =
    match findByKey s.audit.events call.orgId call.idempotencyKey with
    | some existing =>
      if existing.canonical_body_hash ≠ Evidence.sha256Hex host (Evidence.buildCanonicalBody (s.revocationEvent call)).value then
        .error Evidence.idempotencyConflict
      else .ok (s.audit, existing)
    | none => Evidence.appendEvent host parseJson s.audit call.now call.eventId (s.revocationEvent call)
        (Evidence.sha256Hex host (Evidence.buildCanonicalBody (s.revocationEvent call)).value) := by
  rw [recordAuditEvent, AgentStore.revocationEvent, canonicalBodyHashOf_event]
  rfl

theorem revocationEvents_append {canonicalBodyHash : Hash} {audit : AuditStore} {row : Evidence.AuditEventRow}
    (appended : Evidence.appendEvent host parseJson s.audit call.now call.eventId (s.revocationEvent call) canonicalBodyHash =
      .ok (audit, row)) :
    ({ s with audit } : AgentStore).revocationEvents call = s.revocationEvents call + 1 := by
  obtain ⟨head, events, -, inserted, rfl⟩ := Evidence.appendEvent_ok appended
  obtain ⟨now, eventId, externalRefs, payload, rfl⟩ := inserted.row
  unfold AgentStore.revocationEvents
  simp only [(Table.insert?_eq_some inserted.inserted).1]
  rw [List.countP_cons_of_pos]
  simp [Evidence.eventRow, AgentStore.revocationEvent, RevokeAgentCall.event]

theorem countP_activeWallets {wallet : AgentChainWallet} (member : wallet ∈ s.activeWallets call.agentId call.mode) :
    (s.activeWallets call.agentId call.mode).countP (fun other => other.chain = wallet.chain) = 1 := by
  have distinct : ((s.activeWallets call.agentId call.mode).map (·.chain)).Nodup := by
    have keys : ((s.activeWallets call.agentId call.mode).map AgentChainWallet.key).Nodup :=
      s.wallets.agentChainWallets.distinct.sublist (List.filter_sublist.map _)
    have same : (s.activeWallets call.agentId call.mode).map AgentChainWallet.key =
        ((s.activeWallets call.agentId call.mode).map (·.chain)).map fun chain => (call.agentId, call.mode, chain) := by
      rw [List.map_map]
      refine List.map_congr_left fun other among => ?_
      have own := (List.mem_filter.mp among).2
      simp only [Bool.and_eq_true, decide_eq_true_eq] at own
      simp [AgentChainWallet.key, own.1.1, own.1.2]
    rw [same] at keys
    exact List.Nodup.of_map _ keys
  have counted := List.count_eq_one_of_mem distinct (List.mem_map_of_mem member)
  rw [List.count, List.countP_map] at counted
  rw [← counted]
  exact List.countP_congr fun other _ => by simp

theorem sweeps_sweepJob {chain chain' : PaymentChain} : sweeps call chain (call.sweepJob chain') = decide (chain' = chain) := by
  simp [sweeps, RevokeAgentCall.sweepJob, unfinished]

theorem unfinishedSweeps_sweepJobs {jobs : Table CircleProviderJob.id} (drawn : s.sweepJobs call = some jobs)
    {wallet : AgentChainWallet} (member : wallet ∈ s.activeWallets call.agentId call.mode) :
    jobs.rows.countP (sweeps call wallet.chain) = s.unfinishedSweeps call wallet.chain + 1 := by
  rw [Table.rows_insertAll? drawn, List.countP_append, List.countP_reverse, List.countP_map]
  have own : (sweeps call wallet.chain ∘ fun wallet => call.sweepJob wallet.chain) = fun other : AgentChainWallet =>
      decide (other.chain = wallet.chain) := funext fun other => sweeps_sweepJob
  rw [own, countP_activeWallets member, AgentStore.unfinishedSweeps, Nat.add_comm]

theorem revokeAgent_ok (known : Known s call) {jobs : Table CircleProviderJob.id} (drawn : s.sweepJobs call = some jobs) :
    s.revokeAgent host parseJson call = .ok s' ↔
      (s.activeWallets call.agentId call.mode ≠ [] → storableText call.reason = true) ∧
        ∃ audit row, recordAuditEvent host parseJson s.audit call.now call.eventId (s.revocationEvent call) = .ok (audit, row) ∧
          s' = s.revoked call jobs audit := by
  obtain ⟨agent, member, same, own⟩ := known
  have found : s.wallets.agents.find? call.agentId = some agent := Table.find?_eq_some.mpr ⟨member, same⟩
  unfold AgentStore.revokeAgent
  simp only [found, own, ne_eq, not_true_eq_false, if_false, drawn]
  by_cases refused : s.activeWallets call.agentId call.mode ≠ [] ∧ storableText call.reason = false
  · have both : (!(s.activeWallets call.agentId call.mode).isEmpty && !storableText call.reason) = true := by
      simp [refused.1, refused.2]
    rw [if_pos both]
    refine iff_of_false nofun fun ⟨storable, _⟩ => ?_
    rw [storable refused.1] at refused
    cases refused.2
  · have storable : s.activeWallets call.agentId call.mode ≠ [] → storableText call.reason = true := fun nonempty => by
      by_contra unstorable
      exact refused ⟨nonempty, Bool.not_eq_true _ ▸ unstorable⟩
    have neither : ¬(!(s.activeWallets call.agentId call.mode).isEmpty && !storableText call.reason) = true := by
      simpa using storable
    rw [if_neg neither, and_iff_right storable]
    change (match recordAuditEvent host parseJson s.audit call.now call.eventId (s.revocationEvent call) with
      | .error failure => _
      | .ok (audit, _) => _) = _ ↔ _
    cases recordAuditEvent host parseJson s.audit call.now call.eventId (s.revocationEvent call) with
    | error failure => simp
    | ok result =>
      obtain ⟨audit, row⟩ := result
      simp [eq_comm]

/-- A revocation succeeds and does all that it owes if and only if no active wallet waits for a sweep already and its event is recorded. -/
theorem revoked_iff (known : Known s call) (drawn : (s.sweepJobs call).isSome) :
    (∃ s', s.revokeAgent host parseJson call = .ok s' ∧ Revoked s call s') ↔ Repeatable host parseJson s call := by
  obtain ⟨jobs, drawn⟩ := Option.isSome_iff_exists.mp drawn
  simp only [revokeAgent_ok known drawn, recordAuditEvent_event]
  constructor
  · rintro ⟨s', ⟨storable, audit, row, recorded, rfl⟩, revoked⟩
    refine ⟨fun wallet member => ?_, storable, ?_⟩
    · have swept := (unfinishedSweeps_sweepJobs drawn member).symm.trans (revoked.swept wallet member)
      omega
    · unfold Records
      dsimp only
      cases found : findByKey s.audit.events call.orgId call.idempotencyKey with
      | none =>
        rw [found] at recorded
        exact ⟨_, recorded⟩
      | some existing =>
        rw [found] at recorded
        dsimp only at recorded
        split_ifs at recorded with same
        obtain ⟨rfl, rfl⟩ := Prod.mk.inj (Except.ok.inj recorded)
        refine ⟨not_not.mp same, fun changes => ?_⟩
        have more := revoked.recorded changes
        exact absurd more (Nat.succ_ne_self _).symm
  · rintro ⟨unswept, storable, records⟩
    have owed (audit : AuditStore) (event : Changes s call → ({ s with audit } : AgentStore).revocationEvents call =
        s.revocationEvents call + 1) : Revoked s call (s.revoked call jobs audit) := by
      refine ⟨fun agent member same => ?_, fun row member own within => ?_, fun wallet member => ?_, event⟩
      · obtain ⟨old, -, key, rfl⟩ := Table.mem_modify (f := AgentStore.suspend) (fun _ => rfl) member
        rw [if_pos (same.symm.trans key)]
        rfl
      · change row ∈ s.agentAllocations.rewrite (AgentStore.revokeRow call) AgentStore.revokeRow_key at member
        obtain ⟨old, -, rfl⟩ := Table.mem_rewrite.mp member
        unfold AgentStore.revokeRow at own within ⊢
        split_ifs at own within ⊢ with active
        · exact nofun
        · intro status
          simp [AgentStore.revokes, own, within, status] at active
      · have counted := unfinishedSweeps_sweepJobs drawn member
        rwa [unswept wallet member] at counted
    unfold Records at records
    dsimp only at records
    cases found : findByKey s.audit.events call.orgId call.idempotencyKey with
    | none =>
      rw [found] at records
      obtain ⟨⟨audit, row⟩, appended⟩ := records
      exact ⟨_, ⟨storable, audit, row, appended, rfl⟩, owed audit fun _ => revocationEvents_append appended⟩
    | some existing =>
      rw [found] at records
      obtain ⟨same, idle⟩ := records
      exact ⟨_, ⟨storable, s.audit, existing, if_neg (not_not.mpr same), rfl⟩, owed s.audit fun changes => absurd changes idle⟩

theorem findByKey_recorded {audit : AuditStore} {row : Evidence.AuditEventRow}
    (recorded : recordAuditEvent host parseJson s.audit call.now call.eventId (s.revocationEvent call) = .ok (audit, row)) :
    ∃ existing, findByKey audit.events call.orgId call.idempotencyKey = some existing ∧
      existing.canonical_body_hash = Evidence.sha256Hex host (Evidence.buildCanonicalBody (s.revocationEvent call)).value := by
  rw [recordAuditEvent_event] at recorded
  cases found : findByKey s.audit.events call.orgId call.idempotencyKey with
  | some existing =>
    rw [found] at recorded
    dsimp only at recorded
    split_ifs at recorded with same
    obtain ⟨rfl, rfl⟩ := Prod.mk.inj (Except.ok.inj recorded)
    exact ⟨_, found, not_not.mp same⟩
  | none =>
    rw [found] at recorded
    obtain ⟨head, events, -, inserted, rfl⟩ := Evidence.appendEvent_ok recorded
    have rows := (Table.insert?_eq_some inserted.inserted).1
    obtain ⟨now, eventId, externalRefs, payload, rfl⟩ := inserted.row
    have found : findByKey events call.orgId call.idempotencyKey = some (Evidence.eventRow host head now eventId
        (s.revocationEvent call) (Evidence.sha256Hex host (Evidence.buildCanonicalBody (s.revocationEvent call)).value)
        externalRefs payload) := by
      rw [findByKey, rows, List.find?_cons_of_pos]
      simp [Evidence.eventRow, AgentStore.revocationEvent, RevokeAgentCall.event]
    exact ⟨_, found, rfl⟩

/-- An agent without wallets can be revoked again for the same reason. -/
theorem repeatable_again (known : Known s call) (drawn : (s.sweepJobs call).isSome)
    (unwalleted : s.activeWallets call.agentId call.mode = []) (ok : s.revokeAgent host parseJson call = .ok s')
    (jobId : PaymentChain → JobId) (eventId : String) (now : Time) :
    Repeatable host parseJson s' { call with jobId, eventId, now } := by
  obtain ⟨jobs, drawn'⟩ := Option.isSome_iff_exists.mp drawn
  obtain ⟨-, audit, row, recorded, rfl⟩ := (revokeAgent_ok known drawn').mp ok
  have still : (s.revoked call jobs audit).activeWallets call.agentId call.mode = [] := unwalleted
  refine ⟨?_, absurd still, ?_⟩
  · rw [still]
    exact List.forall_mem_nil _
  obtain ⟨existing, found, hash⟩ := findByKey_recorded recorded
  have event : (s.revoked call jobs audit).revocationEvent { call with jobId, eventId, now } = s.revocationEvent call := by
    simp only [AgentStore.revocationEvent, still, unwalleted]
    rfl
  have key : findByKey (s.revoked call jobs audit).audit.events call.orgId
      ({ call with jobId, eventId, now } : RevokeAgentCall).idempotencyKey = some existing := found
  rw [Records, event, key]
  refine ⟨hash, ?_⟩
  rintro (⟨agent, member, same, changes⟩ | ⟨row, member, active⟩ | active)
  · obtain ⟨old, -, key, rfl⟩ := Table.mem_modify (f := AgentStore.suspend) (fun _ => rfl) member
    rw [if_pos (same.symm.trans key)] at changes
    exact changes rfl
  · change row ∈ s.agentAllocations.rewrite (AgentStore.revokeRow call) AgentStore.revokeRow_key at member
    obtain ⟨old, -, rfl⟩ := Table.mem_rewrite.mp member
    change AgentStore.revokes call (AgentStore.revokeRow call old) = true at active
    unfold AgentStore.revokeRow at active
    split_ifs at active with was
    · simp [AgentStore.revokes] at active
    · exact was active
  · exact active still

/-- What a revocation of an agent of the organization keeps to; other calls are free. -/
def Repeats (host : Host) (parseJson : String → Option JsonData) (s : AgentStore) : AgentLabel → Prop
  | .revokeAgent call => Known s call → Repeatable host parseJson s call
  | _ => True

/-- Along any run, every revocation of an agent of the organization succeeds and does what it owes if and only if each of them keeps to
the condition. -/
theorem revocations_repeat_iff {s₀ : AgentStore} {events : List (AgentStore × AgentLabel)}
    (run : Run (agentStep host parseJson) s₀ events s) :
    (∀ e ∈ events, ∀ call, e.2 = .revokeAgent call → Known e.1 call →
      ∃ s', e.1.revokeAgent host parseJson call = .ok s' ∧ Revoked e.1 call s') ↔ Conforms (Repeats host parseJson) events := by
  refine forall₂_congr fun e member => ?_
  obtain ⟨before, after, s', -, -, taken, -⟩ := run.of_mem member
  obtain ⟨s₁, label⟩ := e
  cases label with
  | revokeAgent call =>
    have drawn : (s₁.sweepJobs call).isSome := by
      by_contra clash
      simp [agentStep, clash] at taken
    simp only [AgentLabel.revokeAgent.injEq, forall_eq', Repeats]
    exact imp_congr_right fun known => revoked_iff known drawn
  | setAgentStatus | setAllocation | wallets => simp [Repeats]

def plainHost : Host where
  localeCompare := KeyOrder.codePoints
  sha256 := id

def oneAgent : AgentStore where
  wallets := {
    agents := .singleton ⟨"agent_1", "org_1", .active⟩
    circleWalletSets := []
    circleChainCapabilities := []
    circleChainWallets := []
    agentChainWallets := .singleton
      ⟨"acw_1", "org_1", "agent_1", "cset_1", .test, .base, "BASE-SEPOLIA", "wallet", "0xa", "aref_1", .active⟩
    circleProviderJobs := .empty
    ledgerPostings := [] }
  agentAllocations := .empty
  audit := .empty

def revocation (reason draw : String) : RevokeAgentCall :=
  ⟨"user_1", "org_1", "agent_1", .test, reason, fun _ => "cjob_" ++ draw, "aud_" ++ draw, 0⟩

def revokedOnce : AgentStore := (oneAgent.revokeAgent plainHost (fun _ => none) (revocation "compromised" "1")).toOption.getD oneAgent

def revokedTwice : AgentStore := (revokedOnce.revokeAgent plainHost (fun _ => none) (revocation "retired" "2")).toOption.getD revokedOnce

theorem revokedOnce_step :
    agentStep plainHost (fun _ => none) oneAgent (.revokeAgent (revocation "compromised" "1")) = some revokedOnce := by
  rw [agentStep, if_pos (by decide), revokedOnce]

theorem known_oneAgent (reason draw : String) : Known oneAgent (revocation reason draw) :=
  ⟨_, List.mem_singleton.mpr rfl, rfl, rfl⟩

theorem revokedOnce_ok : oneAgent.revokeAgent plainHost (fun _ => none) (revocation "compromised" "1") = .ok revokedOnce := by
  have succeeds : (oneAgent.revokeAgent plainHost (fun _ => none) (revocation "compromised" "1")).toOption.isSome = true := by
    decide
  obtain ⟨s', ok⟩ := Option.isSome_iff_exists.mp succeeds
  rw [revokedOnce, ok, Option.getD_some]
  exact toOption_eq_some.mp ok

theorem revokedOnce_eq : ∃ jobs audit row, oneAgent.sweepJobs (revocation "compromised" "1") = some jobs ∧
    recordAuditEvent plainHost (fun _ => none) oneAgent.audit 0 "aud_1" (oneAgent.revocationEvent (revocation "compromised" "1")) =
      .ok (audit, row) ∧ revokedOnce = oneAgent.revoked (revocation "compromised" "1") jobs audit := by
  obtain ⟨jobs, drawn⟩ := Option.isSome_iff_exists.mp
    (show (oneAgent.sweepJobs (revocation "compromised" "1")).isSome = true by decide)
  obtain ⟨-, audit, row, recorded, same⟩ := (revokeAgent_ok (known_oneAgent _ _) drawn).mp revokedOnce_ok
  exact ⟨jobs, audit, row, drawn, recorded, same⟩

theorem revocations_do_not_repeat : ¬∀ (host : Host) (parseJson : String → Option JsonData) (s₀ s : AgentStore)
    (events : List (AgentStore × AgentLabel)), Run (agentStep host parseJson) s₀ events s →
      ∀ e ∈ events, ∀ call, e.2 = .revokeAgent call → Known e.1 call →
        ∃ s', e.1.revokeAgent host parseJson call = .ok s' ∧ Revoked e.1 call s' := by
  intro claimed
  have repeats {once twice : AgentStore} {call call' : RevokeAgentCall}
      (first : agentStep plainHost (fun _ => none) oneAgent (.revokeAgent call) = some once)
      (second : agentStep plainHost (fun _ => none) once (.revokeAgent call') = some twice) (known : Known once call')
      (drawn : (once.sweepJobs call').isSome = true) : Repeatable plainHost (fun _ => none) once call' :=
    (revoked_iff known drawn).mp
      (claimed _ _ _ _ _ ((Run.next .start first).next second) (once, .revokeAgent call') (by simp) _ rfl known)
  obtain ⟨jobs, audit, -, drawnOnce, -, once⟩ := revokedOnce_eq
  have jobs_eq : jobs = (oneAgent.sweepJobs (revocation "compromised" "1")).getD .empty := by rw [drawnOnce, Option.getD_some]
  have drawn : (revokedOnce.sweepJobs (revocation "retired" "2")).isSome = true := by
    rw [once, jobs_eq]
    rfl
  have second : agentStep plainHost (fun _ => none) revokedOnce (.revokeAgent (revocation "retired" "2")) = some revokedTwice := by
    rw [agentStep, if_pos drawn, revokedTwice]
  have known : Known revokedOnce (revocation "retired" "2") := by
    rw [once]
    exact ⟨_, List.mem_singleton.mpr rfl, rfl, rfl⟩
  have repeatable := repeats revokedOnce_step second known drawn
  -- the wallet is active until its sweep runs
  have active : ⟨"acw_1", "org_1", "agent_1", "cset_1", .test, .base, "BASE-SEPOLIA", "wallet", "0xa", "aref_1", .active⟩ ∈
      revokedOnce.activeWallets "agent_1" .test := by
    rw [once]
    exact List.mem_singleton.mpr rfl
  have queued : revokedOnce.unfinishedSweeps (revocation "retired" "2") .base = 1 := by
    rw [once, jobs_eq]
    rfl
  have unswept := repeatable.unswept _ active
  rw [queued] at unswept
  cases unswept

def walletless : AgentStore := { oneAgent with wallets := { oneAgent.wallets with agentChainWallets := .empty } }

theorem revocations_repeat_once :
    (∃ s', oneAgent.revokeAgent plainHost (fun _ => none) (revocation "compromised" "1") = .ok s' ∧
      Revoked oneAgent (revocation "compromised" "1") s') ∧
    ∃ s' s'', walletless.revokeAgent plainHost (fun _ => none) (revocation "compromised" "1") = .ok s' ∧
      Revoked walletless (revocation "compromised" "1") s' ∧
      s'.revokeAgent plainHost (fun _ => none) (revocation "compromised" "2") = .ok s'' ∧
      Revoked s' (revocation "compromised" "2") s'' := by
  constructor
  · refine (revocations_repeat_iff (Run.next .start revokedOnce_step)).mpr (List.forall_mem_singleton.mpr fun _ => ?_)
      (oneAgent, .revokeAgent (revocation "compromised" "1")) List.mem_cons_self _ rfl (known_oneAgent _ _)
    refine ⟨?_, fun _ => by decide, ?_⟩
    · change ∀ wallet ∈ oneAgent.activeWallets "agent_1" .test, oneAgent.unfinishedSweeps (revocation "compromised" "1") wallet.chain = 0
      decide
    · obtain ⟨-, audit, row, -, recorded, -⟩ := revokedOnce_eq
      have appended := (@recordAuditEvent_event plainHost (fun _ => none) oneAgent (revocation "compromised" "1")).symm.trans recorded
      exact ⟨(audit, row), appended⟩
  have succeeds : (walletless.revokeAgent plainHost (fun _ => none) (revocation "compromised" "1")).toOption.isSome = true := by
    decide
  obtain ⟨s', ok⟩ := Option.isSome_iff_exists.mp succeeds
  have ok := toOption_eq_some.mp ok
  have known : Known walletless (revocation "compromised" "1") := ⟨_, List.mem_singleton.mpr rfl, rfl, rfl⟩
  have drawn : walletless.sweepJobs (revocation "compromised" "1") = some .empty := rfl
  have again : Repeatable plainHost (fun _ => none) s' (revocation "compromised" "2") :=
    repeatable_again known (Option.isSome_of_eq_some drawn) rfl ok _ _ _
  obtain ⟨-, audit, row, recorded, rfl⟩ := (revokeAgent_ok known drawn).mp ok
  have appended := (@recordAuditEvent_event plainHost (fun _ => none) walletless (revocation "compromised" "1")).symm.trans recorded
  have repeatable : Repeatable plainHost (fun _ => none) walletless (revocation "compromised" "1") :=
    ⟨List.forall_mem_nil _, absurd rfl, ⟨(audit, row), appended⟩⟩
  have known' : Known (walletless.revoked (revocation "compromised" "1") .empty audit) (revocation "compromised" "2") :=
    ⟨⟨"agent_1", "org_1", .suspended⟩, List.mem_singleton.mpr rfl, rfl, rfl⟩
  have first : agentStep plainHost (fun _ => none) walletless (.revokeAgent (revocation "compromised" "1")) =
      some (walletless.revoked (revocation "compromised" "1") .empty audit) := by
    rw [agentStep, if_pos (Option.isSome_of_eq_some drawn), ok]
    rfl
  have drawn' : ((walletless.revoked (revocation "compromised" "1") .empty audit).sweepJobs
      (revocation "compromised" "2")).isSome = true := rfl
  obtain ⟨last, second⟩ : ∃ last, agentStep plainHost (fun _ => none)
      (walletless.revoked (revocation "compromised" "1") .empty audit) (.revokeAgent (revocation "compromised" "2")) = some last :=
    ⟨_, by rw [agentStep, if_pos drawn']⟩
  have repeats := (revocations_repeat_iff ((Run.next .start first).next second)).mpr
    (List.forall_mem_cons.mpr ⟨fun _ => repeatable, List.forall_mem_singleton.mpr fun _ => again⟩)
  obtain ⟨s', ok', revoked⟩ := repeats _ List.mem_cons_self _ rfl known
  obtain ⟨s'', okAgain, revokedAgain⟩ := repeats _ (List.mem_cons_of_mem _ List.mem_cons_self) _ rfl known'
  obtain rfl := Except.ok.inj (ok.symm.trans ok')
  exact ⟨_, s'', ok, revoked, okAgain, revokedAgain⟩

end AgentOps.Wallets
