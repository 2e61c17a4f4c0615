import AgentOps.Payments.EscrowMirror
import AgentOps.Payments.Permit2

namespace AgentOps.Payments
open Lib Identity

/-! # The reputation that completed escrow jobs earn -/

def completionScore : Nat := 100

structure EscrowParties where
  provider_address : Address
  mode : PaymentMode
  deriving DecidableEq

structure ProviderWalletRow extends AgentChainWalletRow where
  org_id : OrgId
  deriving DecidableEq

def ProviderWalletRow.key (row : ProviderWalletRow) : AgentId × Network := row.toAgentChainWalletRow.key

structure OnchainIdentityRow where
  agent_id : AgentId
  mode : PaymentMode
  chain : PaymentChain
  token_id : Option Nat
  registered : Bool
  deriving DecidableEq

def OnchainIdentityRow.key (row : OnchainIdentityRow) : AgentId × Network := (row.agent_id, row.mode, row.chain)

structure AgentReputationEventRow where
  id : Nat
  org_id : OrgId
  agent_id : AgentId
  escrow_job_id : EscrowJobId
  score : Nat
  feedback_tx_hash : Option Nat
  deriving DecidableEq

structure WriteFeedbackInput where
  mode : PaymentMode
  chain : PaymentChain
  senderAddress : Address
  agentTokenId : Nat
  score : Nat
  deriving DecidableEq

abbrev ReputationRegistry := WriteFeedbackInput → Option Nat

/-- A call of `onEscrowCompleted` by the statement it runs next, with what it has read and written before -/
inductive HookStatement where
  | selectJob
  | resolveProviderAgentId (job : EscrowJobRow)
  | writeReputation (job : EscrowJobRow) (agentId : AgentId)
  | selectIdentity (job : EscrowJobRow) (agentId : AgentId) (eventId : Nat)
  | findAgentWallet (job : EscrowJobRow) (agentId : AgentId) (eventId agentTokenId : Nat)
  | writeFeedback (agentId : AgentId) (eventId : Nat) (input : WriteFeedbackInput)
  | setFeedbackTxHash (agentId : AgentId) (eventId txHash : Nat)
  deriving DecidableEq

structure Hook where
  jobId : EscrowJobId
  next : HookStatement
  deriving DecidableEq

structure ReputationStore where
  escrow : EscrowWorld
  parties : EscrowJobId → EscrowParties
  wallets : Table ProviderWalletRow.key
  identities : Table OnchainIdentityRow.key
  /-- `UNIQUE (escrow_job_id)` -/
  events : Table AgentReputationEventRow.escrow_job_id
  /-- The hooks of the calls that have committed a completion and have not returned -/
  hooks : List Hook

namespace ReputationStore

def job? (s : ReputationStore) (id : EscrowJobId) : Option EscrowJobRow := s.escrow.db.escrowJobs.find? id

def selectJob (s : ReputationStore) (id : EscrowJobId) : Except Failure EscrowJobRow :=
  match s.job? id with
  | none => .error (.thrown "escrow_job_not_found")
  | some job =>
    if job.state ≠ .completed then .error (.thrown ("reputation_write_refused:not_completed:" ++ job.state.text)) else .ok job

/-- The `WHERE` of `resolveProviderAgentId` -/
def provides (s : ReputationStore) (job : EscrowJobRow) (wallet : ProviderWalletRow) : Bool :=
  wallet.org_id = job.org_id && wallet.address.account = (s.parties job.id).provider_address.account &&
    wallet.mode = (s.parties job.id).mode && wallet.chain = job.chain && wallet.active

def resolveProviderAgentId (s : ReputationStore) (job : EscrowJobRow) : Option AgentId :=
  (s.wallets.rows.find? (s.provides job)).map (·.agent_id)

/-- `ON CONFLICT (escrow_job_id) DO NOTHING`: nothing where the job has its event. -/
def writeReputation (s : ReputationStore) (eventId : Nat) (job : EscrowJobRow) (agentId : AgentId) :
    Option (Table AgentReputationEventRow.escrow_job_id) :=
  s.events.insert? ⟨eventId, job.org_id, agentId, job.id, completionScore, none⟩

def selectIdentity (s : ReputationStore) (job : EscrowJobRow) (agentId : AgentId) : Option Nat :=
  (s.identities.find? (agentId, (s.parties job.id).mode, job.chain)).bind fun row => if row.registered then row.token_id else none

def findAgentWallet (s : ReputationStore) (job : EscrowJobRow) : Option ProviderWalletRow :=
  (s.wallets.find? (job.client_agent_id, (s.parties job.id).mode, job.chain)).filter (·.active)

def withFeedback (eventId txHash : Nat) (row : AgentReputationEventRow) : AgentReputationEventRow :=
  if row.id = eventId then { row with feedback_tx_hash := some txHash } else row

theorem withFeedback_key (eventId txHash : Nat) (row : AgentReputationEventRow) :
    (withFeedback eventId txHash row).escrow_job_id = row.escrow_job_id := by
  unfold withFeedback
  split_ifs <;> rfl

/-- The hook's next statement: the one that follows it, unless the hook ends, and the events. What it throws is caught. -/
def onEscrowCompleted (s : ReputationStore) (hook : Hook) (eventId : Nat) (registry : ReputationRegistry) :
    Option HookStatement × Table AgentReputationEventRow.escrow_job_id :=
  match hook.next with
  | .selectJob => ((s.selectJob hook.jobId).toOption.map .resolveProviderAgentId, s.events)
  | .resolveProviderAgentId job => ((s.resolveProviderAgentId job).map (.writeReputation job), s.events)
  | .writeReputation job agentId =>
    match s.writeReputation eventId job agentId with
    | none => (none, s.events)
    | some events => (some (.selectIdentity job agentId eventId), events)
  | .selectIdentity job agentId eventId => ((s.selectIdentity job agentId).map (.findAgentWallet job agentId eventId), s.events)
  | .findAgentWallet job agentId eventId agentTokenId =>
    -- the client writes the feedback, about the identity of the provider
    ((s.findAgentWallet job).map fun wallet =>
      .writeFeedback agentId eventId ⟨(s.parties job.id).mode, job.chain, wallet.address, agentTokenId, completionScore⟩, s.events)
  | .writeFeedback agentId eventId input => ((registry input).map (.setFeedbackTxHash agentId eventId), s.events)
  | .setFeedbackTxHash _ eventId txHash => (none, s.events.rewrite (withFeedback eventId txHash) (withFeedback_key eventId txHash))

def advance (s : ReputationStore) (hook : Hook) (eventId : Nat) (registry : ReputationRegistry) : ReputationStore :=
  let ran := s.onEscrowCompleted hook eventId registry
  { s with events := ran.2, hooks := (ran.1.map (Hook.mk hook.jobId)).toList ++ s.hooks.erase hook }

end ReputationStore

inductive ReputationLabel where
  | escrow (label : EscrowLabel)
  | hook (hook : Hook) (eventId : Nat) (registry : ReputationRegistry)
  /-- The next statement of a hook fails, or the process ends before it. -/
  | loseHook (hook : Hook)
  | setAgents (wallets : Table ProviderWalletRow.key) (identities : Table OnchainIdentityRow.key)
  /-- The other operations write every table but `escrow_jobs`. -/
  | setTables (db : Db)

def completionHooks : EscrowLabel → List Hook
  | .applyEscrowStateChange id .completed => [⟨id, .selectJob⟩]
  | _ => []

def reputationStep (hashes : Hashes) (contract : EscrowContract) (s : ReputationStore) : ReputationLabel → Option ReputationStore
  | .escrow label =>
    (escrowStep hashes contract s.escrow label).map fun escrow => { s with escrow, hooks := s.hooks ++ completionHooks label }
  | .hook hook eventId registry =>
    if hook ∈ s.hooks ∧ ∀ row ∈ s.events.rows, row.id ≠ eventId then some (s.advance hook eventId registry) else none
  | .loseHook hook => if hook ∈ s.hooks then some { s with hooks := s.hooks.erase hook } else none
  | .setAgents wallets identities => some { s with wallets, identities }
  | .setTables db =>
    some { s with escrow := { s.escrow with db := { db with escrowJobs := s.escrow.db.escrowJobs } } }

/-! ## What completed jobs earn -/

namespace ReputationStore

def Completed (s : ReputationStore) (id : EscrowJobId) : Prop := ∃ job, s.job? id = some job ∧ job.state = .completed

def Provides (s : ReputationStore) (id : EscrowJobId) (agentId : AgentId) : Prop :=
  ∃ job, s.job? id = some job ∧ ∃ wallet ∈ s.wallets, s.provides job wallet = true ∧ wallet.agent_id = agentId

structure Earned (s : ReputationStore) : Prop where
  once : ∀ event ∈ s.events, ∀ event' ∈ s.events, event.escrow_job_id = event'.escrow_job_id → event = event'
  completed : ∀ event ∈ s.events, s.Completed event.escrow_job_id

def Credited (s : ReputationStore) (id : EscrowJobId) : Prop :=
  ∀ agentId, s.Provides id agentId →
    ∃ event, event.agent_id = agentId ∧ ∀ event', event' ∈ s.events ∧ event'.escrow_job_id = id ↔ event' = event

end ReputationStore

/-- With this step a call returns that has moved the job to `completed`. -/
def CompletionReturns (s : ReputationStore) (label : ReputationLabel) (s' : ReputationStore) (id : EscrowJobId) : Prop :=
  match label with
  | .escrow (.reconcileEscrowJob id' _) => id' = id ∧ ¬s.Completed id ∧ s'.Completed id
  | .hook hook eventId registry => hook.jobId = id ∧ (s.onEscrowCompleted hook eventId registry).1 = none
  | _ => False

/-- A reconciliation takes back no completion that has its event, and is not the first to see one that an agent has earned. A hook
finds its job completed when it reads it and when it writes the event, and only the agent it has found, or an earlier event names,
is at the provider's address when it ends. -/
def KeepsReputation (s : ReputationStore) : ReputationLabel → Prop
  | .escrow (.reconcileEscrowJob id read) =>
    ((s.events.find? id).isSome → read.state = .completed) ∧
      (¬s.Completed id → read.state = .completed → ∀ agentId, ¬s.Provides id agentId)
  | .hook hook eventId registry =>
    match hook.next with
    | .selectJob => ¬s.Completed hook.jobId → ∀ agentId, ¬s.Provides hook.jobId agentId
    | .resolveProviderAgentId _ => True
    | .writeReputation _ _ =>
      match s.events.find? hook.jobId with
      | none => s.Completed hook.jobId
      | some event => ∀ agentId, s.Provides hook.jobId agentId → agentId = event.agent_id
    | .selectIdentity _ found _ | .findAgentWallet _ found _ _ | .writeFeedback found _ _ | .setFeedbackTxHash found _ _ =>
      (s.onEscrowCompleted hook eventId registry).1 = none → ∀ agentId, s.Provides hook.jobId agentId → agentId = found
  | _ => True

/-! ## What escrow operations do to a job's row -/

variable {hashes : Hashes} {contract : EscrowContract} {s s' : ReputationStore} {id : EscrowJobId}

theorem find?_jobMoved {db : Db} {job job' : EscrowJobRow} {next : EscrowState} {other : EscrowJobId}
    (found : db.escrowJobs.find? id = some job) (same : job'.id = job.id) :
    (applyReservationOutcome { db with escrowJobs := db.escrowJobs.put job' } job next).escrowJobs.find? other =
      if id = other then some job' else db.escrowJobs.find? other := by
  obtain rfl := Table.key_of_find? found
  rw [applyReservationOutcome_tables]
  split_ifs with here
  · subst here
    rw [← same] at found ⊢
    exact Table.find?_put_self found
  · refine Table.find?_put_ne ?_
    rw [same]
    exact here

theorem escrowStep_reconciled {s s' : EscrowWorld} {read : OnchainEscrowJob}
    (taken : escrowStep hashes contract s (.reconcileEscrowJob id read) = some s') : ∃ job, s.db.escrowJobs.find? id = some job ∧
      ∀ other, s'.db.escrowJobs.find? other = if id = other then some (corrected job read) else s.db.escrowJobs.find? other := by
  rw [escrowStep] at taken
  split at taken
  · cases taken
  split_ifs at taken
  split at taken
  · cases taken
  rename_i reconciled
  obtain rfl := Option.some.inj taken
  obtain ⟨job, found, ⟨rfl, unchanged⟩ | rfl⟩ := reconcileEscrowJob_eq reconciled
  · refine ⟨job, found, fun other => ?_⟩
    split_ifs with here
    · rw [← here, unchanged]
      exact found
    · rfl
  · exact ⟨job, found, fun other => find?_jobMoved found rfl⟩

structure Follows (label : EscrowLabel) (job job' : EscrowJobRow) : Prop where
  org_id : job'.org_id = job.org_id
  chain : job'.chain = job.chain
  settled : job.state = .completed → (∀ read, label ≠ .reconcileEscrowJob job.id read) → job' = job

theorem Follows.refl (label : EscrowLabel) (job : EscrowJobRow) : Follows label job job := ⟨rfl, rfl, fun _ _ => rfl⟩

theorem applyEscrowStateChange_follows {db db' : Db} {id' : EscrowJobId} {next : EscrowState} {job : EscrowJobRow}
    (found : db.escrowJobs.find? id = some job) (applied : applyEscrowStateChange db id' next (.ok ()) = .ok db') :
    ∃ job', db'.escrowJobs.find? id = some job' ∧ Follows (.applyEscrowStateChange id' next) job job' := by
  obtain ⟨job', found', reachable, rfl⟩ := applyEscrowStateChange_eq applied
  have same : ({ job' with state := next } : EscrowJobRow).id = job'.id := rfl
  rw [find?_jobMoved found' same]
  split_ifs with here
  · rw [here, found] at found'
    obtain rfl := Option.some.inj found'
    refine ⟨_, rfl, rfl, rfl, fun completed => ?_⟩
    rw [completed] at reachable
    cases reachable
  · exact ⟨job, found, .refl _ job⟩

theorem fundEscrowJob_follows {db db' : Db} {now : Time} {id' : EscrowJobId} {reservationId : ReservationId} {job : EscrowJobRow}
    (found : db.escrowJobs.find? id = some job) (booked : fundEscrowJob hashes db now id' reservationId (.ok ()) = .ok db') :
    ∃ job', db'.escrowJobs.find? id = some job' ∧ Follows (.fundEscrowJob now id' reservationId) job job' := by
  obtain ⟨foundOpen, isOpen, -⟩ := fundEscrowJob_ok booked
  refine ⟨_, Table.find?_put found, ?_⟩
  split_ifs with here
  · rw [show _ = id' from Table.key_of_find? foundOpen] at here
    rw [here, found] at foundOpen
    obtain rfl := Option.some.inj foundOpen
    refine ⟨rfl, rfl, fun completed => ?_⟩
    rw [isOpen] at completed
    cases completed
  · exact .refl _ job

theorem escrowStep_follows {s s' : EscrowWorld} {label : EscrowLabel} {job : EscrowJobRow}
    (found : s.db.escrowJobs.find? id = some job) (taken : escrowStep hashes contract s label = some s') :
    ∃ job', s'.db.escrowJobs.find? id = some job' ∧ Follows label job job' := by
  cases label with
  | onchain key event =>
    rw [escrowStep] at taken
    split at taken
    · cases taken
    · obtain rfl := Option.some.inj taken
      exact ⟨job, found, .refl _ job⟩
  | landFund key expectedBudget =>
    rw [escrowStep] at taken
    split_ifs at taken
    split at taken
    · cases taken
    · obtain rfl := Option.some.inj taken
      exact ⟨job, found, .refl _ job⟩
  | createEscrowJob id' onchainJobId input =>
    rw [escrowStep] at taken
    split at taken
    · rename_i created _
      obtain rfl := Option.some.inj taken
      obtain ⟨job', escrowJobs, -, -, -, inserted, rfl⟩ := createEscrowJob_ok created
      exact ⟨job, Table.find?_insert?_of_find? inserted found, .refl _ job⟩
    · cases taken
  | abandonFund id' =>
    rw [escrowStep] at taken
    split at taken
    · cases taken
    · obtain rfl := Option.some.inj taken
      exact ⟨job, found, .refl _ job⟩
  | fundEscrowJob now id' reservationId =>
    rw [escrowStep] at taken
    split at taken
    · cases taken
    split at taken
    · cases taken
    split at taken
    · obtain rfl := Option.some.inj taken
      exact ⟨job, found, .refl _ job⟩
    · rename_i booked
      obtain rfl := Option.some.inj taken
      exact fundEscrowJob_follows found booked
  | applyEscrowStateChange id' next =>
    rw [escrowStep] at taken
    split at taken
    · rename_i applied _
      split at taken
      · obtain rfl := Option.some.inj taken
        exact applyEscrowStateChange_follows found applied
      · obtain ⟨called, -, rfl⟩ := Option.map_eq_some_iff.mp taken
        exact applyEscrowStateChange_follows found applied
    · cases taken
  | reconcileEscrowJob id' read =>
    obtain ⟨job', found', moved⟩ := escrowStep_reconciled taken
    rw [moved]
    split_ifs with here
    · rw [here, found] at found'
      obtain rfl := Option.some.inj found'
      refine ⟨_, rfl, rfl, rfl, fun _ other => ?_⟩
      exact (other read (by rw [here, Table.key_of_find? found])).elim
    · exact ⟨job, found, .refl _ job⟩

/-! ## What a hook knows -/

namespace ReputationStore

theorem earned_of_completed (completed : ∀ event ∈ s.events, s.Completed event.escrow_job_id) : s.Earned :=
  ⟨fun _ member _ member' same => Table.eq_of_key member member' same, completed⟩

def credited? (s : ReputationStore) (id : EscrowJobId) : Option AgentId := (s.events.find? id).map (·.agent_id)

theorem credited_iff : s.Credited id ↔ ∀ agentId, s.Provides id agentId → s.credited? id = some agentId := by
  refine forall_congr' fun agentId => imp_congr_right fun _ => ⟨?_, ?_⟩
  · rintro ⟨event, rfl, only⟩
    rw [credited?, Table.find?_eq_some.mpr ((only event).mpr rfl)]
    rfl
  · intro named
    obtain ⟨event, found, rfl⟩ := Option.map_eq_some_iff.mp named
    refine ⟨event, rfl, fun event' => ?_⟩
    rw [← Table.find?_eq_some, found, Option.some.injEq, eq_comm]

theorem credited_iff_of_none (unnamed : s.credited? id = none) : s.Credited id ↔ ∀ agentId, ¬s.Provides id agentId := by
  rw [credited_iff, unnamed]
  exact forall_congr' fun agentId => imp_iff_not nofun

theorem credited_iff_of_some {named : AgentId} (names : s.credited? id = some named) :
    s.Credited id ↔ ∀ agentId, s.Provides id agentId → agentId = named := by
  rw [credited_iff, names]
  exact forall_congr' fun agentId => imp_congr_right fun _ => by rw [Option.some.injEq, eq_comm]

theorem Earned.find? (earned : s.Earned) {event : AgentReputationEventRow} (found : s.events.find? id = some event) :
    s.Completed id := by
  rw [← Table.key_of_find? found]
  exact earned.completed event (Table.mem_of_find? found)

theorem earned_iff : s.Earned ↔ ∀ id agentId, s.credited? id = some agentId → s.Completed id := by
  constructor
  · intro earned id agentId names
    obtain ⟨event, found, -⟩ := Option.map_eq_some_iff.mp names
    exact earned.find? found
  · intro completed
    refine earned_of_completed fun event member => completed _ event.agent_id ?_
    rw [credited?, Table.find?_of_mem member]
    rfl

end ReputationStore

structure Remembers (s : ReputationStore) (id : EscrowJobId) (read : EscrowJobRow) : Prop where
  own : read.id = id
  row : ∃ job, s.job? id = some job ∧ job.org_id = read.org_id ∧ job.chain = read.chain

def StatementKnows (s : ReputationStore) (id : EscrowJobId) : HookStatement → Prop
  | .selectJob => True
  | .resolveProviderAgentId job | .writeReputation job _ => Remembers s id job
  | .selectIdentity _ agentId _ | .findAgentWallet _ agentId _ _ | .writeFeedback agentId _ _ | .setFeedbackTxHash agentId _ _ =>
    s.credited? id = some agentId

def HooksKnow (s : ReputationStore) : Prop := ∀ hook ∈ s.hooks, StatementKnows s hook.jobId hook.next

theorem Remembers.provides {read : EscrowJobRow} (remembers : Remembers s id read) (agentId : AgentId) :
    s.Provides id agentId ↔ ∃ wallet ∈ s.wallets, s.provides read wallet = true ∧ wallet.agent_id = agentId := by
  obtain ⟨rfl, job, found, org, chain⟩ := remembers
  have same (wallet : ProviderWalletRow) : s.provides job wallet = s.provides read wallet := by
    unfold ReputationStore.provides
    rw [org, chain, show job.id = read.id from Table.key_of_find? found]
  simp [ReputationStore.Provides, found, same]

theorem StatementKnows.mono {next : HookStatement} (knows : StatementKnows s id next)
    (rows : ∀ job, s.job? id = some job → ∃ job', s'.job? id = some job' ∧ job'.org_id = job.org_id ∧ job'.chain = job.chain)
    (named : ∀ agentId, s.credited? id = some agentId → s'.credited? id = some agentId) : StatementKnows s' id next := by
  have remembered {read : EscrowJobRow} (remembers : Remembers s id read) : Remembers s' id read := by
    obtain ⟨own, job, found, org, chain⟩ := remembers
    obtain ⟨job', found', org', chain'⟩ := rows job found
    exact ⟨own, job', found', org'.trans org, chain'.trans chain⟩
  cases next with
  | selectJob => trivial
  | resolveProviderAgentId | writeReputation => exact remembered knows
  | selectIdentity | findAgentWallet | writeFeedback | setFeedbackTxHash => exact named _ knows

/-! ## The statements of a hook -/

section Hooks

variable {hook : Hook} {eventId : Nat} {registry : ReputationRegistry}

namespace ReputationStore

theorem selectJob_ok {job : EscrowJobRow} (selected : s.selectJob id = .ok job) : s.job? id = some job := by
  unfold selectJob at selected
  split at selected
  · cases selected
  · rename_i found
    split_ifs at selected
    rwa [← Except.ok.inj selected]

theorem selectJob_ends : (s.selectJob id).toOption = none ↔ ¬s.Completed id := by
  unfold selectJob Completed
  cases s.job? id with
  | none => exact iff_of_true rfl (by simp)
  | some job => by_cases completed : job.state = .completed <;> simp [completed, Except.toOption]

theorem writeReputation_conflict {job : EscrowJobRow} {agentId : AgentId} :
    s.writeReputation eventId job agentId = none ↔ s.events.find? job.id ≠ none := by
  constructor
  · rintro conflict missing
    let event : AgentReputationEventRow := ⟨eventId, job.org_id, agentId, job.id, completionScore, none⟩
    have inserts : (s.events.insert? event).isSome := Table.insert?_isSome missing
    rw [show s.events.insert? event = none from conflict] at inserts
    cases inserts
  · intro stored
    cases inserted : s.writeReputation eventId job agentId with
    | none => rfl
    | some events => exact (stored (Table.insert?_eq_some inserted).2).elim

theorem writeReputation_writes {job : EscrowJobRow} {agentId : AgentId} {events : Table AgentReputationEventRow.escrow_job_id}
    (inserted : s.writeReputation eventId job agentId = some events) (hooks : List Hook) (other : EscrowJobId) :
    ({ s with events, hooks } : ReputationStore).credited? other = if job.id = other then some agentId else s.credited? other := by
  unfold credited?
  split_ifs with here
  · rw [← here]
    exact congrArg (Option.map _) (Table.find?_insert?_self inserted)
  · exact congrArg (Option.map _) (Table.find?_insert?_ne inserted here)

theorem withFeedback_agent (eventId txHash : Nat) (row : AgentReputationEventRow) :
    (withFeedback eventId txHash row).agent_id = row.agent_id := by
  unfold withFeedback
  split_ifs <;> rfl

theorem advance_credited? (reads : ∀ job agentId, hook.next ≠ .writeReputation job agentId) (other : EscrowJobId) :
    (s.advance hook eventId registry).credited? other = s.credited? other := by
  obtain ⟨id, next⟩ := hook
  cases next with
  | writeReputation job agentId => exact (reads job agentId rfl).elim
  | setFeedbackTxHash agentId eventId txHash =>
    simp only [credited?, advance, onEscrowCompleted, Table.find?_rewrite, Option.map_map]
    exact congrArg (Option.map · _) (funext (withFeedback_agent eventId txHash))
  | _ => rfl

theorem advance_writeReputation (s : ReputationStore) (id : EscrowJobId) (eventId : Nat) (registry : ReputationRegistry)
    (job : EscrowJobRow) (agentId : AgentId) :
    s.events.find? job.id = none ∧ (s.onEscrowCompleted ⟨id, .writeReputation job agentId⟩ eventId registry).1 =
        some (.selectIdentity job agentId eventId) ∧
      (∀ other, (s.advance ⟨id, .writeReputation job agentId⟩ eventId registry).credited? other =
        if job.id = other then some agentId else s.credited? other) ∨
    s.events.find? job.id ≠ none ∧ (s.onEscrowCompleted ⟨id, .writeReputation job agentId⟩ eventId registry).1 = none ∧
      ∀ other, (s.advance ⟨id, .writeReputation job agentId⟩ eventId registry).credited? other = s.credited? other := by
  simp only [advance, onEscrowCompleted]
  cases inserted : s.writeReputation eventId job agentId with
  | none => exact .inr ⟨writeReputation_conflict.mp inserted, rfl, fun _ => rfl⟩
  | some events => exact .inl ⟨(Table.insert?_eq_some inserted).2, rfl, writeReputation_writes inserted _⟩

theorem advance_named {other : EscrowJobId} {agentId : AgentId} (names : s.credited? other = some agentId) :
    (s.advance hook eventId registry).credited? other = some agentId := by
  by_cases inserts : ∃ job agentId, hook.next = .writeReputation job agentId
  · obtain ⟨id, _⟩ := hook
    obtain ⟨job, agentId', rfl⟩ := inserts
    obtain ⟨missing, -, written⟩ | ⟨-, -, same⟩ := advance_writeReputation s id eventId registry job agentId'
    · rw [written, if_neg]
      · exact names
      · rintro rfl
        rw [credited?, missing] at names
        cases names
    · rw [same]
      exact names
  · rw [advance_credited? fun job agentId same => inserts ⟨job, agentId, same⟩]
    exact names

theorem advance_knows {next : HookStatement} (knows : StatementKnows s hook.jobId hook.next)
    (continues : (s.onEscrowCompleted hook eventId registry).1 = some next) :
    StatementKnows (s.advance hook eventId registry) hook.jobId next := by
  obtain ⟨id, current⟩ := hook
  cases current with
  | selectJob =>
    obtain ⟨job, selected, rfl⟩ := Option.map_eq_some_iff.mp continues
    cases outcome : s.selectJob id with
    | error => simp [outcome, Except.toOption] at selected
    | ok read =>
      rw [outcome] at selected
      obtain rfl := Option.some.inj selected
      have found := selectJob_ok outcome
      exact ⟨Table.key_of_find? found, read, found, rfl, rfl⟩
  | resolveProviderAgentId job =>
    obtain ⟨agentId, -, rfl⟩ := Option.map_eq_some_iff.mp continues
    exact ⟨knows.own, knows.row⟩
  | writeReputation job agentId =>
    obtain ⟨-, goesOn, written⟩ | ⟨-, ends, -⟩ := advance_writeReputation s id eventId registry job agentId
    · obtain rfl := Option.some.inj (goesOn.symm.trans continues)
      exact (written id).trans (if_pos knows.own)
    · rw [ends] at continues
      cases continues
  | selectIdentity job agentId eventId' =>
    obtain ⟨tokenId, -, rfl⟩ := Option.map_eq_some_iff.mp continues
    exact knows
  | findAgentWallet job agentId eventId' tokenId =>
    obtain ⟨wallet, -, rfl⟩ := Option.map_eq_some_iff.mp continues
    exact knows
  | writeFeedback agentId eventId' input =>
    obtain ⟨txHash, -, rfl⟩ := Option.map_eq_some_iff.mp continues
    exact knows
  | setFeedbackTxHash agentId eventId' txHash => cases continues

end ReputationStore

theorem hooksKnow_step {label : ReputationLabel} (known : HooksKnow s)
    (taken : reputationStep hashes contract s label = some s') :
    HooksKnow s' := by
  cases label with
  | escrow label =>
    obtain ⟨escrow, moved, rfl⟩ := Option.map_eq_some_iff.mp taken
    intro hook member
    obtain old | new := List.mem_append.mp member
    · refine (known hook old).mono (fun job found => ?_) fun _ names => names
      obtain ⟨job', found', follows⟩ := escrowStep_follows found moved
      exact ⟨job', found', follows.org_id, follows.chain⟩
    · unfold completionHooks at new
      split at new
      · obtain rfl := List.mem_singleton.mp new
        trivial
      · cases new
  | hook hook eventId registry =>
    rw [reputationStep] at taken
    split_ifs at taken with ready
    obtain rfl := Option.some.inj taken
    intro other member
    obtain new | old := List.mem_append.mp member
    · obtain ⟨next, continues, rfl⟩ := Option.map_eq_some_iff.mp (Option.mem_toList.mp new)
      exact ReputationStore.advance_knows (known hook ready.1) continues
    · exact (known other (List.mem_of_mem_erase old)).mono (fun job found => ⟨job, found, rfl, rfl⟩)
        fun _ names => ReputationStore.advance_named names
  | loseHook hook =>
    rw [reputationStep] at taken
    split_ifs at taken
    obtain rfl := Option.some.inj taken
    exact fun other member => (known other (List.mem_of_mem_erase member)).mono (fun job found => ⟨job, found, rfl, rfl⟩)
      fun _ names => names
  | setAgents wallets identities =>
    obtain rfl := Option.some.inj taken
    exact fun hook member => (known hook member).mono (fun job found => ⟨job, found, rfl, rfl⟩) fun _ names => names
  | setTables db =>
    obtain rfl := Option.some.inj taken
    exact fun hook member => (known hook member).mono (fun job found => ⟨job, found, rfl, rfl⟩) fun _ names => names

/-! ## One step -/

theorem keepsReputation_hook (earned : s.Earned) (knows : StatementKnows s hook.jobId hook.next) :
    KeepsReputation s (.hook hook eventId registry) ↔ (s.advance hook eventId registry).Earned ∧
      ∀ id, CompletionReturns s (.hook hook eventId registry) (s.advance hook eventId registry) id →
        (s.advance hook eventId registry).Credited id := by
  have returns : (∀ id, CompletionReturns s (.hook hook eventId registry) (s.advance hook eventId registry) id →
        (s.advance hook eventId registry).Credited id) ↔
      ((s.onEscrowCompleted hook eventId registry).1 = none → (s.advance hook eventId registry).Credited hook.jobId) := by
    simp [CompletionReturns]
  rw [returns]
  -- where no event is written, the return alone is in question
  have reads (same : ∀ other, (s.advance hook eventId registry).credited? other = s.credited? other) :
      ((s.advance hook eventId registry).Earned ∧
        ((s.onEscrowCompleted hook eventId registry).1 = none → (s.advance hook eventId registry).Credited hook.jobId)) ↔
      ((s.onEscrowCompleted hook eventId registry).1 = none → s.Credited hook.jobId) := by
    have still : (s.advance hook eventId registry).Earned := by
      rw [ReputationStore.earned_iff] at earned ⊢
      exact fun id agentId names => earned id agentId ((same id).symm.trans names)
    rw [and_iff_right still, ReputationStore.credited_iff, ReputationStore.credited_iff, same]
    rfl
  obtain ⟨id, next⟩ := hook
  cases next with
  | selectJob =>
    rw [reads (ReputationStore.advance_credited? nofun)]
    have ends : (s.onEscrowCompleted ⟨id, .selectJob⟩ eventId registry).1 = none ↔ ¬s.Completed id := by
      rw [← ReputationStore.selectJob_ends]
      exact Option.map_eq_none_iff
    rw [ends]
    refine imp_congr_right fun unfinished => (ReputationStore.credited_iff_of_none ?_).symm
    rw [ReputationStore.earned_iff] at earned
    exact Option.eq_none_iff_forall_ne_some.mpr fun agentId names => unfinished (earned id agentId names)
  | resolveProviderAgentId job =>
    rw [reads (ReputationStore.advance_credited? nofun)]
    refine iff_of_true trivial fun ends => ReputationStore.credited_iff.mpr fun agentId provided => ?_
    obtain ⟨wallet, member, own, -⟩ := (knows.provides agentId).mp provided
    have unresolved := List.find?_eq_none.mp (Option.map_eq_none_iff.mp (Option.map_eq_none_iff.mp ends))
    exact (unresolved wallet member own).elim
  | writeReputation job agentId =>
    obtain ⟨rfl, -⟩ := knows
    obtain ⟨missing, goesOn, written⟩ | ⟨stored, ends, same⟩ :=
      ReputationStore.advance_writeReputation s job.id eventId registry job agentId
    · have written_earned : (s.advance ⟨job.id, .writeReputation job agentId⟩ eventId registry).Earned ↔ s.Completed job.id := by
        rw [ReputationStore.earned_iff] at earned ⊢
        constructor
        · exact fun completed => completed job.id agentId ((written _).trans (if_pos rfl))
        · intro completed other named names
          rw [written] at names
          split_ifs at names with here
          · rw [← here]
            exact completed
          · exact earned other named names
      rw [written_earned, goesOn]
      simp only [KeepsReputation, missing]
      exact (and_iff_left nofun).symm
    · obtain ⟨event, found⟩ := Option.ne_none_iff_exists'.mp stored
      have names : s.credited? job.id = some event.agent_id := by rw [ReputationStore.credited?, found, Option.map_some]
      rw [reads same, ends, ReputationStore.credited_iff_of_some names]
      simp only [KeepsReputation, found, forall_const]
  | selectIdentity | findAgentWallet | writeFeedback | setFeedbackTxHash =>
    rw [reads (ReputationStore.advance_credited? nofun)]
    exact imp_congr_right fun _ => (ReputationStore.credited_iff_of_some knows).symm

end Hooks

theorem KeepsReputation.trivial {label : ReputationLabel} (free : KeepsReputation s label)
    (unreturned : ∀ id, ¬CompletionReturns s label s' id) (earned : s'.Earned) :
    KeepsReputation s label ↔ s'.Earned ∧ ∀ id, CompletionReturns s label s' id → s'.Credited id :=
  iff_of_true free ⟨earned, fun id returned => (unreturned id returned).elim⟩

theorem keepsReputation_reconcile {read : OnchainEscrowJob} {escrow : EscrowWorld} {hooks : List Hook}
    (earned : s.Earned) (taken : escrowStep hashes contract s.escrow (.reconcileEscrowJob id read) = some escrow) :
    KeepsReputation s (.escrow (.reconcileEscrowJob id read)) ↔
      ({ s with escrow, hooks } : ReputationStore).Earned ∧
        ∀ id', CompletionReturns s (.escrow (.reconcileEscrowJob id read)) { s with escrow, hooks } id' →
          ({ s with escrow, hooks } : ReputationStore).Credited id' := by
  obtain ⟨job, found, moved⟩ := escrowStep_reconciled taken
  have here : ({ s with escrow, hooks } : ReputationStore).job? id = some (corrected job read) := (moved id).trans (if_pos rfl)
  have elsewhere {other : EscrowJobId} (apart : id ≠ other) :
      ({ s with escrow, hooks } : ReputationStore).job? other = s.job? other := (moved other).trans (if_neg apart)
  have completed : ({ s with escrow, hooks } : ReputationStore).Completed id ↔ read.state = .completed := by
    constructor
    · rintro ⟨job', found', completed⟩
      obtain rfl := Option.some.inj (here.symm.trans found')
      exact completed
    · exact fun completed => ⟨_, here, completed⟩
  have provides (agentId : AgentId) :
      ({ s with escrow, hooks } : ReputationStore).Provides id agentId ↔ s.Provides id agentId := by
    constructor
    · rintro ⟨job', found', wallet, member, own, named⟩
      obtain rfl := Option.some.inj (here.symm.trans found')
      exact ⟨job, found, wallet, member, own, named⟩
    · rintro ⟨job', found', wallet, member, own, named⟩
      obtain rfl := Option.some.inj (found.symm.trans found')
      exact ⟨_, here, wallet, member, own, named⟩
  constructor
  · rintro ⟨kept, unearned⟩
    constructor
    · refine ReputationStore.earned_of_completed fun event member => ?_
      by_cases own : id = event.escrow_job_id
      · rw [← own]
        refine completed.mpr (kept ?_)
        rw [own]
        exact Option.isSome_iff_exists.mpr ⟨event, Table.find?_of_mem member⟩
      · obtain ⟨job', found', done⟩ := earned.completed event member
        exact ⟨job', (elsewhere own).trans found', done⟩
    · rintro id' ⟨rfl, before, now⟩ agentId provided
      exact (unearned before (completed.mp now) agentId ((provides agentId).mp provided)).elim
  · rintro ⟨after, credited⟩
    constructor
    · intro recorded
      obtain ⟨event, found'⟩ := Option.isSome_iff_exists.mp recorded
      exact completed.mp (after.find? found')
    · intro before done agentId provided
      obtain ⟨event, -, only⟩ := credited id ⟨rfl, before, completed.mpr done⟩ agentId ((provides agentId).mpr provided)
      obtain ⟨member, own⟩ := (only event).mpr rfl
      exact before (own ▸ earned.completed event member)

theorem keepsReputation_iff {label : ReputationLabel} (known : HooksKnow s) (earned : s.Earned)
    (taken : reputationStep hashes contract s label = some s') :
    KeepsReputation s label ↔ s'.Earned ∧ ∀ id, CompletionReturns s label s' id → s'.Credited id := by
  cases label with
  | escrow label =>
    obtain ⟨escrow, moved, rfl⟩ := Option.map_eq_some_iff.mp taken
    by_cases reconciles : ∃ id read, label = .reconcileEscrowJob id read
    · obtain ⟨id, read, rfl⟩ := reconciles
      exact keepsReputation_reconcile earned moved
    · have after : ({ s with escrow, hooks := s.hooks ++ completionHooks label } : ReputationStore).Earned := by
        refine ReputationStore.earned_of_completed fun event member => ?_
        obtain ⟨job, found, completed⟩ := earned.completed event member
        obtain ⟨job', found', follows⟩ := escrowStep_follows found moved
        obtain rfl := follows.settled completed fun read same => reconciles ⟨_, read, same⟩
        exact ⟨job', found', completed⟩
      cases label with
      | reconcileEscrowJob id read => exact (reconciles ⟨id, read, rfl⟩).elim
      | _ => exact KeepsReputation.trivial True.intro (fun _ unreturned => unreturned) after
  | hook hook eventId registry =>
    rw [reputationStep] at taken
    split_ifs at taken with ready
    obtain rfl := Option.some.inj taken
    exact keepsReputation_hook earned (known hook ready.1)
  | loseHook hook =>
    rw [reputationStep] at taken
    split_ifs at taken
    obtain rfl := Option.some.inj taken
    exact KeepsReputation.trivial True.intro (fun _ unreturned => unreturned) ⟨earned.once, earned.completed⟩
  | setAgents wallets identities =>
    obtain rfl := Option.some.inj taken
    exact KeepsReputation.trivial True.intro (fun _ unreturned => unreturned) ⟨earned.once, earned.completed⟩
  | setTables db =>
    obtain rfl := Option.some.inj taken
    exact KeepsReputation.trivial True.intro (fun _ unreturned => unreturned) ⟨earned.once, earned.completed⟩

/-! ## Whole runs -/

/-- In every state of a run the events are earned, and whenever a call that completed a job returns, its provider is credited. -/
def ReputationEarned (hashes : Hashes) (contract : EscrowContract) (events : List (ReputationStore × ReputationLabel))
    (last : ReputationStore) : Prop :=
  (∀ s ∈ states events last, s.Earned) ∧
    ∀ e ∈ events, ∀ s', reputationStep hashes contract e.1 e.2 = some s' → ∀ id, CompletionReturns e.1 e.2 s' id → s'.Credited id

theorem reputationEarned_append {label : ReputationLabel} {events : List (ReputationStore × ReputationLabel)}
    (taken : reputationStep hashes contract s label = some s') : ReputationEarned hashes contract (events ++ [(s, label)]) s' ↔
      ReputationEarned hashes contract events s ∧ s'.Earned ∧ ∀ id, CompletionReturns s label s' id → s'.Credited id := by
  unfold ReputationEarned
  rw [states_append]
  simp only [List.mem_append, List.mem_singleton, or_imp, forall_and, forall_eq]
  have only : (∀ next, reputationStep hashes contract s label = some next →
      ∀ id, CompletionReturns s label next id → next.Credited id) ↔ ∀ id, CompletionReturns s label s' id → s'.Credited id := by
    simp [taken]
  rw [only]
  tauto

/-- Reputation is earned exactly once along a run if and only if every step keeps it. -/
theorem reputation_earned_iff {s₀ : ReputationStore} {events : List (ReputationStore × ReputationLabel)}
    (fresh : s₀.events = .empty ∧ s₀.hooks = []) (run : Run (reputationStep hashes contract) s₀ events s) :
    ReputationEarned hashes contract events s ↔ Conforms KeepsReputation events := by
  induction run with
  | start =>
    refine iff_of_true ⟨fun s member => ?_, fun e none_ => (List.not_mem_nil none_).elim⟩ conforms_nil
    obtain rfl := List.mem_singleton.mp member
    exact ReputationStore.earned_of_completed (by simp [fresh.1])
  | next before taken ih =>
    rename_i events s s' label
    rw [reputationEarned_append taken, ih, conforms_append, conforms_singleton]
    refine and_congr_right fun kept => ?_
    have earned : s.Earned := (ih.mpr kept).1 s (by simp [states])
    have known : HooksKnow s := before.always HooksKnow (by simp [HooksKnow, fresh.2]) fun _ _ _ => hooksKnow_step
    exact (keepsReputation_iff known earned taken).symm

namespace ReputationWorkspace

abbrev step : ReputationStore → ReputationLabel → Option ReputationStore :=
  reputationStep Workspace.hashes EscrowWorkspace.guardedEscrow

def start : ReputationStore where
  escrow := EscrowWorkspace.world EscrowWorkspace.source
  parties := fun _ => ⟨⟨9, 0⟩, .test⟩
  wallets := (Table.singleton ⟨⟨2, .test, .base, ⟨9, 3⟩, true⟩, 1⟩).upsert ⟨⟨1, .test, .base, ⟨8, 0⟩, true⟩, 1⟩
  identities := .singleton ⟨2, .test, .base, some 31, true⟩
  events := .empty
  hooks := []

def delivering : List ReputationLabel :=
  EscrowWorkspace.funding.map .escrow ++ [.escrow (.applyEscrowStateChange 1 .submitted)]

def completedJob : EscrowJobRow := ⟨1, 1, 1, .base, some 7, 20000, some 1, .completed, 10⟩

def earning : List ReputationLabel :=
  [.selectJob, .resolveProviderAgentId completedJob, .writeReputation completedJob 2, .selectIdentity completedJob 2 5,
    .findAgentWallet completedJob 2 5 31, .writeFeedback 2 5 ⟨.test, .base, ⟨8, 0⟩, 31, completionScore⟩,
    .setFeedbackTxHash 2 5 77].zipIdx.map fun (statement, n) => .hook ⟨1, statement⟩ (n + 3) fun _ => some 77

def unearned (s : ReputationStore) : Bool :=
  (s.job? 1).any (fun job => job.state = .submitted && s.wallets.rows.any fun wallet => s.provides job wallet && wallet.agent_id = 2) &&
    s.events.rows.isEmpty && (step s (.escrow (.reconcileEscrowJob 1 ⟨.completed, 20000⟩))).isSome

def keepsBy (s : ReputationStore) : ReputationLabel → Bool
  | .escrow (.reconcileEscrowJob _ _) => false
  | .hook hook _ _ =>
    match hook.next with
    | .selectJob | .writeReputation _ _ =>
      (s.job? hook.jobId).any (fun job => job.state = .completed) && (s.events.find? hook.jobId).isNone
    | .resolveProviderAgentId _ => true
    | .selectIdentity _ found _ | .findAgentWallet _ found _ _ | .writeFeedback found _ _ | .setFeedbackTxHash found _ _ =>
      (s.job? hook.jobId).all fun job => s.wallets.rows.all fun wallet => !s.provides job wallet || wallet.agent_id = found
  | _ => true

theorem completed_of_any {s : ReputationStore} {id : EscrowJobId}
    (checked : (s.job? id).any (fun job => decide (job.state = .completed)) = true) : s.Completed id := by
  obtain ⟨job, found, completed⟩ := (Option.any_eq_true _ _).mp checked
  exact ⟨job, found, of_decide_eq_true completed⟩

theorem keeps_of_keepsBy {s : ReputationStore} {label : ReputationLabel} (checked : keepsBy s label = true) :
    KeepsReputation s label := by
  cases label with
  | escrow label =>
    cases label with
    | reconcileEscrowJob => cases checked
    | _ => trivial
  | hook hook eventId registry =>
    obtain ⟨id, next⟩ := hook
    cases next with
    | selectJob =>
      rw [keepsBy, Bool.and_eq_true] at checked
      exact fun unfinished => (unfinished (completed_of_any checked.1)).elim
    | resolveProviderAgentId => trivial
    | writeReputation =>
      rw [keepsBy, Bool.and_eq_true, Option.isNone_iff_eq_none] at checked
      simp only [KeepsReputation, checked.2]
      exact completed_of_any checked.1
    | selectIdentity | findAgentWallet | writeFeedback | setFeedbackTxHash =>
      rintro - agentId ⟨job, found, wallet, member, own, rfl⟩
      simp only [keepsBy, found, Option.all_some, List.all_eq_true] at checked
      have only := checked wallet member
      rwa [own, Bool.not_true, Bool.false_or, decide_eq_true_eq] at only
  | _ => trivial

end ReputationWorkspace

/-- The evaluator is an outside party, so the job is completed on the chain alone and the reconciliation is the first to see it. -/
theorem reconciled_completion_unearned : ∃ events s,
    Run (reputationStep Workspace.hashes EscrowWorkspace.guardedEscrow) ReputationWorkspace.start events s ∧
      ReputationWorkspace.start.events = .empty ∧ ReputationWorkspace.start.hooks = [] ∧
      ¬ReputationEarned Workspace.hashes EscrowWorkspace.guardedEscrow events s := by
  obtain ⟨events, s, run, unearned⟩ : ∃ events s, Run ReputationWorkspace.step ReputationWorkspace.start events s ∧
      ReputationWorkspace.unearned s = true :=
    exists_run (ReputationWorkspace.delivering ++ [.escrow (.onchain (.base, 7) .complete)])
      (fun s => ReputationWorkspace.unearned s = true) (by decide)
  simp only [ReputationWorkspace.unearned, Bool.and_eq_true, Option.any_eq_true, List.any_eq_true, decide_eq_true_eq,
    List.isEmpty_iff] at unearned
  obtain ⟨⟨⟨job, found, submitted, wallet, member, own, second⟩, none_⟩, taken⟩ := unearned
  obtain ⟨s', taken⟩ := Option.isSome_iff_exists.mp taken
  refine ⟨_, s', run.next taken, rfl, rfl, fun earned => ?_⟩
  have credited := earned.2
  obtain ⟨escrow, moved, rfl⟩ := Option.map_eq_some_iff.mp taken
  obtain ⟨job', found', after⟩ := escrowStep_reconciled moved
  obtain rfl := Option.some.inj (found.symm.trans found')
  have here := (after 1).trans (if_pos rfl)
  have before : ¬s.Completed 1 := by
    rintro ⟨job', found', completed⟩
    obtain rfl := Option.some.inj (found.symm.trans found')
    rw [submitted] at completed
    cases completed
  have last : (s, ReputationLabel.escrow (.reconcileEscrowJob 1 ⟨.completed, 20000⟩)) ∈
      events ++ [(s, ReputationLabel.escrow (.reconcileEscrowJob 1 ⟨.completed, 20000⟩))] := by simp
  obtain ⟨event, -, only⟩ := credited _ last _ taken 1 ⟨rfl, before, _, here, rfl⟩ 2 ⟨_, here, wallet, member, own, second⟩
  have recorded := ((only event).mpr rfl).1
  rw [Table.mem_def] at recorded
  rw [none_] at recorded
  cases recorded

theorem applied_completion_earned : ∃ events s,
    Run (reputationStep Workspace.hashes EscrowWorkspace.guardedEscrow) ReputationWorkspace.start events s ∧
      ReputationEarned Workspace.hashes EscrowWorkspace.guardedEscrow events s ∧
      s.hooks = [] ∧ s.events.rows.map (fun event => (event.agent_id, event.feedback_tx_hash)) = [(2, some 77)] := by
  obtain ⟨events, s, run, keeps, ended, credited⟩ : ∃ events s, Run ReputationWorkspace.step ReputationWorkspace.start events s ∧
      Conforms KeepsReputation events ∧ s.hooks = [] ∧
        s.events.rows.map (fun event => (event.agent_id, event.feedback_tx_hash)) = [(2, some 77)] :=
    exists_conforming_run (ReputationWorkspace.delivering ++
        .escrow (.applyEscrowStateChange 1 .completed) :: ReputationWorkspace.earning)
      ReputationWorkspace.keepsBy
      (fun s => s.hooks = [] ∧ s.events.rows.map (fun event => (event.agent_id, event.feedback_tx_hash)) = [(2, some 77)])
      (fun _ _ => ReputationWorkspace.keeps_of_keepsBy) (by decide)
  exact ⟨events, s, run, (reputation_earned_iff ⟨rfl, rfl⟩ run).mpr keeps, ended, credited⟩

end AgentOps.Payments
