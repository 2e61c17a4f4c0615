import AgentOps.Lib.Table
import AgentOps.Lib.Transition
import AgentOps.Payments.Types
import AgentOps.Treasury.Fleet

namespace AgentOps.Wallets
open Lib Payments
open Treasury (WalletStatus JobStatus)

/-! # The wallets of agents, and the jobs that create and sweep them -/

abbrev OrgId := String
abbrev AgentId := String
abbrev JobId := String
abbrev CircleWalletId := String

inductive AgentStatus where
  | active
  | paused
  | deactivated
  | retired
  | suspended
  deriving DecidableEq

structure Agent where
  id : AgentId
  orgId : OrgId
  status : AgentStatus
  deriving DecidableEq

structure CircleWalletSet where
  id : String
  orgId : OrgId
  mode : PaymentMode
  circleWalletSetId : String
  active : Bool
  deriving DecidableEq

structure CircleChainCapability where
  mode : PaymentMode
  chain : PaymentChain
  circleBlockchain : String
  deriving DecidableEq

structure CircleChainWallet where
  orgId : OrgId
  mode : PaymentMode
  chain : PaymentChain
  address : String
  active : Bool
  deriving DecidableEq

structure AgentChainWallet where
  id : String
  orgId : OrgId
  agentId : AgentId
  walletSetId : String
  mode : PaymentMode
  chain : PaymentChain
  circleBlockchain : String
  circleWalletId : CircleWalletId
  address : String
  refId : String
  status : WalletStatus
  deriving DecidableEq

/-- `UNIQUE (agent_id, mode, chain)` -/
def AgentChainWallet.key (wallet : AgentChainWallet) : AgentId × PaymentMode × PaymentChain :=
  (wallet.agentId, wallet.mode, wallet.chain)

inductive JobType where
  | agentWalletCreate
  | agentWalletSweep
  deriving DecidableEq

structure CircleProviderJob where
  id : JobId
  orgId : OrgId
  mode : PaymentMode
  jobType : JobType
  chain : Option PaymentChain
  status : JobStatus
  /-- `metadata.agent_id`, where it is a text -/
  agentId : Option AgentId
  /-- `metadata.reason` -/
  reason : Option String
  amountUsdc : Option Nat
  providerRef : Option String
  errorCode : Option String
  createdBy : String
  deriving DecidableEq

structure LedgerPosting where
  orgId : OrgId
  agentId : AgentId
  mode : PaymentMode
  chain : PaymentChain
  entryType : String
  amountUsdc : ℤ
  jobId : JobId
  reasonCode : String
  createdBy : String
  deriving DecidableEq

structure WalletStore where
  agents : Table Agent.id
  circleWalletSets : List CircleWalletSet
  circleChainCapabilities : List CircleChainCapability
  circleChainWallets : List CircleChainWallet
  agentChainWallets : Table AgentChainWallet.key
  circleProviderJobs : Table CircleProviderJob.id
  ledgerPostings : List LedgerPosting

structure CreateWalletInput where
  chain : PaymentChain
  circleBlockchain : String
  mode : PaymentMode
  orgId : OrgId
  walletSetId : String
  deriveFromWalletId : Option CircleWalletId
  deriving DecidableEq

structure CreatedWallet where
  circleWalletId : CircleWalletId
  address : String
  deriving DecidableEq

structure TransferWalletInput where
  amountMicros : Nat
  chain : PaymentChain
  destinationAddress : String
  mode : PaymentMode
  refId : String
  sourceAddress : String
  deriving DecidableEq

/-- What a call to the outside comes to: its answer, or the message of the error that it throws, where it throws an `Error` -/
abbrev Answer (α : Type) := Except (Option String) α

structure RecordProvisionedWalletInput where
  orgId : OrgId
  agentId : AgentId
  mode : PaymentMode
  chain : PaymentChain
  circleWalletId : CircleWalletId
  address : String
  refId : String
  walletSetId : String
  circleBlockchain : String
  deriving DecidableEq

def RecordProvisionedWalletInput.row (input : RecordProvisionedWalletInput) (id : String) : AgentChainWallet where
  id
  orgId := input.orgId
  agentId := input.agentId
  walletSetId := input.walletSetId
  mode := input.mode
  chain := input.chain
  circleBlockchain := input.circleBlockchain
  circleWalletId := input.circleWalletId
  address := input.address
  refId := input.refId
  status := .active

def CircleProviderJob.jobAgentId (job : CircleProviderJob) : Option AgentId := job.agentId.filter (· ≠ "")

def CircleProviderJob.fail (errorCode : String) (job : CircleProviderJob) : CircleProviderJob :=
  { job with status := .failed, errorCode := some errorCode }

def CircleProviderJob.created (circleWalletId : CircleWalletId) (job : CircleProviderJob) : CircleProviderJob :=
  { job with status := .complete, providerRef := some circleWalletId }

def CircleProviderJob.swept (amountMicros : Nat) (providerRef : Option String) (job : CircleProviderJob) : CircleProviderJob :=
  { job with status := .complete, amountUsdc := some amountMicros, providerRef := providerRef }

def AgentChainWallet.sweep (wallet : AgentChainWallet) : AgentChainWallet := { wallet with status := .swept }

namespace WalletStore

def failJob (s : WalletStore) (jobId : JobId) (errorCode : String) : WalletStore :=
  { s with circleProviderJobs := s.circleProviderJobs.modify jobId (·.fail errorCode) }

/-! ## Creating -/

def createJob (orgId : OrgId) (agentId : AgentId) (mode : PaymentMode) (createdBy : String) (id : JobId) (chain : PaymentChain) :
    CircleProviderJob where
  id
  orgId
  mode
  jobType := .agentWalletCreate
  chain := some chain
  status := .queued
  agentId := some agentId
  reason := none
  amountUsdc := none
  providerRef := none
  errorCode := none
  createdBy

def enqueueAgentWalletProvisioning (s : WalletStore) (orgId : OrgId) (agentId : AgentId) (mode : PaymentMode)
    (chains : List (JobId × PaymentChain)) (createdBy : String) : Option WalletStore := do
  let jobs ← s.circleProviderJobs.insertAll? (chains.map fun (id, chain) => createJob orgId agentId mode createdBy id chain)
  some { s with circleProviderJobs := jobs }

/-- `ON CONFLICT (agent_id, mode, chain) DO NOTHING`. A row is inserted for an agent that there is. -/
def recordProvisionedWallet (s : WalletStore) (id : String) (input : RecordProvisionedWalletInput) : Answer WalletStore :=
  match s.agentChainWallets.insert? (input.row id) with
  | none => .ok s
  | some wallets =>
    if (s.agents.find? input.agentId).isSome then .ok { s with agentChainWallets := wallets }
    else .error (some "violates foreign key constraint agent_chain_wallets_agent_id_fkey")

def findAgentWallet (s : WalletStore) (agentId : AgentId) (mode : PaymentMode) (chain : PaymentChain) : Option AgentChainWallet :=
  (s.agentChainWallets.find? (agentId, mode, chain)).filter (·.status = .active)

def findAnyAgentWallet (s : WalletStore) (agentId : AgentId) (mode : PaymentMode) : Option AgentChainWallet :=
  (s.agentChainWallets.rows.filter fun wallet => wallet.agentId = agentId && wallet.mode = mode && wallet.status = .active).getLast?

def creation (s : WalletStore) (job : CircleProviderJob) (agentId : AgentId) (chain : PaymentChain) :
    Except String (CircleWalletSet × CreateWalletInput) :=
  match s.circleWalletSets.find? fun set => set.orgId = job.orgId && set.mode = job.mode && set.active with
  | none => .error "circle_wallet_set_not_found"
  | some walletSet =>
    match s.circleChainCapabilities.find? fun capability => capability.mode = job.mode && capability.chain = chain with
    | none => .error "circle_chain_capability_not_found"
    | some capability => .ok (walletSet, {
        chain
        circleBlockchain := capability.circleBlockchain
        mode := job.mode
        orgId := job.orgId
        walletSetId := walletSet.circleWalletSetId
        deriveFromWalletId := (s.findAnyAgentWallet agentId job.mode).map (·.circleWalletId) })

def provision (s : WalletStore) (job : CircleProviderJob) (agentId : AgentId) (chain : PaymentChain) (walletId refId : String)
    (createWallet : CreateWalletInput → Answer CreatedWallet) : Answer WalletStore :=
  match s.creation job agentId chain with
  | .error message => .error (some message)
  | .ok (walletSet, input) =>
    match createWallet input with
    | .error message => .error message
    | .ok created =>
      match s.recordProvisionedWallet walletId {
        orgId := job.orgId
        agentId
        mode := job.mode
        chain
        circleWalletId := created.circleWalletId
        address := created.address
        refId := ((s.findAnyAgentWallet agentId job.mode).map (·.id)).getD refId
        walletSetId := walletSet.id
        circleBlockchain := input.circleBlockchain } with
      | .error message => .error message
      | .ok recorded =>
        .ok { recorded with circleProviderJobs := s.circleProviderJobs.modify job.id (·.created created.circleWalletId) }

def processAgentWalletCreateJob (s : WalletStore) (jobId : JobId) (walletId refId : String)
    (createWallet : CreateWalletInput → Answer CreatedWallet) : WalletStore :=
  match s.circleProviderJobs.find? jobId with
  | none => s
  | some job =>
    if job.jobType ≠ .agentWalletCreate then s
    else match job.jobAgentId, job.chain with
    | some agentId, some chain =>
      match s.provision job agentId chain walletId refId createWallet with
      | .error message => s.failJob jobId (message.getD "agent_wallet_create_failed")
      | .ok s' => s'
    | _, _ => s.failJob jobId "agent_wallet_job_metadata_invalid"

/-! ## Sweeping -/

def sweepAmountMicros (balanceMicros gasNeededMicros : Nat) : Nat := balanceMicros - gasNeededMicros

def treasuryWallet (s : WalletStore) (orgId : OrgId) (mode : PaymentMode) (chain : PaymentChain) : Option CircleChainWallet :=
  s.circleChainWallets.find? fun wallet => wallet.orgId = orgId && wallet.mode = mode && wallet.chain = chain && wallet.active

def markSwept (s : WalletStore) (agentId : AgentId) (mode : PaymentMode) (chain : PaymentChain) : WalletStore :=
  { s with agentChainWallets := s.agentChainWallets.modify (agentId, mode, chain) (·.sweep) }

def sweepTransfer (jobId : JobId) (chain : PaymentChain) (mode : PaymentMode) (source destination : String) (amountMicros : Nat)
    (transferWallet : TransferWalletInput → Answer String) : Answer (Option String) :=
  if amountMicros = 0 then .ok none
  else (transferWallet {
    amountMicros
    chain
    destinationAddress := destination
    mode
    refId := "agentops-sweep-" ++ jobId
    sourceAddress := source }).map some

/-- The wallet is marked before the job's row and the posting are written, which refuse amounts of more than twenty digits. -/
def recordSweep (s : WalletStore) (job : CircleProviderJob) (agentId : AgentId) (chain : PaymentChain) (amountMicros : Nat)
    (providerRef : Option String) : WalletStore :=
  let marked := s.markSwept agentId job.mode chain
  if 10 ^ 20 ≤ amountMicros then marked.failJob job.id "numeric field overflow"
  else { marked with
    circleProviderJobs := s.circleProviderJobs.modify job.id (·.swept amountMicros providerRef)
    ledgerPostings := {
      orgId := job.orgId
      agentId
      mode := job.mode
      chain
      entryType := "sweep"
      amountUsdc := -amountMicros
      jobId := job.id
      reasonCode := "agent_wallet_swept"
      createdBy := "system" } :: s.ledgerPostings }

def processAgentWalletSweepJob (s : WalletStore) (jobId : JobId)
    (nativeBalanceMicros : String → PaymentChain → PaymentMode → Answer Nat)
    (gasNeededMicros : Nat) (transferWallet : TransferWalletInput → Answer String) : WalletStore :=
  match s.circleProviderJobs.find? jobId with
  | none => s
  | some job =>
    if job.jobType ≠ .agentWalletSweep then s
    else match job.jobAgentId, job.chain with
    | some agentId, some chain =>
      match s.findAgentWallet agentId job.mode chain with
      | none => s.failJob jobId "agent_wallet_not_found"
      | some agentWallet =>
        match s.treasuryWallet job.orgId job.mode chain with
        | none => s.failJob jobId "circle_wallet_missing"
        | some treasuryWallet =>
          match nativeBalanceMicros agentWallet.address chain job.mode with
          | .error message => s.failJob jobId (message.getD "agent_wallet_sweep_failed")
          | .ok balance =>
            let amountMicros := sweepAmountMicros balance gasNeededMicros
            match sweepTransfer jobId chain job.mode agentWallet.address treasuryWallet.address amountMicros transferWallet with
            | .error message => s.failJob jobId (message.getD "agent_wallet_sweep_failed")
            | .ok providerRef => s.recordSweep job agentId chain amountMicros providerRef
    | _, _ => s.failJob jobId "agent_wallet_job_metadata_invalid"

end WalletStore

inductive WalletLabel where
  | enqueueAgentWalletProvisioning (orgId : OrgId) (agentId : AgentId) (mode : PaymentMode) (chains : List (JobId × PaymentChain))
      (createdBy : String)
  | processAgentWalletCreateJob (jobId : JobId) (walletId refId : String) (createWallet : CreateWalletInput → Answer CreatedWallet)
  | processAgentWalletSweepJob (jobId : JobId) (nativeBalanceMicros : String → PaymentChain → PaymentMode → Answer Nat)
      (gasNeededMicros : Nat) (transferWallet : TransferWalletInput → Answer String)

def walletStep (s : WalletStore) : WalletLabel → Option WalletStore
  | .enqueueAgentWalletProvisioning orgId agentId mode chains createdBy =>
    s.enqueueAgentWalletProvisioning orgId agentId mode chains createdBy
  | .processAgentWalletCreateJob jobId walletId refId createWallet =>
    some (s.processAgentWalletCreateJob jobId walletId refId createWallet)
  | .processAgentWalletSweepJob jobId nativeBalanceMicros gasNeededMicros transferWallet =>
    some (s.processAgentWalletSweepJob jobId nativeBalanceMicros gasNeededMicros transferWallet)

/-! ## What a creation comes to -/

variable {s s' : WalletStore} {jobId : JobId} {job : CircleProviderJob} {agentId : AgentId} {chain : PaymentChain}
  {walletId refId errorCode : String} {createWallet : CreateWalletInput → Answer CreatedWallet} {input : CreateWalletInput}
  {created : CreatedWallet} {wallet wallet' : AgentChainWallet}

structure Creates (s : WalletStore) (jobId : JobId) (createWallet : CreateWalletInput → Answer CreatedWallet)
    (job : CircleProviderJob)
    (agentId : AgentId) (chain : PaymentChain) (input : CreateWalletInput) (created : CreatedWallet) : Prop where
  found : s.circleProviderJobs.find? jobId = some job
  kind : job.jobType = .agentWalletCreate
  agent : job.jobAgentId = some agentId
  on : job.chain = some chain
  asked : ∃ walletSet, s.creation job agentId chain = .ok (walletSet, input)
  granted : createWallet input = .ok created
  known : s.agentChainWallets.find? (agentId, job.mode, chain) = none → (s.agents.find? agentId).isSome

structure Holds (wallet : AgentChainWallet) (job : CircleProviderJob) (agentId : AgentId) (chain : PaymentChain)
    (created : CreatedWallet) : Prop where
  key : wallet.key = (agentId, job.mode, chain)
  circleWalletId : wallet.circleWalletId = created.circleWalletId
  address : wallet.address = created.address
  active : wallet.status = .active

structure Completes (s : WalletStore) (jobId : JobId) (createWallet : CreateWalletInput → Answer CreatedWallet) (s' : WalletStore)
    (job : CircleProviderJob) (agentId : AgentId) (chain : PaymentChain) (input : CreateWalletInput) (created : CreatedWallet)
    (wallet : AgentChainWallet) : Prop extends Creates s jobId createWallet job agentId chain input created,
    Holds wallet job agentId chain created where
  wallets : s'.agentChainWallets = (s.agentChainWallets.insert? wallet).getD s.agentChainWallets
  completed : s'.circleProviderJobs.find? jobId = some (job.created created.circleWalletId)

structure Refuses (s : WalletStore) (jobId : JobId) (createWallet : CreateWalletInput → Answer CreatedWallet)
    (s' : WalletStore) : Prop where
  wallets : s'.agentChainWallets = s.agentChainWallets
  incomplete : ∀ job, s'.circleProviderJobs.find? jobId = some job → job.jobType = .agentWalletCreate → job.status ≠ .complete
  refused : ∀ job agentId chain input created, ¬Creates s jobId createWallet job agentId chain input created

theorem find?_failJob (found : s.circleProviderJobs.find? jobId = some job) :
    (s.failJob jobId errorCode).circleProviderJobs.find? jobId = some (job.fail errorCode) :=
  Table.find?_modify_self (fun _ => rfl) found

theorem recordProvisionedWallet_ok {id : String} {record : RecordProvisionedWalletInput} :
    s.recordProvisionedWallet id record = .ok s' ↔
      (s.agentChainWallets.find? (record.row id).key = none → (s.agents.find? record.agentId).isSome) ∧
        s' = { s with agentChainWallets := (s.agentChainWallets.insert? (record.row id)).getD s.agentChainWallets } := by
  unfold WalletStore.recordProvisionedWallet
  cases inserted : s.agentChainWallets.insert? (record.row id) with
  | none =>
    have taken : s.agentChainWallets.find? (record.row id).key ≠ none := by
      intro free
      have some_ := Table.insert?_isSome free
      rw [inserted] at some_
      cases some_
    simp only [Except.ok.injEq, Option.getD_none, taken, false_implies, true_and]
    exact eq_comm
  | some wallets =>
    have free := (Table.insert?_eq_some inserted).2
    simp only [Option.getD_some, free, true_implies]
    split_ifs with known
    · simp only [known, true_and, Except.ok.injEq]
      exact eq_comm
    · simp [known]

theorem provision_creates (creates : Creates s jobId createWallet job agentId chain input created) :
    ∃ s', s.provision job agentId chain walletId refId createWallet = .ok s' := by
  obtain ⟨walletSet, asked⟩ := creates.asked
  rw [WalletStore.provision, asked]
  simp only [creates.granted]
  rw [recordProvisionedWallet_ok.mpr ⟨creates.known, rfl⟩]
  exact ⟨_, rfl⟩

theorem provision_ok (found : s.circleProviderJobs.find? jobId = some job) (kind : job.jobType = .agentWalletCreate)
    (agent : job.jobAgentId = some agentId) (on : job.chain = some chain)
    (provisioned : s.provision job agentId chain walletId refId createWallet = .ok s') :
    ∃ input created wallet, Completes s jobId createWallet s' job agentId chain input created wallet := by
  unfold WalletStore.provision at provisioned
  split at provisioned
  · cases provisioned
  · rename_i walletSet input asked
    split at provisioned
    · cases provisioned
    · rename_i created granted
      split at provisioned
      · cases provisioned
      rename_i recorded record
      obtain rfl := Except.ok.inj provisioned
      obtain ⟨known, rfl⟩ := recordProvisionedWallet_ok.mp record
      obtain rfl := Table.key_of_find? found
      exact ⟨input, created, _, {
        found, kind, agent, on, granted, known
        asked := ⟨walletSet, asked⟩
        key := rfl
        circleWalletId := rfl
        address := rfl
        active := rfl
        wallets := rfl
        completed := Table.find?_modify_self (fun _ => rfl) found }⟩

theorem create_cases (s : WalletStore) (jobId : JobId) (walletId refId : String)
    (createWallet : CreateWalletInput → Answer CreatedWallet) :
    Refuses s jobId createWallet (s.processAgentWalletCreateJob jobId walletId refId createWallet) ∨
      ∃ job agentId chain input created wallet,
        Completes s jobId createWallet (s.processAgentWalletCreateJob jobId walletId refId createWallet) job agentId chain input created
          wallet := by
  unfold WalletStore.processAgentWalletCreateJob
  cases found : s.circleProviderJobs.find? jobId with
  | none =>
    refine .inl ⟨rfl, fun job named => ?_, fun _ _ _ _ _ creates => ?_⟩
    · cases found.symm.trans named
    · cases found.symm.trans creates.found
  | some job =>
    have only {job' agentId chain input created} (creates : Creates s jobId createWallet job' agentId chain input created) : job' = job :=
      Option.some.inj (creates.found.symm.trans found)
    have failed {errorCode : String} (refused : ∀ agentId chain input created, ¬Creates s jobId createWallet job agentId chain input created) :
        Refuses s jobId createWallet (s.failJob jobId errorCode) := by
      refine ⟨rfl, fun job' named _ => ?_, fun job' agentId chain input created creates => ?_⟩
      · obtain rfl := Option.some.inj ((find?_failJob found).symm.trans named)
        exact nofun
      · exact refused agentId chain input created (only creates ▸ creates)
    dsimp only
    split_ifs with kind
    · refine .inl ⟨rfl, fun job' named create => absurd create ?_, fun _ _ _ _ _ creates => kind (only creates ▸ creates.kind)⟩
      rwa [Option.some.inj (named.symm.trans found)]
    · have kind := not_not.mp kind
      split
      · rename_i agentId chain agent on
        have same {agentId' chain' input created} (creates : Creates s jobId createWallet job agentId' chain' input created) :
            Creates s jobId createWallet job agentId chain input created := by
          obtain rfl := Option.some.inj (creates.agent.symm.trans agent)
          obtain rfl := Option.some.inj (creates.on.symm.trans on)
          exact creates
        split
        · rename_i message refused
          refine .inl (failed fun agentId' chain' input created creates => ?_)
          obtain ⟨s', granted⟩ : ∃ s', s.provision job agentId chain walletId refId createWallet = .ok s' :=
            provision_creates (same creates)
          cases refused.symm.trans granted
        · rename_i s' provisioned
          obtain ⟨input, created, wallet, completes⟩ := provision_ok found kind agent on provisioned
          exact .inr ⟨job, agentId, chain, input, created, wallet, completes⟩
      · rename_i missing
        exact .inl (failed fun agentId chain input created creates => missing agentId chain creates.agent creates.on)

/-! ## One address for each agent -/

def OneAddress (s : WalletStore) : Prop := ∀ wallet ∈ s.agentChainWallets, ∀ wallet' ∈ s.agentChainWallets,
  wallet.status = .active → wallet'.status = .active → wallet.agentId = wallet'.agentId → wallet.mode = wallet'.mode →
    wallet.address = wallet'.address

/-- A wallet that the provider derives from one of the table keeps its address. -/
def KeepsAddress (s : WalletStore) : WalletLabel → Prop
  | .processAgentWalletCreateJob _ _ _ createWallet => ∀ wallet ∈ s.agentChainWallets, ∀ input created,
    input.deriveFromWalletId = some wallet.circleWalletId → createWallet input = .ok created → created.address = wallet.address
  | _ => True

theorem OneAddress.of_subset (one : OneAddress s) (subset : ∀ wallet ∈ s'.agentChainWallets, wallet.status = .active →
    wallet ∈ s.agentChainWallets) : OneAddress s' :=
  fun wallet member wallet' member' active active' =>
    one wallet (subset wallet member active) wallet' (subset wallet' member' active') active active'

theorem creation_derives {walletSet : CircleWalletSet} (asked : s.creation job agentId chain = .ok (walletSet, input)) :
    input.deriveFromWalletId = (s.findAnyAgentWallet agentId job.mode).map (·.circleWalletId) := by
  unfold WalletStore.creation at asked
  split at asked
  · cases asked
  · split at asked
    · cases asked
    · obtain ⟨-, rfl⟩ := Prod.mk.inj (Except.ok.inj asked)
      rfl

theorem findAnyAgentWallet_cases {mode : PaymentMode} (member : wallet ∈ s.agentChainWallets) (own : wallet.agentId = agentId)
    (within : wallet.mode = mode) (active : wallet.status = .active) :
    ∃ existing ∈ s.agentChainWallets, s.findAnyAgentWallet agentId mode = some existing ∧ existing.agentId = agentId ∧
      existing.mode = mode ∧ existing.status = .active := by
  have among : wallet ∈ s.agentChainWallets.rows.filter fun wallet =>
      wallet.agentId = agentId && wallet.mode = mode && wallet.status = .active :=
    List.mem_filter.mpr ⟨member, by simp [own, within, active]⟩
  have nonempty := List.ne_nil_of_mem among
  refine ⟨_, ?_, List.getLast?_eq_some_getLast nonempty, ?_⟩
  · exact List.mem_of_mem_filter (List.getLast_mem nonempty)
  · simpa [and_assoc] using (List.mem_filter.mp (List.getLast_mem nonempty)).2

theorem oneAddress_create (one : OneAddress s)
    (keeps : KeepsAddress s (.processAgentWalletCreateJob jobId walletId refId createWallet)) :
    OneAddress (s.processAgentWalletCreateJob jobId walletId refId createWallet) := by
  rcases create_cases s jobId walletId refId createWallet with refuses | ⟨job, agentId, chain, input, created, row, completes⟩
  · exact one.of_subset fun wallet member _ => refuses.wallets ▸ member
  · generalize s.processAgentWalletCreateJob jobId walletId refId createWallet = s' at completes
    cases inserted : s.agentChainWallets.insert? row with
    | none =>
      have same : s'.agentChainWallets = s.agentChainWallets := by rw [completes.wallets, inserted, Option.getD_none]
      exact one.of_subset fun wallet member _ => same ▸ member
    | some wallets =>
      have same : s'.agentChainWallets = wallets := by rw [completes.wallets, inserted, Option.getD_some]
      obtain ⟨rfl, inMode, -⟩ : row.agentId = agentId ∧ row.mode = job.mode ∧ row.chain = chain := by
        simpa [AgentChainWallet.key] using completes.key
      have derived : ∀ wallet ∈ s.agentChainWallets, wallet.status = .active → wallet.agentId = row.agentId → wallet.mode = row.mode →
          row.address = wallet.address := by
        intro wallet member active own within
        obtain ⟨existing, known, found, own', within', active'⟩ := findAnyAgentWallet_cases member own (within.trans inMode) active
        obtain ⟨walletSet, asked⟩ := completes.asked
        have from_ := creation_derives asked
        rw [found, Option.map_some] at from_
        rw [completes.address, keeps existing known input created from_ completes.granted]
        exact one existing known wallet member active' active (own'.trans own.symm) (within'.trans (within.trans inMode).symm)
      intro wallet member wallet' member' active active' own within
      rw [same, Table.mem_insert? inserted] at member member'
      rcases member with rfl | member
      · rcases member' with rfl | member'
        · rfl
        · exact derived wallet' member' active' own.symm within.symm
      · rcases member' with rfl | member'
        · exact (derived wallet member active own within).symm
        · exact one wallet member wallet' member' active active' own within

theorem markSwept_subset {mode : PaymentMode} :
    ∀ wallet ∈ (s.markSwept agentId mode chain).agentChainWallets, wallet.status = .active → wallet ∈ s.agentChainWallets := by
  intro wallet member active
  obtain ⟨before, known, -, rfl⟩ := Table.mem_modify (f := AgentChainWallet.sweep) (fun _ => rfl) member
  split_ifs at active ⊢
  · cases active
  · exact known

theorem sweep_subset (nativeBalanceMicros : String → PaymentChain → PaymentMode → Answer Nat) (gasNeededMicros : Nat)
    (transferWallet : TransferWalletInput → Answer String) :
    ∀ wallet ∈ (s.processAgentWalletSweepJob jobId nativeBalanceMicros gasNeededMicros transferWallet).agentChainWallets,
      wallet.status = .active → wallet ∈ s.agentChainWallets := by
  intro wallet member active
  unfold WalletStore.processAgentWalletSweepJob at member
  split at member
  · exact member
  split_ifs at member
  · exact member
  split at member
  · split at member
    · exact member
    split at member
    · exact member
    split at member
    · exact member
    dsimp only at member
    split at member
    · exact member
    unfold WalletStore.recordSweep at member
    dsimp only at member
    split_ifs at member
    · exact markSwept_subset wallet member active
    · exact markSwept_subset wallet member active
  · exact member

theorem oneAddress_step {label : WalletLabel} (one : OneAddress s) (keeps : KeepsAddress s label)
    (taken : walletStep s label = some s') : OneAddress s' := by
  cases label with
  | enqueueAgentWalletProvisioning orgId agentId mode chains createdBy =>
    obtain ⟨jobs, -, same⟩ := Option.bind_eq_some_iff.mp taken
    obtain rfl := Option.some.inj same
    exact one
  | processAgentWalletCreateJob jobId walletId refId createWallet =>
    obtain rfl := Option.some.inj taken
    exact oneAddress_create one keeps
  | processAgentWalletSweepJob jobId nativeBalanceMicros gasNeededMicros transferWallet =>
    obtain rfl := Option.some.inj taken
    exact one.of_subset (sweep_subset nativeBalanceMicros gasNeededMicros transferWallet)

/-! ## A wallet behind each complete job -/

/-- The job's wallet is in the table, active and under the id that the job names. -/
def Backed (s : WalletStore) (job : CircleProviderJob) : Prop := ∃ wallet ∈ s.agentChainWallets,
  job.jobAgentId = some wallet.agentId ∧ job.mode = wallet.mode ∧ job.chain = some wallet.chain ∧ wallet.status = .active ∧
    job.providerRef = some wallet.circleWalletId

def Leaves (s' : WalletStore) : WalletLabel → Prop
  | .processAgentWalletCreateJob jobId _ _ _ => ∀ job, s'.circleProviderJobs.find? jobId = some job →
    job.jobType = .agentWalletCreate → job.status = .complete → Backed s' job
  | _ => True

/-- The agent has no row yet on the chain of a creation that is granted, or an active one of the wallet that the provider returns. -/
def Unclaimed (s : WalletStore) : WalletLabel → Prop
  | .processAgentWalletCreateJob jobId _ _ createWallet => ∀ job agentId chain input created,
    Creates s jobId createWallet job agentId chain input created → ∀ wallet ∈ s.agentChainWallets,
      wallet.key = (agentId, job.mode, chain) → wallet.status = .active ∧ wallet.circleWalletId = created.circleWalletId
  | _ => True

theorem Creates.unique {job' : CircleProviderJob} {agentId' : AgentId} {chain' : PaymentChain} {input' : CreateWalletInput}
    {created' : CreatedWallet} (creates : Creates s jobId createWallet job agentId chain input created)
    (creates' : Creates s jobId createWallet job' agentId' chain' input' created') :
    job' = job ∧ agentId' = agentId ∧ chain' = chain ∧ created' = created := by
  obtain rfl := Option.some.inj (creates.found.symm.trans creates'.found)
  obtain rfl := Option.some.inj (creates.agent.symm.trans creates'.agent)
  obtain rfl := Option.some.inj (creates.on.symm.trans creates'.on)
  obtain ⟨walletSet, asked⟩ := creates.asked
  obtain ⟨walletSet', asked'⟩ := creates'.asked
  obtain ⟨-, rfl⟩ := Prod.mk.inj (Except.ok.inj (asked.symm.trans asked'))
  exact ⟨rfl, rfl, rfl, (Except.ok.inj (creates.granted.symm.trans creates'.granted)).symm⟩

theorem backed_iff (agent : job.jobAgentId = some agentId) (on : job.chain = some chain) :
    Backed s (job.created created.circleWalletId) ↔ ∃ wallet ∈ s.agentChainWallets, wallet.key = (agentId, job.mode, chain) ∧
      wallet.status = .active ∧ wallet.circleWalletId = created.circleWalletId := by
  have agent' : (job.created created.circleWalletId).jobAgentId = some agentId := agent
  have on' : (job.created created.circleWalletId).chain = some chain := on
  have mode : (job.created created.circleWalletId).mode = job.mode := rfl
  have ref : (job.created created.circleWalletId).providerRef = some created.circleWalletId := rfl
  unfold Backed
  simp only [agent', on', mode, ref, Option.some.injEq, AgentChainWallet.key, Prod.mk.injEq]
  refine exists_congr fun wallet => and_congr_right fun _ => ?_
  constructor
  · rintro ⟨rfl, within, rfl, active, same⟩
    exact ⟨⟨rfl, within.symm, rfl⟩, active, same.symm⟩
  · rintro ⟨⟨rfl, within, rfl⟩, active, same⟩
    exact ⟨rfl, within.symm, rfl, active, same.symm⟩

theorem leaves_create_iff : Leaves (s.processAgentWalletCreateJob jobId walletId refId createWallet)
      (.processAgentWalletCreateJob jobId walletId refId createWallet) ↔
    Unclaimed s (.processAgentWalletCreateJob jobId walletId refId createWallet) := by
  simp only [Leaves, Unclaimed]
  rcases create_cases s jobId walletId refId createWallet with refuses | ⟨job, agentId, chain, input, created, row, completes⟩
  · refine iff_of_true (fun job found create complete => ?_) fun job agentId chain input created creates => ?_
    · exact absurd complete (refuses.incomplete job found create)
    · exact absurd creates (refuses.refused job agentId chain input created)
  · generalize s.processAgentWalletCreateJob jobId walletId refId createWallet = s' at completes
    have leaves : (∀ job', s'.circleProviderJobs.find? jobId = some job' → job'.jobType = .agentWalletCreate →
        job'.status = .complete → Backed s' job') ↔ Backed s' (job.created created.circleWalletId) := by
      simp only [completes.completed, Option.some.injEq, forall_eq']
      exact ⟨fun backed => backed completes.kind rfl, fun backed _ _ => backed⟩
    have unclaimed : (∀ job agentId chain input created, Creates s jobId createWallet job agentId chain input created →
        ∀ wallet ∈ s.agentChainWallets, wallet.key = (agentId, job.mode, chain) →
          wallet.status = .active ∧ wallet.circleWalletId = created.circleWalletId) ↔
        ∀ wallet ∈ s.agentChainWallets, wallet.key = (agentId, job.mode, chain) →
          wallet.status = .active ∧ wallet.circleWalletId = created.circleWalletId := by
      constructor
      · exact fun all => all job agentId chain input created completes.toCreates
      · intro own job' agentId' chain' input' created' creates'
        obtain ⟨rfl, rfl, rfl, rfl⟩ := completes.toCreates.unique creates'
        exact own
    rw [leaves, unclaimed, backed_iff completes.agent completes.on]
    cases inserted : s.agentChainWallets.insert? row with
    | none =>
      have same : s'.agentChainWallets = s.agentChainWallets := by rw [completes.wallets, inserted, Option.getD_none]
      rw [same]
      constructor
      · rintro ⟨wallet, member, key, held⟩ wallet' member' key'
        obtain rfl := Table.eq_of_key member member' (key.trans key'.symm)
        exact held
      · intro own
        cases present : s.agentChainWallets.find? row.key with
        | none =>
          have some_ := Table.insert?_isSome present
          rw [inserted] at some_
          cases some_
        | some wallet =>
          obtain ⟨member, key⟩ := Table.find?_eq_some.mp present
          have keyed := key.trans completes.key
          exact ⟨wallet, member, keyed, own wallet member keyed⟩
    | some wallets =>
      have same : s'.agentChainWallets = wallets := by rw [completes.wallets, inserted, Option.getD_some]
      have fresh := Table.find?_eq_none.mp (Table.insert?_eq_some inserted).2
      refine iff_of_true ⟨row, ?_, completes.key, completes.active, completes.circleWalletId⟩ fun wallet member key => ?_
      · rw [same]
        exact (Table.mem_insert? inserted).mpr (.inl rfl)
      · exact absurd (key.trans completes.key.symm) (fresh wallet member)

theorem leaves_iff {label : WalletLabel} (taken : walletStep s label = some s') : Leaves s' label ↔ Unclaimed s label := by
  cases label with
  | processAgentWalletCreateJob jobId walletId refId createWallet =>
    obtain rfl := Option.some.inj taken
    exact leaves_create_iff
  | enqueueAgentWalletProvisioning | processAgentWalletSweepJob => exact Iff.rfl

/-- Along any run over tables without wallets, agents keep to one address, and each creation that completes leaves its wallet active in
the table if and only if the agent had no row on the chain, or an active one of that wallet. -/
theorem provisioning_matches_iff {s₀ : WalletStore} {events : List (WalletStore × WalletLabel)}
    (empty : s₀.agentChainWallets.rows = []) (run : Run walletStep s₀ events s) (keeps : Conforms KeepsAddress events) :
    ((∀ e ∈ events, ∀ s', walletStep e.1 e.2 = some s' → Leaves s' e.2) ∧ (∀ e ∈ events, OneAddress e.1) ∧ OneAddress s) ↔
      Conforms Unclaimed events := by
  have start : OneAddress s₀ := by
    intro wallet member
    rw [Table.mem_def, empty] at member
    cases member
  have one : (∀ e ∈ events, OneAddress e.1) ∧ OneAddress s :=
    run.history (fun events s => (∀ e ∈ events, OneAddress e.1) ∧ OneAddress s) keeps ⟨by simp, start⟩
      fun events s label s' _ _ inv derives taken => by
        refine ⟨?_, oneAddress_step inv.2 derives taken⟩
        simp only [List.mem_append, List.mem_singleton]
        rintro e (earlier | rfl)
        · exact inv.1 e earlier
        · exact inv.2
  rw [and_iff_left one]
  refine forall₂_congr fun e member => ?_
  obtain ⟨before, after, s', -, -, taken, -⟩ := run.of_mem member
  rw [taken]
  simp only [Option.some.injEq, forall_eq']
  exact leaves_iff taken

/-! ## A job queued twice -/

def queuedTwice : WalletStore where
  agents := .singleton ⟨"agent_1", "org_1", .active⟩
  circleWalletSets := [⟨"cset_1", "org_1", .test, "set", true⟩]
  circleChainCapabilities := [⟨.test, .base, "BASE-SEPOLIA"⟩]
  circleChainWallets := []
  agentChainWallets := .empty
  circleProviderJobs := ⟨[WalletStore.createJob "org_1" "agent_1" .test "op" "cjob_1" .base,
    WalletStore.createJob "org_1" "agent_1" .test "op" "cjob_2" .base], by decide⟩
  ledgerPostings := []

def create (jobId circleWalletId : String) : WalletLabel :=
  .processAgentWalletCreateJob jobId "acw" "aref" fun _ => .ok ⟨circleWalletId, "0xa"⟩

def createdOnce : WalletStore := queuedTwice.processAgentWalletCreateJob "cjob_1" "acw" "aref" fun _ => .ok ⟨"first", "0xa"⟩

def createdTwice : WalletStore := createdOnce.processAgentWalletCreateJob "cjob_2" "acw" "aref" fun _ => .ok ⟨"second", "0xa"⟩

theorem createdOnce_keeps : Conforms KeepsAddress [(queuedTwice, create "cjob_1" "first")] := by
  refine List.forall_mem_singleton.mpr fun wallet member => ?_
  exact absurd member (Table.not_mem_empty wallet)

/-- The second wallet is nowhere. -/
theorem provisioning_mismatched : ¬∀ (s₀ s : WalletStore) (events : List (WalletStore × WalletLabel)), s₀.agentChainWallets.rows = [] →
    Run walletStep s₀ events s → Conforms KeepsAddress events →
      (∀ e ∈ events, ∀ s', walletStep e.1 e.2 = some s' → Leaves s' e.2) ∧ (∀ e ∈ events, OneAddress e.1) ∧ OneAddress s := by
  intro claimed
  have first : walletStep queuedTwice (create "cjob_1" "first") = some createdOnce := rfl
  have second : walletStep createdOnce (create "cjob_2" "second") = some createdTwice := rfl
  have keeps : Conforms KeepsAddress [(queuedTwice, create "cjob_1" "first"), (createdOnce, create "cjob_2" "second")] := by
    refine List.forall_mem_cons.mpr ⟨createdOnce_keeps _ (List.mem_singleton_self _), List.forall_mem_singleton.mpr ?_⟩
    intro wallet member input created _ granted
    have known : ∀ wallet ∈ createdOnce.agentChainWallets.rows, wallet.address = "0xa" := by decide +kernel
    rw [known wallet member, ← Except.ok.inj granted]
  have leaves := (claimed queuedTwice createdTwice _ rfl ((Run.next .start first).next second) keeps).1
    (createdOnce, create "cjob_2" "second") (by simp) createdTwice second
  have completed : ∃ job, createdTwice.circleProviderJobs.find? "cjob_2" = some job ∧ job.jobType = .agentWalletCreate ∧
      job.status = .complete ∧ job.providerRef = some "second" := ⟨_, rfl, rfl, rfl, rfl⟩
  obtain ⟨job, found, create, complete, ref⟩ := completed
  obtain ⟨wallet, member, -, -, -, -, same⟩ := leaves job found create complete
  have known : ∀ wallet ∈ createdTwice.agentChainWallets.rows, wallet.circleWalletId = "first" := by decide +kernel
  rw [ref, known wallet member] at same
  revert same
  decide

theorem provisioning_matches_once : (∀ e ∈ [(queuedTwice, create "cjob_1" "first")], ∀ s', walletStep e.1 e.2 = some s' → Leaves s' e.2) ∧
    (∀ e ∈ [(queuedTwice, create "cjob_1" "first")], OneAddress e.1) ∧ OneAddress createdOnce := by
  have first : walletStep queuedTwice (create "cjob_1" "first") = some createdOnce := rfl
  refine (provisioning_matches_iff rfl (Run.next .start first) createdOnce_keeps).mpr ?_
  refine List.forall_mem_singleton.mpr fun job agentId chain input created _ wallet member => ?_
  exact absurd member (Table.not_mem_empty wallet)

end AgentOps.Wallets
