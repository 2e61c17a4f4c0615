import AgentOps.Lib.Table
import AgentOps.Lib.Transition

namespace AgentOps.Treasury
open Lib

/-! # The fleet of an organization: allocations, top-ups and revocations

One organization in one mode and on one chain. Amounts are USDC micros. -/

abbrev AgentId := Nat

abbrev OrgId := Nat

abbrev JobId := Nat

inductive AgentStatus where
  | active
  | paused
  | deactivated
  | retired
  | suspended
  deriving DecidableEq

structure Agent where
  id : AgentId
  orgId : OrgId
  status : AgentStatus
  deriving DecidableEq

inductive AllocationStatus where
  | active
  | revoked
  deriving DecidableEq

structure AgentAllocationRow where
  id : Nat
  orgId : OrgId
  agentId : AgentId
  allocatedUsdc : Nat
  gasReserveUsdc : Nat
  lowWaterMarkUsdc : Nat
  ceilingUsdc : Nat
  status : AllocationStatus
  createdBy : String
  deriving DecidableEq

inductive WalletStatus where
  | provisioning
  | active
  | swept
  | disabled
  deriving DecidableEq

structure AgentChainWallet where
  agentId : AgentId
  orgId : OrgId
  status : WalletStatus
  deriving DecidableEq

inductive JobType where
  | agentWalletTopup
  | agentWalletSweep
  deriving DecidableEq

inductive JobStatus where
  | queued
  | submitted
  | complete
  | failed
  | blocked
  deriving DecidableEq

structure CircleProviderJob where
  id : JobId
  orgId : OrgId
  jobType : JobType
  status : JobStatus
  amountUsdc : Option Nat
  agentId : Option AgentId
  providerRef : Option String
  errorCode : Option String
  deriving DecidableEq

inductive EntryType where
  | topup
  | sweep
  deriving DecidableEq

structure LedgerPosting where
  agentId : AgentId
  entryType : EntryType
  amountUsdc : Int
  jobId : JobId
  deriving DecidableEq

/-! ## Calls -/

structure SetAllocationInput where
  agentId : AgentId
  allocatedUsdc : Nat
  gasReserveUsdc : Option Nat
  lowWaterMarkUsdc : Option Nat
  ceilingUsdc : Option Nat
  createdBy : String
  deriving DecidableEq

namespace SetAllocationInput

def gasReserve (input : SetAllocationInput) : Nat := input.gasReserveUsdc.getD 0

def lowWaterMark (input : SetAllocationInput) : Nat := input.lowWaterMarkUsdc.getD 0

def ceiling (input : SetAllocationInput) : Nat := input.ceilingUsdc.getD input.allocatedUsdc

end SetAllocationInput

inductive ExecutePhase where
  | started
  | ready
  | transferred (amountMicros : Nat) (providerRef : Option String)
  | marked (amountMicros : Nat) (providerRef : Option String)
  | completed (amountMicros : Nat)
  | failing (errorCode : String)
  deriving DecidableEq

inductive CallPhase where
  /-- `setAllocation` has read the deposits and waits for the lock. -/
  | priced (input : SetAllocationInput) (deposits : Nat)
  | locked (input : SetAllocationInput) (deposits : Nat)
  | summed (input : SetAllocationInput) (deposits committed : Nat)
  | written (input : SetAllocationInput) (row : AgentAllocationRow)
  | revoking (agentId : AgentId)
  | revokingLocked (agentId : AgentId)
  /-- `evaluateTopUps` with the allocations it still has to look at -/
  | scanning (remaining : List AgentAllocationRow)
  | measured (allocation : AgentAllocationRow) (rawBalance : Nat) (remaining : List AgentAllocationRow)
  | executing (job : CircleProviderJob) (phase : ExecutePhase)
  deriving DecidableEq

def CallPhase.holdsLock : CallPhase → Bool
  | .locked .. | .summed .. | .written .. | .revokingLocked .. | .executing .. => true
  | .priced .. | .revoking .. | .scanning .. | .measured .. => false

structure FleetCall where
  id : Nat
  phase : CallPhase
  deriving DecidableEq

/-- What the fleet's tables hold, the balance of each agent's wallet on chain, and the treasury's Gateway deposits. The
jobs whose transfer succeeded are recorded for the statements only. -/
structure Fleet where
  orgId : OrgId
  agents : Table Agent.id
  agentAllocations : Table AgentAllocationRow.agentId
  agentChainWallets : Table AgentChainWallet.agentId
  circleProviderJobs : Table CircleProviderJob.id
  ledgerPostings : List LedgerPosting
  treasuryWallet : Bool
  deposits : Nat
  balances : AgentId → Nat
  calls : Table FleetCall.id
  moved : List JobId

/-- What `transferWallet` comes to. A transfer whose call throws may have moved the money all the same. -/
inductive TransferAnswer where
  | succeeded (transactionId : String) (gas : Nat)
  | unreported (error : String) (gas : Nat)
  | refused (error : String)
  deriving DecidableEq

inductive FleetLabel where
  | setAllocation (callId : Nat) (input : SetAllocationInput)
  | lock (callId : Nat)
  | sumOthers (callId : Nat)
  | write (callId rowId : Nat)
  | commit (callId : Nat)
  | revokeAgent (callId : Nat) (agentId : AgentId)
  | commitRevocation (callId : Nat) (jobId : JobId)
  | evaluateTopUps (callId : Nat)
  | measure (callId : Nat) (allocation : AgentAllocationRow)
  | enqueueTopUp (callId : Nat) (jobId : JobId)
  | execute (callId : Nat) (jobId : JobId)
  | findWallets (callId : Nat)
  | transfer (callId : Nat) (answer : TransferAnswer)
  | markSwept (callId : Nat)
  | complete (callId : Nat)
  | post (callId : Nat)
  | throw (callId : Nat) (errorCode : String)
  | recordFailure (callId : Nat)
  /-- The call throws, its transaction rolls back, or its process stops: it gives back the lock. -/
  | abandon (callId : Nat)

namespace Fleet

def updateCall (s : Fleet) (call : FleetCall) : Fleet := { s with calls := s.calls.put call }

def endCall (s : Fleet) (callId : Nat) : Fleet := { s with calls := s.calls.remove callId }

/-- `pg_try_advisory_lock` on the organization's key -/
def lockFree (s : Fleet) : Bool := s.calls.rows.all fun call => !call.phase.holdsLock

/-! ## `setAllocation` -/

/-- The others' share: `SUM(allocated_usdc)` over the organization's active rows of other agents -/
def allocatedToOthers (s : Fleet) (agentId : AgentId) : Nat :=
  s.agentAllocations.sum fun row =>
    if row.orgId = s.orgId ∧ row.status = .active ∧ row.agentId ≠ agentId then row.allocatedUsdc else 0

/-- The table's checks, and the range of `numeric(20, 6)` -/
def allocationChecks (row : AgentAllocationRow) : Bool :=
  decide (row.allocatedUsdc ≤ row.ceilingUsdc) && decide (row.lowWaterMarkUsdc ≤ row.allocatedUsdc) &&
    decide (row.ceilingUsdc < 10 ^ 20) && decide (row.gasReserveUsdc < 10 ^ 20)

/-- The row that `INSERT … ON CONFLICT DO UPDATE` leaves. A conflict keeps the stored row's other columns. -/
def upserted (s : Fleet) (input : SetAllocationInput) (rowId : Nat) : AgentAllocationRow :=
  match s.agentAllocations.find? input.agentId with
  | none => ⟨rowId, s.orgId, input.agentId, input.allocatedUsdc, input.gasReserve, input.lowWaterMark, input.ceiling,
      .active, input.createdBy⟩
  | some stored => { stored with
      allocatedUsdc := input.allocatedUsdc
      gasReserveUsdc := input.gasReserve
      lowWaterMarkUsdc := input.lowWaterMark
      ceilingUsdc := input.ceiling }

def setAllocation (s : Fleet) (callId : Nat) (input : SetAllocationInput) : Option Fleet :=
  if s.treasuryWallet then do
    let calls ← s.calls.insert? ⟨callId, .priced input s.deposits⟩
    some { s with calls := calls }
  else none

/-- A waiting `setAllocation` or `revokeAgent` gets the lock. -/
def lock (s : Fleet) (callId : Nat) : Option Fleet := do
  let call ← s.calls.find? callId
  if s.lockFree then
    match call.phase with
    | .priced input deposits => some (s.updateCall ⟨callId, .locked input deposits⟩)
    | .revoking agentId => some (s.updateCall ⟨callId, .revokingLocked agentId⟩)
    | _ => none
  else none

def sumOthers (s : Fleet) (callId : Nat) : Option Fleet := do
  let call ← s.calls.find? callId
  match call.phase with
  | .locked input deposits =>
    some (s.updateCall ⟨callId, .summed input deposits (s.allocatedToOthers input.agentId)⟩)
  | _ => none

/-- The solvency check, and the upsert in the same transaction. An unknown agent fails the foreign key. -/
def write (s : Fleet) (callId rowId : Nat) : Option Fleet := do
  let call ← s.calls.find? callId
  match call.phase with
  | .summed input deposits committed =>
    if committed + input.allocatedUsdc > deposits then some (s.endCall callId)
    else if (s.agents.find? input.agentId).isSome && allocationChecks (s.upserted input rowId) then
      some (s.updateCall ⟨callId, .written input (s.upserted input rowId)⟩)
    else some (s.endCall callId)
  | _ => none

def commit (s : Fleet) (callId : Nat) : Option Fleet := do
  let call ← s.calls.find? callId
  match call.phase with
  | .written _ row => some { s.endCall callId with agentAllocations := s.agentAllocations.upsert row }
  | _ => none

/-! ## `revokeAgent` -/

def revokeAgent (s : Fleet) (callId : Nat) (agentId : AgentId) : Option Fleet := do
  let calls ← s.calls.insert? ⟨callId, .revoking agentId⟩
  some { s with calls := calls }

def suspend (agent : Agent) : Agent := { agent with status := .suspended }

def revoke (row : AgentAllocationRow) : AgentAllocationRow :=
  if row.status = .active then { row with status := .revoked } else row

def sweepJob (s : Fleet) (jobId : JobId) (agentId : AgentId) : CircleProviderJob :=
  ⟨jobId, s.orgId, .agentWalletSweep, .queued, none, some agentId, none, none⟩

def activeWallet (s : Fleet) (agentId : AgentId) : Bool :=
  (s.agentChainWallets.find? agentId).any (·.status = .active)

def queueSweep (s : Fleet) (jobId : JobId) (agentId : AgentId) : Option (Table CircleProviderJob.id) :=
  if s.activeWallet agentId then s.circleProviderJobs.insert? (s.sweepJob jobId agentId) else some s.circleProviderJobs

def commitRevocation (s : Fleet) (callId : Nat) (jobId : JobId) : Option Fleet := do
  let call ← s.calls.find? callId
  match call.phase with
  | .revokingLocked agentId =>
    let agent ← s.agents.find? agentId
    if agent.orgId = s.orgId then
      let jobs ← s.queueSweep jobId agentId
      some { s.endCall callId with
        agents := s.agents.modify agentId suspend
        agentAllocations := s.agentAllocations.modify agentId revoke
        circleProviderJobs := jobs }
    else none
  | _ => none

/-! ## `evaluateTopUps` -/

def topUpCandidates (s : Fleet) : List AgentAllocationRow :=
  s.agentAllocations.rows.filter fun row =>
    row.orgId = s.orgId && row.status = .active && s.activeWallet row.agentId

def evaluateTopUps (s : Fleet) (callId : Nat) : Option Fleet := do
  let calls ← s.calls.insert? ⟨callId, .scanning s.topUpCandidates⟩
  some { s with calls := calls }

def wanting (allocation : AgentAllocationRow) (rawBalance : Nat) : Bool :=
  decide (rawBalance - allocation.gasReserveUsdc < allocation.lowWaterMarkUsdc) && decide (rawBalance < allocation.ceilingUsdc)

def measure (s : Fleet) (callId : Nat) (allocation : AgentAllocationRow) : Option Fleet := do
  let call ← s.calls.find? callId
  match call.phase with
  | .scanning remaining =>
    if allocation ∈ remaining then
      let rest := remaining.erase allocation
      let rawBalance := s.balances allocation.agentId
      if wanting allocation rawBalance then some (s.updateCall ⟨callId, .measured allocation rawBalance rest⟩)
      else some (s.updateCall ⟨callId, .scanning rest⟩)
    else none
  | _ => none

def pendingTopUp (s : Fleet) (agentId : AgentId) : Bool :=
  s.circleProviderJobs.rows.any fun job =>
    job.orgId = s.orgId && job.jobType = .agentWalletTopup && (job.status = .queued || job.status = .submitted) &&
      job.agentId = some agentId

def otherAgentsOnChainMicros (s : Fleet) (agentId : AgentId) : Nat :=
  s.agentAllocations.sum fun row =>
    if row.orgId = s.orgId ∧ row.status = .active ∧ s.activeWallet row.agentId ∧ row.agentId ≠ agentId then
      s.balances row.agentId else 0

def underCeiling (allocation : AgentAllocationRow) (rawBalance : Nat) : Nat :=
  min (allocation.ceilingUsdc - rawBalance) (allocation.allocatedUsdc - rawBalance)

def solvencyHeadroom (s : Fleet) (agentId : AgentId) : Nat := s.deposits - s.otherAgentsOnChainMicros agentId

def topUpMicros (s : Fleet) (allocation : AgentAllocationRow) (rawBalance : Nat) : Nat :=
  min (underCeiling allocation rawBalance) (s.solvencyHeadroom allocation.agentId)

def topUpJob (s : Fleet) (jobId : JobId) (allocation : AgentAllocationRow) (rawBalance : Nat) : CircleProviderJob :=
  ⟨jobId, s.orgId, .agentWalletTopup, .queued, some (s.topUpMicros allocation rawBalance), some allocation.agentId, none, none⟩

/-- What `evaluateSingleTopUp` does under the lock, which excludes every other writer of what it reads -/
def enqueueTopUp (s : Fleet) (callId : Nat) (jobId : JobId) : Option Fleet := do
  let call ← s.calls.find? callId
  match call.phase with
  | .measured allocation rawBalance remaining =>
    if s.lockFree then
      let pass := s.updateCall ⟨callId, .scanning remaining⟩
      if s.pendingTopUp allocation.agentId then some pass
      else if s.treasuryWallet then
        if s.topUpMicros allocation rawBalance = 0 then some pass
        else do
          let jobs ← s.circleProviderJobs.insert? (s.topUpJob jobId allocation rawBalance)
          some { pass with circleProviderJobs := jobs }
      else none
    else none
  | _ => none

/-! ## The jobs -/

/-- The worker takes the lock and reads the row. It looks at the row's kind, but not at its status. -/
def execute (s : Fleet) (callId : Nat) (jobId : JobId) : Option Fleet := do
  let job ← s.circleProviderJobs.find? jobId
  if s.lockFree && job.orgId = s.orgId then
    let calls ← s.calls.insert? ⟨callId, .executing job .started⟩
    some { s with calls := calls }
  else none

def walletsFor (s : Fleet) (job : CircleProviderJob) : ExecutePhase :=
  match job.agentId with
  | none => .failing "agent_wallet_job_metadata_invalid"
  | some agentId =>
    match job.jobType with
    | .agentWalletTopup =>
      if job.amountUsdc = none then .failing "agent_wallet_job_metadata_invalid"
      else if !s.treasuryWallet then .failing "circle_wallet_missing"
      else if !s.activeWallet agentId then .failing "agent_wallet_not_found"
      else .ready
    | .agentWalletSweep =>
      if !s.activeWallet agentId then .failing "agent_wallet_not_found"
      else if !s.treasuryWallet then .failing "circle_wallet_missing"
      else .ready

def findWallets (s : Fleet) (callId : Nat) : Option Fleet := do
  let call ← s.calls.find? callId
  match call.phase with
  | .executing job .started => some (s.updateCall ⟨callId, .executing job (s.walletsFor job)⟩)
  | _ => none

def gasNeededMicros : Nat := 50000

def sweepAmountMicros (balanceMicros gasNeeded : Nat) : Nat := balanceMicros - gasNeeded

def transferAmount (s : Fleet) (job : CircleProviderJob) (agentId : AgentId) : Nat :=
  match job.jobType with
  | .agentWalletTopup => job.amountUsdc.getD 0
  | .agentWalletSweep => sweepAmountMicros (s.balances agentId) gasNeededMicros

/-- The balance after a transfer. A sweep pays its gas from the wallet it empties. -/
def balanceAfter (balance amount gas : Nat) : JobType → Nat
  | .agentWalletTopup => balance + amount
  | .agentWalletSweep => balance - amount - gas

def transferred (s : Fleet) (job : CircleProviderJob) (agentId : AgentId) (gas : Nat) : Fleet :=
  { s with
    balances := Function.update s.balances agentId
      (balanceAfter (s.balances agentId) (s.transferAmount job agentId) gas job.jobType)
    moved := job.id :: s.moved }

def transfer (s : Fleet) (callId : Nat) (answer : TransferAnswer) : Option Fleet := do
  let call ← s.calls.find? callId
  match call.phase with
  | .executing job .ready =>
    let agentId ← job.agentId
    let amount := s.transferAmount job agentId
    if job.jobType = .agentWalletSweep ∧ amount = 0 then
      some (s.updateCall ⟨callId, .executing job (.transferred 0 none)⟩)
    else
      match answer with
      | .succeeded transactionId gas =>
        some ((s.transferred job agentId gas).updateCall ⟨callId, .executing job (.transferred amount (some transactionId))⟩)
      | .unreported error gas =>
        some ((s.transferred job agentId gas).updateCall ⟨callId, .executing job (.failing error)⟩)
      | .refused error => some (s.updateCall ⟨callId, .executing job (.failing error)⟩)
  | _ => none

def sweep (wallet : AgentChainWallet) : AgentChainWallet := { wallet with status := .swept }

def markSwept (s : Fleet) (callId : Nat) : Option Fleet := do
  let call ← s.calls.find? callId
  match call.phase with
  | .executing job (.transferred amount providerRef) =>
    if job.jobType = .agentWalletSweep then do
      let agentId ← job.agentId
      some { s.updateCall ⟨callId, .executing job (.marked amount providerRef)⟩ with
        agentChainWallets := s.agentChainWallets.modify agentId sweep }
    else none
  | _ => none

def completeJob (amount : Nat) (providerRef : Option String) (job : CircleProviderJob) : CircleProviderJob :=
  { job with
    status := .complete
    providerRef := providerRef
    amountUsdc := if job.jobType = .agentWalletSweep then some amount else job.amountUsdc }

def complete (s : Fleet) (callId : Nat) : Option Fleet := do
  let call ← s.calls.find? callId
  match call.phase with
  | .executing job (.transferred amount providerRef) =>
    if job.jobType = .agentWalletTopup then
      some { s.updateCall ⟨callId, .executing job (.completed amount)⟩ with
        circleProviderJobs := s.circleProviderJobs.modify job.id (completeJob amount providerRef) }
    else none
  | .executing job (.marked amount providerRef) =>
    some { s.updateCall ⟨callId, .executing job (.completed amount)⟩ with
      circleProviderJobs := s.circleProviderJobs.modify job.id (completeJob amount providerRef) }
  | _ => none

def posting (job : CircleProviderJob) (agentId : AgentId) (amount : Nat) : LedgerPosting :=
  match job.jobType with
  | .agentWalletTopup => ⟨agentId, .topup, amount, job.id⟩
  | .agentWalletSweep => ⟨agentId, .sweep, -amount, job.id⟩

def post (s : Fleet) (callId : Nat) : Option Fleet := do
  let call ← s.calls.find? callId
  match call.phase with
  | .executing job (.completed amount) =>
    let agentId ← job.agentId
    some { s.endCall callId with ledgerPostings := s.ledgerPostings ++ [posting job agentId amount] }
  | _ => none

def throw (s : Fleet) (callId : Nat) (errorCode : String) : Option Fleet := do
  let call ← s.calls.find? callId
  match call.phase with
  | .executing _ (.failing _) => none
  | .executing job _ => some (s.updateCall ⟨callId, .executing job (.failing errorCode)⟩)
  | _ => none

def failJob (errorCode : String) (job : CircleProviderJob) : CircleProviderJob :=
  { job with status := .failed, errorCode := some errorCode }

def recordFailure (s : Fleet) (callId : Nat) : Option Fleet := do
  let call ← s.calls.find? callId
  match call.phase with
  | .executing job (.failing errorCode) =>
    some { s.endCall callId with circleProviderJobs := s.circleProviderJobs.modify job.id (failJob errorCode) }
  | _ => none

def step (s : Fleet) : FleetLabel → Option Fleet
  | .setAllocation callId input => s.setAllocation callId input
  | .lock callId => s.lock callId
  | .sumOthers callId => s.sumOthers callId
  | .write callId rowId => s.write callId rowId
  | .commit callId => s.commit callId
  | .revokeAgent callId agentId => s.revokeAgent callId agentId
  | .commitRevocation callId jobId => s.commitRevocation callId jobId
  | .evaluateTopUps callId => s.evaluateTopUps callId
  | .measure callId allocation => s.measure callId allocation
  | .enqueueTopUp callId jobId => s.enqueueTopUp callId jobId
  | .execute callId jobId => s.execute callId jobId
  | .findWallets callId => s.findWallets callId
  | .transfer callId answer => s.transfer callId answer
  | .markSwept callId => s.markSwept callId
  | .complete callId => s.complete callId
  | .post callId => s.post callId
  | .throw callId errorCode => s.throw callId errorCode
  | .recordFailure callId => s.recordFailure callId
  | .abandon callId => some (s.endCall callId)

/-! ## What each step does -/

section Inversion

variable {s s' : Fleet}

theorem setAllocation_some {callId : Nat} {input : SetAllocationInput} (taken : s.setAllocation callId input = some s') :
    ∃ calls, s.calls.insert? ⟨callId, .priced input s.deposits⟩ = some calls ∧ s' = { s with calls := calls } := by
  unfold setAllocation at taken
  split at taken
  · obtain ⟨calls, inserted, same⟩ := Option.bind_eq_some_iff.mp taken
    exact ⟨calls, inserted, (Option.some.inj same).symm⟩
  · cases taken

theorem lock_some {callId : Nat} (taken : s.lock callId = some s') :
    ∃ call, s.calls.find? callId = some call ∧ s.lockFree = true ∧
      ((∃ input deposits, call.phase = .priced input deposits ∧ s' = s.updateCall ⟨callId, .locked input deposits⟩) ∨
        ∃ agentId, call.phase = .revoking agentId ∧ s' = s.updateCall ⟨callId, .revokingLocked agentId⟩) := by
  simp only [lock, Option.bind_eq_bind, Option.bind_eq_some_iff] at taken
  obtain ⟨call, found, taken⟩ := taken
  split at taken
  · rename_i free
    refine ⟨call, found, free, ?_⟩
    split at taken
    · rename_i input deposits phase
      exact .inl ⟨input, deposits, phase, (Option.some.inj taken).symm⟩
    · rename_i agentId phase
      exact .inr ⟨agentId, phase, (Option.some.inj taken).symm⟩
    · cases taken
  · cases taken

theorem sumOthers_some {callId : Nat} (taken : s.sumOthers callId = some s') :
    ∃ call input deposits, s.calls.find? callId = some call ∧ call.phase = .locked input deposits ∧
      s' = s.updateCall ⟨callId, .summed input deposits (s.allocatedToOthers input.agentId)⟩ := by
  simp only [sumOthers, Option.bind_eq_bind, Option.bind_eq_some_iff] at taken
  obtain ⟨call, found, taken⟩ := taken
  split at taken
  · rename_i input deposits phase
    exact ⟨call, input, deposits, found, phase, (Option.some.inj taken).symm⟩
  · cases taken

theorem write_some {callId rowId : Nat} (taken : s.write callId rowId = some s') :
    ∃ call input deposits committed, s.calls.find? callId = some call ∧ call.phase = .summed input deposits committed ∧
      (s' = s.endCall callId ∨ committed + input.allocatedUsdc ≤ deposits ∧
        s' = s.updateCall ⟨callId, .written input (s.upserted input rowId)⟩) := by
  simp only [write, Option.bind_eq_bind, Option.bind_eq_some_iff] at taken
  obtain ⟨call, found, taken⟩ := taken
  split at taken
  · rename_i input deposits committed phase
    refine ⟨call, input, deposits, committed, found, phase, ?_⟩
    split at taken
    · exact .inl (Option.some.inj taken).symm
    · rename_i solvent
      split at taken
      · exact .inr ⟨Nat.le_of_not_gt solvent, (Option.some.inj taken).symm⟩
      · exact .inl (Option.some.inj taken).symm
  · cases taken

theorem commit_some {callId : Nat} (taken : s.commit callId = some s') :
    ∃ call input row, s.calls.find? callId = some call ∧ call.phase = .written input row ∧
      s' = { s.endCall callId with agentAllocations := s.agentAllocations.upsert row } := by
  simp only [commit, Option.bind_eq_bind, Option.bind_eq_some_iff] at taken
  obtain ⟨call, found, taken⟩ := taken
  split at taken
  · rename_i input row phase
    exact ⟨call, input, row, found, phase, (Option.some.inj taken).symm⟩
  · cases taken

theorem revokeAgent_some {callId : Nat} {agentId : AgentId} (taken : s.revokeAgent callId agentId = some s') :
    ∃ calls, s.calls.insert? ⟨callId, .revoking agentId⟩ = some calls ∧ s' = { s with calls := calls } := by
  obtain ⟨calls, inserted, same⟩ := Option.bind_eq_some_iff.mp taken
  exact ⟨calls, inserted, (Option.some.inj same).symm⟩

theorem commitRevocation_some {callId : Nat} {jobId : JobId} (taken : s.commitRevocation callId jobId = some s') :
    ∃ call agentId jobs, s.calls.find? callId = some call ∧ call.phase = .revokingLocked agentId ∧
      (jobs = s.circleProviderJobs ∨ s.circleProviderJobs.insert? (s.sweepJob jobId agentId) = some jobs) ∧
      s' = { s.endCall callId with
        agents := s.agents.modify agentId suspend
        agentAllocations := s.agentAllocations.modify agentId revoke
        circleProviderJobs := jobs } := by
  simp only [commitRevocation, Option.bind_eq_bind, Option.bind_eq_some_iff] at taken
  obtain ⟨call, found, taken⟩ := taken
  split at taken
  · rename_i agentId phase
    obtain ⟨agent, -, taken⟩ := Option.bind_eq_some_iff.mp taken
    split at taken
    · obtain ⟨jobs, queued, same⟩ := Option.bind_eq_some_iff.mp taken
      refine ⟨call, agentId, jobs, found, phase, ?_, (Option.some.inj same).symm⟩
      unfold queueSweep at queued
      split at queued
      · exact .inr queued
      · exact .inl (Option.some.inj queued).symm
    · cases taken
  · cases taken

theorem evaluateTopUps_some {callId : Nat} (taken : s.evaluateTopUps callId = some s') :
    ∃ calls, s.calls.insert? ⟨callId, .scanning s.topUpCandidates⟩ = some calls ∧ s' = { s with calls := calls } := by
  obtain ⟨calls, inserted, same⟩ := Option.bind_eq_some_iff.mp taken
  exact ⟨calls, inserted, (Option.some.inj same).symm⟩

theorem measure_some {callId : Nat} {allocation : AgentAllocationRow} (taken : s.measure callId allocation = some s') :
    ∃ call remaining, s.calls.find? callId = some call ∧ call.phase = .scanning remaining ∧ allocation ∈ remaining ∧
      (s' = s.updateCall ⟨callId, .scanning (remaining.erase allocation)⟩ ∨
        s' = s.updateCall ⟨callId, .measured allocation (s.balances allocation.agentId) (remaining.erase allocation)⟩) := by
  simp only [measure, Option.bind_eq_bind, Option.bind_eq_some_iff] at taken
  obtain ⟨call, found, taken⟩ := taken
  split at taken
  · rename_i remaining phase
    split at taken
    · rename_i member
      refine ⟨call, remaining, found, phase, member, ?_⟩
      split at taken
      · exact .inr (Option.some.inj taken).symm
      · exact .inl (Option.some.inj taken).symm
    · cases taken
  · cases taken

theorem enqueueTopUp_some {callId : Nat} {jobId : JobId} (taken : s.enqueueTopUp callId jobId = some s') :
    ∃ call allocation rawBalance remaining, s.calls.find? callId = some call ∧
      call.phase = .measured allocation rawBalance remaining ∧ s.lockFree = true ∧
      (s' = s.updateCall ⟨callId, .scanning remaining⟩ ∨ ∃ jobs, s.pendingTopUp allocation.agentId = false ∧
        s.topUpMicros allocation rawBalance ≠ 0 ∧
        s.circleProviderJobs.insert? (s.topUpJob jobId allocation rawBalance) = some jobs ∧
        s' = { s.updateCall ⟨callId, .scanning remaining⟩ with circleProviderJobs := jobs }) := by
  simp only [enqueueTopUp, Option.bind_eq_bind, Option.bind_eq_some_iff] at taken
  obtain ⟨call, found, taken⟩ := taken
  split at taken
  · rename_i allocation rawBalance remaining phase
    split at taken
    · rename_i free
      refine ⟨call, allocation, rawBalance, remaining, found, phase, free, ?_⟩
      split at taken
      · exact .inl (Option.some.inj taken).symm
      · rename_i pending
        split at taken
        · split at taken
          · exact .inl (Option.some.inj taken).symm
          · rename_i positive
            obtain ⟨jobs, inserted, same⟩ := Option.bind_eq_some_iff.mp taken
            exact .inr ⟨jobs, by simpa using pending, positive, inserted, (Option.some.inj same).symm⟩
        · cases taken
    · cases taken
  · cases taken

theorem execute_some {callId : Nat} {jobId : JobId} (taken : s.execute callId jobId = some s') :
    ∃ job calls, s.circleProviderJobs.find? jobId = some job ∧ s.lockFree = true ∧ job.orgId = s.orgId ∧
      s.calls.insert? ⟨callId, .executing job .started⟩ = some calls ∧ s' = { s with calls := calls } := by
  simp only [execute, Option.bind_eq_bind, Option.bind_eq_some_iff] at taken
  obtain ⟨job, found, taken⟩ := taken
  split at taken
  · rename_i guard
    obtain ⟨free, org⟩ : s.lockFree = true ∧ job.orgId = s.orgId := by simpa using guard
    obtain ⟨calls, inserted, same⟩ := Option.bind_eq_some_iff.mp taken
    exact ⟨job, calls, found, free, org, inserted, (Option.some.inj same).symm⟩
  · cases taken

theorem findWallets_some {callId : Nat} (taken : s.findWallets callId = some s') :
    ∃ call job, s.calls.find? callId = some call ∧ call.phase = .executing job .started ∧
      s' = s.updateCall ⟨callId, .executing job (s.walletsFor job)⟩ := by
  simp only [findWallets, Option.bind_eq_bind, Option.bind_eq_some_iff] at taken
  obtain ⟨call, found, taken⟩ := taken
  split at taken
  · rename_i job phase
    exact ⟨call, job, found, phase, (Option.some.inj taken).symm⟩
  · cases taken

theorem transfer_some {callId : Nat} {answer : TransferAnswer} (taken : s.transfer callId answer = some s') :
    ∃ call job agentId, s.calls.find? callId = some call ∧ call.phase = .executing job .ready ∧ job.agentId = some agentId ∧
      ((∃ transactionId gas, answer = .succeeded transactionId gas ∧ s' = (s.transferred job agentId gas).updateCall
          ⟨callId, .executing job (.transferred (s.transferAmount job agentId) (some transactionId))⟩) ∨
        (∃ error gas, answer = .unreported error gas ∧
          s' = (s.transferred job agentId gas).updateCall ⟨callId, .executing job (.failing error)⟩) ∨
        (∃ error, s' = s.updateCall ⟨callId, .executing job (.failing error)⟩) ∨
        (job.jobType = .agentWalletSweep ∧ s' = s.updateCall ⟨callId, .executing job (.transferred 0 none)⟩)) := by
  simp only [transfer, Option.bind_eq_bind, Option.bind_eq_some_iff] at taken
  obtain ⟨call, found, taken⟩ := taken
  split at taken
  · rename_i job phase
    obtain ⟨agentId, named, taken⟩ := Option.bind_eq_some_iff.mp taken
    refine ⟨call, job, agentId, found, phase, named, ?_⟩
    split at taken
    · rename_i nothing
      exact .inr (.inr (.inr ⟨nothing.1, (Option.some.inj taken).symm⟩))
    · cases answer with
      | succeeded transactionId gas => exact .inl ⟨transactionId, gas, rfl, (Option.some.inj taken).symm⟩
      | unreported error gas => exact .inr (.inl ⟨error, gas, rfl, (Option.some.inj taken).symm⟩)
      | refused error => exact .inr (.inr (.inl ⟨error, (Option.some.inj taken).symm⟩))
  · cases taken

theorem markSwept_some {callId : Nat} (taken : s.markSwept callId = some s') :
    ∃ call job amount providerRef agentId, s.calls.find? callId = some call ∧
      call.phase = .executing job (.transferred amount providerRef) ∧ job.jobType = .agentWalletSweep ∧
      s' = { s.updateCall ⟨callId, .executing job (.marked amount providerRef)⟩ with
        agentChainWallets := s.agentChainWallets.modify agentId sweep } := by
  simp only [markSwept, Option.bind_eq_bind, Option.bind_eq_some_iff] at taken
  obtain ⟨call, found, taken⟩ := taken
  split at taken
  · rename_i job amount providerRef phase
    split at taken
    · rename_i kind
      obtain ⟨agentId, -, same⟩ := Option.bind_eq_some_iff.mp taken
      exact ⟨call, job, amount, providerRef, agentId, found, phase, kind, (Option.some.inj same).symm⟩
    · cases taken
  · cases taken

theorem complete_some {callId : Nat} (taken : s.complete callId = some s') :
    ∃ call job amount providerRef, s.calls.find? callId = some call ∧
      (call.phase = .executing job (.transferred amount providerRef) ∧ job.jobType = .agentWalletTopup ∨
        call.phase = .executing job (.marked amount providerRef)) ∧
      s' = { s.updateCall ⟨callId, .executing job (.completed amount)⟩ with
        circleProviderJobs := s.circleProviderJobs.modify job.id (completeJob amount providerRef) } := by
  simp only [complete, Option.bind_eq_bind, Option.bind_eq_some_iff] at taken
  obtain ⟨call, found, taken⟩ := taken
  split at taken
  · rename_i job amount providerRef phase
    split at taken
    · rename_i kind
      exact ⟨call, job, amount, providerRef, found, .inl ⟨phase, kind⟩, (Option.some.inj taken).symm⟩
    · cases taken
  · rename_i job amount providerRef phase
    exact ⟨call, job, amount, providerRef, found, .inr phase, (Option.some.inj taken).symm⟩
  · cases taken

theorem post_some {callId : Nat} (taken : s.post callId = some s') :
    ∃ call job amount agentId, s.calls.find? callId = some call ∧ call.phase = .executing job (.completed amount) ∧
      s' = { s.endCall callId with ledgerPostings := s.ledgerPostings ++ [posting job agentId amount] } := by
  simp only [post, Option.bind_eq_bind, Option.bind_eq_some_iff] at taken
  obtain ⟨call, found, taken⟩ := taken
  split at taken
  · rename_i job amount phase
    obtain ⟨agentId, -, same⟩ := Option.bind_eq_some_iff.mp taken
    exact ⟨call, job, amount, agentId, found, phase, (Option.some.inj same).symm⟩
  · cases taken

theorem throw_some {callId : Nat} {errorCode : String} (taken : s.throw callId errorCode = some s') :
    ∃ call job phase, s.calls.find? callId = some call ∧ call.phase = .executing job phase ∧
      (∀ error, phase ≠ .failing error) ∧ s' = s.updateCall ⟨callId, .executing job (.failing errorCode)⟩ := by
  simp only [throw, Option.bind_eq_bind, Option.bind_eq_some_iff] at taken
  obtain ⟨call, found, taken⟩ := taken
  split at taken
  · cases taken
  · rename_i job phase running same
    exact ⟨call, job, phase, found, same, fun error failing => running error failing, (Option.some.inj taken).symm⟩
  · cases taken

theorem recordFailure_some {callId : Nat} (taken : s.recordFailure callId = some s') :
    ∃ call job errorCode, s.calls.find? callId = some call ∧ call.phase = .executing job (.failing errorCode) ∧
      s' = { s.endCall callId with
        circleProviderJobs := s.circleProviderJobs.modify job.id (failJob errorCode) } := by
  simp only [recordFailure, Option.bind_eq_bind, Option.bind_eq_some_iff] at taken
  obtain ⟨call, found, taken⟩ := taken
  split at taken
  · rename_i job errorCode phase
    exact ⟨call, job, errorCode, found, phase, (Option.some.inj taken).symm⟩
  · cases taken

end Inversion

/-! ## The lock -/

def Exclusive (s : Fleet) : Prop :=
  ∀ call ∈ s.calls, ∀ call' ∈ s.calls, call.phase.holdsLock = true → call'.phase.holdsLock = true → call = call'

section Lock

variable {s s' : Fleet}

theorem lockFree_iff : s.lockFree = true ↔ ∀ call ∈ s.calls, call.phase.holdsLock = false := by
  simp [lockFree, Table.mem_def]

theorem Exclusive.called (exclusive : s.Exclusive) (callId : Nat)
    (others : ∀ call ∈ s'.calls, call.id ≠ callId → call ∈ s.calls)
    (takes : ∀ call ∈ s'.calls, call.id = callId → call.phase.holdsLock = true →
      s.lockFree = true ∨ ∃ before ∈ s.calls, before.id = callId ∧ before.phase.holdsLock = true) : s'.Exclusive := by
  have alone (call call' : FleetCall) (member : call ∈ s'.calls) (member' : call' ∈ s'.calls)
      (holds : call.phase.holdsLock = true) (holds' : call'.phase.holdsLock = true) (here : call.id = callId) :
      call'.id = callId := by
    by_contra apart
    have before' := others call' member' apart
    rcases takes call member here holds with free | ⟨before, beforeMember, same, beforeHolds⟩
    · rw [lockFree_iff.mp free call' before'] at holds'
      cases holds'
    · exact apart (exclusive before beforeMember call' before' beforeHolds holds' ▸ same)
  intro call member call' member' holds holds'
  by_cases here : call.id = callId
  · exact Table.eq_of_key member member' (here.trans (alone call call' member member' holds holds' here).symm)
  · by_cases here' : call'.id = callId
    · exact absurd (alone call' call member' member holds' holds here') here
    · exact exclusive call (others call member here) call' (others call' member' here') holds holds'

theorem Exclusive.put (exclusive : s.Exclusive) {call : FleetCall} (calls : s'.calls = s.calls.put call)
    (takes : call.phase.holdsLock = true → s.lockFree = true ∨
      ∃ before, s.calls.find? call.id = some before ∧ before.phase.holdsLock = true) : s'.Exclusive := by
  refine exclusive.called call.id (fun other member apart => ?_) fun other member same holds => ?_
  · rw [calls] at member
    rcases Table.mem_put.mp member with ⟨before, -⟩ | ⟨rfl, -⟩
    · exact before
    · exact absurd rfl apart
  · rw [calls] at member
    rcases Table.mem_put.mp member with ⟨-, other⟩ | ⟨rfl, -⟩
    · exact absurd same other
    · refine (takes holds).imp_right fun ⟨before, found, held⟩ => ?_
      exact ⟨before, Table.mem_of_find? found, Table.key_of_find? found, held⟩

theorem Exclusive.insert (exclusive : s.Exclusive) {call : FleetCall} (inserted : s.calls.insert? call = some s'.calls)
    (takes : call.phase.holdsLock = true → s.lockFree = true) : s'.Exclusive := by
  refine exclusive.called call.id (fun other member apart => ?_) fun other member same holds => ?_
  · rcases (Table.mem_insert? inserted).mp member with rfl | before
    · exact absurd rfl apart
    · exact before
  · rcases (Table.mem_insert? inserted).mp member with rfl | before
    · exact .inl (takes holds)
    · exact absurd same (Table.find?_eq_none.mp (Table.insert?_eq_some inserted).2 other before)

theorem Exclusive.ended (exclusive : s.Exclusive) {callId : Nat} (calls : s'.calls = s.calls.remove callId) :
    s'.Exclusive := by
  intro call member call' member' holds holds'
  rw [calls] at member member'
  exact exclusive call (Table.mem_remove.mp member).1 call' (Table.mem_remove.mp member').1 holds holds'

theorem Exclusive.left (exclusive : s.Exclusive) {callId : Nat} {call other : FleetCall}
    (found : s.calls.find? callId = some call) (holds : call.phase.holdsLock = true)
    (member : other ∈ s.calls.remove callId) : other.phase.holdsLock = false := by
  obtain ⟨before, apart⟩ := Table.mem_remove.mp member
  cases held : other.phase.holdsLock with
  | false => rfl
  | true =>
    obtain rfl := exclusive call (Table.mem_of_find? found) other before holds held
    exact absurd (Table.key_of_find? found) apart

theorem Exclusive.step {label : FleetLabel} (exclusive : s.Exclusive) (taken : s.step label = some s') : s'.Exclusive := by
  cases label with
  | setAllocation callId input =>
    obtain ⟨calls, inserted, rfl⟩ := setAllocation_some taken
    exact exclusive.insert inserted (by rintro ⟨⟩)
  | lock callId =>
    obtain ⟨call, -, free, ⟨input, deposits, -, rfl⟩ | ⟨agentId, -, rfl⟩⟩ := lock_some taken <;>
      exact exclusive.put rfl fun _ => .inl free
  | sumOthers callId =>
    obtain ⟨call, input, deposits, found, phase, rfl⟩ := sumOthers_some taken
    exact exclusive.put rfl fun _ => .inr ⟨call, found, by rw [phase]; rfl⟩
  | write callId rowId =>
    obtain ⟨call, input, deposits, committed, found, phase, rfl | ⟨-, rfl⟩⟩ := write_some taken
    · exact exclusive.ended rfl
    · exact exclusive.put rfl fun _ => .inr ⟨call, found, by rw [phase]; rfl⟩
  | commit callId =>
    obtain ⟨call, input, row, -, -, rfl⟩ := commit_some taken
    exact exclusive.ended rfl
  | revokeAgent callId agentId =>
    obtain ⟨calls, inserted, rfl⟩ := revokeAgent_some taken
    exact exclusive.insert inserted (by rintro ⟨⟩)
  | commitRevocation callId jobId =>
    obtain ⟨call, agentId, jobs, -, -, -, rfl⟩ := commitRevocation_some taken
    exact exclusive.ended rfl
  | evaluateTopUps callId =>
    obtain ⟨calls, inserted, rfl⟩ := evaluateTopUps_some taken
    exact exclusive.insert inserted (by rintro ⟨⟩)
  | measure callId allocation =>
    obtain ⟨call, remaining, -, -, -, rfl | rfl⟩ := measure_some taken <;> exact exclusive.put rfl (by rintro ⟨⟩)
  | enqueueTopUp callId jobId =>
    obtain ⟨call, allocation, rawBalance, remaining, -, -, -, rfl | ⟨jobs, -, -, -, rfl⟩⟩ := enqueueTopUp_some taken <;>
      exact exclusive.put rfl (by rintro ⟨⟩)
  | execute callId jobId =>
    obtain ⟨job, calls, -, free, -, inserted, rfl⟩ := execute_some taken
    exact exclusive.insert inserted fun _ => free
  | findWallets callId =>
    obtain ⟨call, job, found, phase, rfl⟩ := findWallets_some taken
    exact exclusive.put rfl fun _ => .inr ⟨call, found, by rw [phase]; rfl⟩
  | transfer callId answer =>
    obtain ⟨call, job, agentId, found, phase, -, cases⟩ := transfer_some taken
    have held : call.phase.holdsLock = true := by rw [phase]; rfl
    obtain ⟨transactionId, gas, -, rfl⟩ | ⟨error, gas, -, rfl⟩ | ⟨error, rfl⟩ | ⟨-, rfl⟩ := cases <;>
      exact exclusive.put rfl fun _ => .inr ⟨call, found, held⟩
  | markSwept callId =>
    obtain ⟨call, job, amount, providerRef, agentId, found, phase, -, rfl⟩ := markSwept_some taken
    exact exclusive.put rfl fun _ => .inr ⟨call, found, by rw [phase]; rfl⟩
  | complete callId =>
    obtain ⟨call, job, amount, providerRef, found, phase, rfl⟩ := complete_some taken
    refine exclusive.put rfl fun _ => .inr ⟨call, found, ?_⟩
    rcases phase with ⟨phase, -⟩ | phase <;> rw [phase] <;> rfl
  | post callId =>
    obtain ⟨call, job, amount, agentId, -, -, rfl⟩ := post_some taken
    exact exclusive.ended rfl
  | throw callId errorCode =>
    obtain ⟨call, job, phase, found, same, -, rfl⟩ := throw_some taken
    exact exclusive.put rfl fun _ => .inr ⟨call, found, by rw [same]; rfl⟩
  | recordFailure callId =>
    obtain ⟨call, job, errorCode, -, -, rfl⟩ := recordFailure_some taken
    exact exclusive.ended rfl
  | abandon callId =>
    obtain rfl := Option.some.inj taken
    exact exclusive.ended rfl

end Lock

end Fleet

end AgentOps.Treasury
