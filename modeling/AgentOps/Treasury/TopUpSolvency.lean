import AgentOps.Treasury.Fleet

namespace AgentOps.Treasury
open Lib

/-! # Top-ups and the treasury's deposits -/

def Fleet.awaits (s : Fleet) (job : CircleProviderJob) : Bool :=
  job.orgId = s.orgId && job.jobType = .agentWalletTopup && (job.status = .queued || job.status = .submitted) &&
    decide (job.id ∉ s.moved)

/-- What the awaited top-ups that meet `p` come to -/
def Fleet.awaited (s : Fleet) (p : CircleProviderJob → Bool) : Nat :=
  s.circleProviderJobs.sum fun job => if (s.awaits job && p job) = true then job.amountUsdc.getD 0 else 0

def Fleet.held (s : Fleet) : Nat :=
  s.agentChainWallets.sum fun wallet => if wallet.orgId = s.orgId then s.balances wallet.agentId else 0

def Fleet.committed (s : Fleet) : Nat := s.held + s.awaited fun _ => true

def Fleet.load (s : Fleet) (agentId : AgentId) : Nat :=
  s.balances agentId + s.awaited fun job => job.agentId = some agentId

/-- The step takes no agent's balance plus its top-ups above the smaller of its ceiling and its allocation. -/
def WithinCap (s : Fleet) (label : FleetLabel) : Prop :=
  ∀ s', s.step label = some s' → ∀ row ∈ s'.agentAllocations,
    s'.load row.agentId ≤ s.load row.agentId ∨ s'.load row.agentId ≤ min row.ceilingUsdc row.allocatedUsdc

/-! ## The condition -/

def Fleet.counts (s : Fleet) (agentId : AgentId) (wallet : AgentChainWallet) : Bool :=
  wallet.status = .active && wallet.agentId ≠ agentId &&
    (s.agentAllocations.find? wallet.agentId).any fun row => row.orgId = s.orgId && row.status = .active

def Fleet.uncounted (s : Fleet) (agentId : AgentId) : Nat :=
  (s.agentChainWallets.sum fun wallet =>
    if wallet.orgId = s.orgId ∧ s.counts agentId wallet = false then s.balances wallet.agentId else 0) +
      s.awaited fun _ => true

/-- No allocation is rewritten. A pass that queues a top-up does so while the agent's balance is at most what was read, and
either the headroom leaves nothing out or it covers what it leaves out together with what the agent may get. A top-up whose
money has moved, or that is not queued or submitted, does not move money again. -/
def Prudent (s : Fleet) : FleetLabel → Prop
  | .commit _ => False
  | .enqueueTopUp callId _ => ∀ call allocation rawBalance remaining, s.calls.find? callId = some call →
      call.phase = .measured allocation rawBalance remaining → s.pendingTopUp allocation.agentId = false →
        s.topUpMicros allocation rawBalance ≠ 0 → s.balances allocation.agentId ≤ rawBalance ∧
          (s.uncounted allocation.agentId = 0 ∨ s.uncounted allocation.agentId + Fleet.underCeiling allocation rawBalance ≤
            s.solvencyHeadroom allocation.agentId)
  | .transfer callId answer => ∀ call job, s.calls.find? callId = some call → call.phase = .executing job .ready →
      job.jobType = .agentWalletTopup → (∀ error, answer ≠ .refused error) →
        ∀ stored, s.circleProviderJobs.find? job.id = some stored → s.awaits stored = true
  | _ => True

/-! ## What calls have read -/

def SameJob (job stored : CircleProviderJob) : Prop :=
  stored.orgId = job.orgId ∧ stored.jobType = job.jobType ∧ stored.agentId = job.agentId ∧
    (job.jobType = .agentWalletTopup → stored.amountUsdc = job.amountUsdc)

theorem SameJob.refl (job : CircleProviderJob) : SameJob job job := ⟨rfl, rfl, rfl, fun _ => rfl⟩

theorem SameJob.trans {job stored later : CircleProviderJob} (first : SameJob job stored) (second : SameJob stored later) :
    SameJob job later := by
  obtain ⟨org, kind, agent, amount⟩ := first
  obtain ⟨org', kind', agent', amount'⟩ := second
  exact ⟨org'.trans org, kind'.trans kind, agent'.trans agent, fun topup => (amount' (kind.trans topup)).trans (amount topup)⟩

def SameCaps (row stored : AgentAllocationRow) : Prop :=
  stored.ceilingUsdc = row.ceilingUsdc ∧ stored.allocatedUsdc = row.allocatedUsdc

def Fleet.HasRead (s : Fleet) (row : AgentAllocationRow) : Prop :=
  ∃ stored, s.agentAllocations.find? row.agentId = some stored ∧ SameCaps row stored

def CallPhase.HasRead (s : Fleet) : CallPhase → Prop
  | .scanning remaining => ∀ row ∈ remaining, s.HasRead row
  | .measured allocation _ remaining => s.HasRead allocation ∧ ∀ row ∈ remaining, s.HasRead row
  | .executing job _ => job.orgId = s.orgId ∧ ∃ stored, s.circleProviderJobs.find? job.id = some stored ∧ SameJob job stored
  | _ => True

def Fleet.CallsHaveRead (s : Fleet) : Prop := ∀ call ∈ s.calls, call.phase.HasRead s

section Read

variable {s s' : Fleet}

structure RowsKept (s s' : Fleet) : Prop where
  org : s'.orgId = s.orgId
  allocations : s.agentAllocations.Grows SameCaps s'.agentAllocations
  jobs : s.circleProviderJobs.Grows SameJob s'.circleProviderJobs

theorem SameCaps.refl (row : AgentAllocationRow) : SameCaps row row := ⟨rfl, rfl⟩

theorem RowsKept.of_eq (org : s'.orgId = s.orgId) (allocations : s'.agentAllocations = s.agentAllocations)
    (jobs : s'.circleProviderJobs = s.circleProviderJobs) : RowsKept s s' where
  org := org
  allocations := allocations ▸ Table.Grows.refl SameCaps.refl _
  jobs := jobs ▸ Table.Grows.refl SameJob.refl _

theorem CallPhase.HasRead.kept {phase : CallPhase} (read : phase.HasRead s) (kept : RowsKept s s') : phase.HasRead s' := by
  have row (row : AgentAllocationRow) (read : s.HasRead row) : s'.HasRead row := by
    obtain ⟨stored, found, ceiling, allocated⟩ := read
    obtain ⟨stored', found', ceiling', allocated'⟩ := kept.allocations _ _ found
    exact ⟨stored', found', ceiling'.trans ceiling, allocated'.trans allocated⟩
  cases phase with
  | scanning remaining => exact fun other member => row other (read other member)
  | measured allocation rawBalance remaining => exact ⟨row _ read.1, fun other member => row other (read.2 other member)⟩
  | executing job phase =>
    obtain ⟨org, stored, found, same⟩ := read
    obtain ⟨stored', found', same'⟩ := kept.jobs _ _ found
    exact ⟨org.trans kept.org.symm, stored', found', same.trans same'⟩
  | _ => trivial

theorem Fleet.CallsHaveRead.kept (read : s.CallsHaveRead) (kept : RowsKept s s')
    (calls : ∀ call ∈ s'.calls, call ∈ s.calls ∨ call.phase.HasRead s) : s'.CallsHaveRead := by
  intro call member
  have before : call.phase.HasRead s := (calls call member).elim (read call) id
  exact before.kept kept

theorem Fleet.CallsHaveRead.put (read : s.CallsHaveRead) (kept : RowsKept s s') {call : FleetCall}
    (calls : s'.calls = s.calls.put call) (here : call.phase.HasRead s) : s'.CallsHaveRead := by
  refine read.kept kept fun other member => ?_
  rw [calls] at member
  rcases Table.mem_put.mp member with ⟨before, -⟩ | ⟨rfl, -⟩
  · exact .inl before
  · exact .inr here

theorem Fleet.CallsHaveRead.insert (read : s.CallsHaveRead) {calls : Table FleetCall.id} {call : FleetCall}
    (inserted : s.calls.insert? call = some calls) (here : call.phase.HasRead s) :
    { s with calls := calls }.CallsHaveRead := by
  refine read.kept (.of_eq rfl rfl rfl) fun other member => ?_
  rcases (Table.mem_insert? inserted).mp member with rfl | before
  · exact .inr here
  · exact .inl before

theorem Fleet.CallsHaveRead.ended (read : s.CallsHaveRead) (kept : RowsKept s s') {callId : Nat}
    (calls : s'.calls = s.calls.remove callId) : s'.CallsHaveRead := by
  refine read.kept kept fun other member => .inl ?_
  rw [calls] at member
  exact (Table.mem_remove.mp member).1

theorem sameJob_complete (amount : Nat) (providerRef : Option String) (job : CircleProviderJob) :
    SameJob job (Fleet.completeJob amount providerRef job) := by
  refine ⟨rfl, rfl, rfl, fun topup => ?_⟩
  simp [Fleet.completeJob, topup]

theorem sameJob_fail (errorCode : String) (job : CircleProviderJob) : SameJob job (Fleet.failJob errorCode job) :=
  ⟨rfl, rfl, rfl, fun _ => rfl⟩

theorem revoke_agentId (row : AgentAllocationRow) : (Fleet.revoke row).agentId = row.agentId := by
  unfold Fleet.revoke
  split <;> rfl

theorem sameCaps_revoke (row : AgentAllocationRow) : SameCaps row (Fleet.revoke row) := by
  unfold Fleet.revoke
  split <;> exact ⟨rfl, rfl⟩

theorem Fleet.CallsHaveRead.step {label : FleetLabel} (read : s.CallsHaveRead) (prudent : Prudent s label)
    (taken : s.step label = some s') : s'.CallsHaveRead := by
  cases label with
  | setAllocation callId input =>
    obtain ⟨calls, inserted, rfl⟩ := Fleet.setAllocation_some taken
    exact read.insert inserted trivial
  | lock callId =>
    obtain ⟨call, -, -, ⟨input, deposits, -, rfl⟩ | ⟨agentId, -, rfl⟩⟩ := Fleet.lock_some taken <;>
      exact read.put (.of_eq rfl rfl rfl) rfl trivial
  | sumOthers callId =>
    obtain ⟨call, input, deposits, -, -, rfl⟩ := Fleet.sumOthers_some taken
    exact read.put (.of_eq rfl rfl rfl) rfl trivial
  | write callId rowId =>
    obtain ⟨call, input, deposits, committed, -, -, rfl | ⟨-, rfl⟩⟩ := Fleet.write_some taken
    · exact read.ended (.of_eq rfl rfl rfl) rfl
    · exact read.put (.of_eq rfl rfl rfl) rfl trivial
  | commit callId => exact prudent.elim
  | revokeAgent callId agentId =>
    obtain ⟨calls, inserted, rfl⟩ := Fleet.revokeAgent_some taken
    exact read.insert inserted trivial
  | commitRevocation callId jobId =>
    obtain ⟨call, agentId, jobs, -, -, queued, rfl⟩ := Fleet.commitRevocation_some taken
    refine read.ended ⟨rfl, Table.grows_modify SameCaps.refl revoke_agentId sameCaps_revoke, ?_⟩ rfl
    rcases queued with rfl | inserted
    · exact Table.Grows.refl SameJob.refl _
    · exact Table.grows_insert? SameJob.refl inserted
  | evaluateTopUps callId =>
    obtain ⟨calls, inserted, rfl⟩ := Fleet.evaluateTopUps_some taken
    refine read.insert inserted fun row member => ⟨row, ?_, .refl row⟩
    exact Table.find?_of_mem (List.mem_filter.mp member).1
  | measure callId allocation =>
    obtain ⟨call, remaining, found, phase, among, ends⟩ := Fleet.measure_some taken
    have known := read call (Table.mem_of_find? found)
    rw [phase] at known
    have rest : ∀ row ∈ remaining.erase allocation, s.HasRead row := fun row member => known row (List.mem_of_mem_erase member)
    rcases ends with rfl | rfl
    · exact read.put (.of_eq rfl rfl rfl) rfl rest
    · exact read.put (.of_eq rfl rfl rfl) rfl ⟨known allocation among, rest⟩
  | enqueueTopUp callId jobId =>
    obtain ⟨call, allocation, rawBalance, remaining, found, phase, -, ends⟩ := Fleet.enqueueTopUp_some taken
    have known := read call (Table.mem_of_find? found)
    rw [phase] at known
    rcases ends with rfl | ⟨jobs, -, -, inserted, rfl⟩
    · exact read.put (.of_eq rfl rfl rfl) rfl known.2
    · exact read.put ⟨rfl, Table.Grows.refl SameCaps.refl _, Table.grows_insert? SameJob.refl inserted⟩ rfl known.2
  | execute callId jobId =>
    obtain ⟨job, calls, located, -, org, inserted, rfl⟩ := Fleet.execute_some taken
    obtain rfl := Table.key_of_find? located
    exact read.insert inserted ⟨org, job, located, .refl job⟩
  | findWallets callId =>
    obtain ⟨call, job, found, phase, rfl⟩ := Fleet.findWallets_some taken
    have known := read call (Table.mem_of_find? found)
    rw [phase] at known
    exact read.put (.of_eq rfl rfl rfl) rfl known
  | transfer callId answer =>
    obtain ⟨call, job, agentId, found, phase, -, ends⟩ := Fleet.transfer_some taken
    have known := read call (Table.mem_of_find? found)
    rw [phase] at known
    obtain ⟨transactionId, gas, -, rfl⟩ | ⟨error, gas, -, rfl⟩ | ⟨error, rfl⟩ | ⟨-, rfl⟩ := ends <;>
      exact read.put (.of_eq rfl rfl rfl) rfl known
  | markSwept callId =>
    obtain ⟨call, job, amount, providerRef, agentId, found, phase, -, rfl⟩ := Fleet.markSwept_some taken
    have known := read call (Table.mem_of_find? found)
    rw [phase] at known
    exact read.put (.of_eq rfl rfl rfl) rfl known
  | complete callId =>
    obtain ⟨call, job, amount, providerRef, found, phase, rfl⟩ := Fleet.complete_some taken
    have known := read call (Table.mem_of_find? found)
    obtain ⟨before, phase⟩ : ∃ before, call.phase = .executing job before :=
      phase.elim (fun transferred => ⟨_, transferred.1⟩) fun marked => ⟨_, marked⟩
    rw [phase] at known
    exact read.put ⟨rfl, Table.Grows.refl SameCaps.refl _,
      Table.grows_modify SameJob.refl (fun _ => rfl) (sameJob_complete amount providerRef)⟩ rfl known
  | post callId =>
    obtain ⟨call, job, amount, agentId, -, -, rfl⟩ := Fleet.post_some taken
    exact read.ended (.of_eq rfl rfl rfl) rfl
  | throw callId errorCode =>
    obtain ⟨call, job, before, found, phase, -, rfl⟩ := Fleet.throw_some taken
    have known := read call (Table.mem_of_find? found)
    rw [phase] at known
    exact read.put (.of_eq rfl rfl rfl) rfl known
  | recordFailure callId =>
    obtain ⟨call, job, errorCode, -, -, rfl⟩ := Fleet.recordFailure_some taken
    exact read.ended ⟨rfl, Table.Grows.refl SameCaps.refl _,
      Table.grows_modify SameJob.refl (fun _ => rfl) (sameJob_fail errorCode)⟩ rfl
  | abandon callId =>
    obtain rfl := Option.some.inj taken
    exact read.ended (.of_eq rfl rfl rfl) rfl

end Read

/-! ## What a step adds -/

section Load

variable {s s' : Fleet}

theorem Fleet.awaits_congr (org : s'.orgId = s.orgId) (moved : s'.moved = s.moved) : s'.awaits = s.awaits := by
  funext job
  simp only [Fleet.awaits, org, moved]

structure Lighter (s s' : Fleet) : Prop where
  deposits : s'.deposits = s.deposits
  total : s'.committed ≤ s.committed
  loads : ∀ agentId, s'.load agentId ≤ s.load agentId

theorem Fleet.held_le (org : s'.orgId = s.orgId) (balances : ∀ agentId, s'.balances agentId ≤ s.balances agentId)
    (wallets : s'.agentChainWallets = s.agentChainWallets ∨
      ∃ agentId, s'.agentChainWallets = s.agentChainWallets.modify agentId Fleet.sweep) : s'.held ≤ s.held := by
  have weights : s'.held ≤ s'.agentChainWallets.sum fun wallet =>
      if wallet.orgId = s.orgId then s.balances wallet.agentId else 0 := by
    rw [Fleet.held, org]
    refine Table.sum_mono fun wallet _ => ?_
    split
    · exact balances wallet.agentId
    · exact Nat.le_refl 0
  refine Nat.le_trans weights ?_
  rcases wallets with same | ⟨agentId, same⟩
  · rw [same]
    exact Nat.le_refl _
  · rw [same]
    exact Table.sum_modify_le (fun _ => rfl) fun _ => Nat.le_refl _

theorem Lighter.of (deposits : s'.deposits = s.deposits) (org : s'.orgId = s.orgId)
    (balances : ∀ agentId, s'.balances agentId ≤ s.balances agentId)
    (wallets : s'.agentChainWallets = s.agentChainWallets ∨
      ∃ agentId, s'.agentChainWallets = s.agentChainWallets.modify agentId Fleet.sweep)
    (jobs : ∀ p, s'.awaited p ≤ s.awaited p) : Lighter s s' where
  deposits := deposits
  total := Nat.add_le_add (Fleet.held_le org balances wallets) (jobs _)
  loads := fun agentId => Nat.add_le_add (balances agentId) (jobs _)

theorem Lighter.of_eq (deposits : s'.deposits = s.deposits) (org : s'.orgId = s.orgId) (balances : s'.balances = s.balances)
    (wallets : s'.agentChainWallets = s.agentChainWallets) (jobs : s'.circleProviderJobs = s.circleProviderJobs)
    (moved : s'.moved = s.moved) : Lighter s s' := by
  refine .of deposits org (fun _ => by rw [balances]) (.inl wallets) fun p => ?_
  rw [Fleet.awaited, Fleet.awaited, Fleet.awaits_congr org moved, jobs]

theorem Fleet.awaited_modify {jobId : JobId} {f : CircleProviderJob → CircleProviderJob} (org : s'.orgId = s.orgId)
    (moved : s'.moved = s.moved) (jobs : s'.circleProviderJobs = s.circleProviderJobs.modify jobId f)
    (keyed : ∀ job, (f job).id = job.id) (ended : ∀ job, (f job).status = .complete ∨ (f job).status = .failed)
    (p : CircleProviderJob → Bool) : s'.awaited p ≤ s.awaited p := by
  have gone (job : CircleProviderJob) : s.awaits (f job) = false := by
    rcases ended job with status | status <;> simp [Fleet.awaits, status]
  rw [Fleet.awaited, jobs, Fleet.awaits_congr org moved]
  exact Table.sum_modify_le keyed fun job => by simp [gone]

theorem Fleet.awaited_insert {jobs : Table CircleProviderJob.id} {job : CircleProviderJob} (org : s'.orgId = s.orgId)
    (moved : s'.moved = s.moved) (inserted : s.circleProviderJobs.insert? job = some jobs)
    (same : s'.circleProviderJobs = jobs) (p : CircleProviderJob → Bool) :
    s'.awaited p = (if (s.awaits job && p job) = true then job.amountUsdc.getD 0 else 0) + s.awaited p := by
  rw [Fleet.awaited, same, Fleet.awaits_congr org moved, Table.sum_insert? _ inserted]
  rfl

theorem Lighter.modified {jobId : JobId} {f : CircleProviderJob → CircleProviderJob} (deposits : s'.deposits = s.deposits)
    (org : s'.orgId = s.orgId) (balances : s'.balances = s.balances) (wallets : s'.agentChainWallets = s.agentChainWallets)
    (moved : s'.moved = s.moved) (jobs : s'.circleProviderJobs = s.circleProviderJobs.modify jobId f)
    (keyed : ∀ job, (f job).id = job.id) (ended : ∀ job, (f job).status = .complete ∨ (f job).status = .failed) :
    Lighter s s' :=
  .of deposits org (fun _ => by rw [balances]) (.inl wallets) (Fleet.awaited_modify org moved jobs keyed ended)

theorem Lighter.inserted {jobs : Table CircleProviderJob.id} {job : CircleProviderJob} (deposits : s'.deposits = s.deposits)
    (org : s'.orgId = s.orgId) (balances : s'.balances = s.balances) (wallets : s'.agentChainWallets = s.agentChainWallets)
    (moved : s'.moved = s.moved) (inserted : s.circleProviderJobs.insert? job = some jobs)
    (same : s'.circleProviderJobs = jobs) (apart : s.awaits job = false) : Lighter s s' := by
  refine .of deposits org (fun _ => by rw [balances]) (.inl wallets) fun p => ?_
  rw [Fleet.awaited_insert org moved inserted same p, apart]
  simp

theorem Fleet.awaits_moved {job : CircleProviderJob} {jobId : JobId} (org : s'.orgId = s.orgId)
    (moved : s'.moved = jobId :: s.moved) : s'.awaits job = (s.awaits job && decide (job.id ≠ jobId)) := by
  simp only [Fleet.awaits, org, moved, List.mem_cons, not_or]
  by_cases here : job.id = jobId <;> simp [here]

theorem Fleet.awaited_moved {jobId : JobId} (org : s'.orgId = s.orgId)
    (jobs : s'.circleProviderJobs = s.circleProviderJobs) (moved : s'.moved = jobId :: s.moved)
    (p : CircleProviderJob → Bool) : s'.awaited p ≤ s.awaited p := by
  rw [Fleet.awaited, Fleet.awaited, jobs]
  refine Table.sum_mono fun other _ => ?_
  rw [Fleet.awaits_moved org moved]
  by_cases here : other.id = jobId <;> simp [here]

theorem Fleet.awaited_transferred {stored : CircleProviderJob} (org : s'.orgId = s.orgId)
    (jobs : s'.circleProviderJobs = s.circleProviderJobs) (moved : s'.moved = stored.id :: s.moved)
    (found : s.circleProviderJobs.find? stored.id = some stored) (awaits : s.awaits stored = true)
    {p : CircleProviderJob → Bool} (counted : p stored = true) :
    s'.awaited p + stored.amountUsdc.getD 0 = s.awaited p := by
  rw [Fleet.awaited, Fleet.awaited, jobs]
  have change := Table.sum_change (w := fun job => if (s.awaits job && p job) = true then job.amountUsdc.getD 0 else 0)
    (v := fun job => if (s'.awaits job && p job) = true then job.amountUsdc.getD 0 else 0) found fun other _ apart => by
      simp [Fleet.awaits_moved org moved, apart]
  simpa [Fleet.awaits_moved org moved, awaits, counted] using change

theorem Fleet.held_transferred {agentId : AgentId} {balance amount : Nat} (org : s'.orgId = s.orgId)
    (wallets : s'.agentChainWallets = s.agentChainWallets) (balances : s'.balances = Function.update s.balances agentId balance)
    (bounded : balance ≤ s.balances agentId + amount) : s'.held ≤ s.held + amount := by
  have elsewhere (wallet : AgentChainWallet) (apart : wallet.agentId ≠ agentId) :
      s'.balances wallet.agentId = s.balances wallet.agentId := by
    rw [balances, Function.update_of_ne apart]
  cases found : s.agentChainWallets.find? agentId with
  | none =>
    have same : s'.held = s.held := by
      rw [Fleet.held, Fleet.held, wallets, org]
      refine Table.sum_congr fun wallet member => ?_
      rw [elsewhere wallet (Table.find?_eq_none.mp found wallet member)]
    omega
  | some wallet =>
    obtain rfl := Table.key_of_find? found
    have change := Table.sum_change (w := fun wallet => if wallet.orgId = s.orgId then s.balances wallet.agentId else 0)
      (v := fun wallet => if wallet.orgId = s'.orgId then s'.balances wallet.agentId else 0) found
      fun other _ apart => by simp only [org, elsewhere other apart]
    rw [Fleet.held, Fleet.held, wallets]
    simp only [org, balances, Function.update_self] at change ⊢
    split at change <;> omega

theorem Lighter.transferred {callId : Nat} {job stored : CircleProviderJob} {agentId : AgentId} {gas : Nat}
    {phase : ExecutePhase} (found : s.circleProviderJobs.find? job.id = some stored) (same : SameJob job stored)
    (named : job.agentId = some agentId) (awaits : job.jobType = .agentWalletTopup → s.awaits stored = true) :
    Lighter s ((s.transferred job agentId gas).updateCall ⟨callId, .executing job phase⟩) := by
  generalize after : (s.transferred job agentId gas).updateCall ⟨callId, .executing job phase⟩ = s'
  have deposits : s'.deposits = s.deposits := by rw [← after]; rfl
  have org : s'.orgId = s.orgId := by rw [← after]; rfl
  have wallets : s'.agentChainWallets = s.agentChainWallets := by rw [← after]; rfl
  have jobs : s'.circleProviderJobs = s.circleProviderJobs := by rw [← after]; rfl
  have moved : s'.moved = job.id :: s.moved := by rw [← after]; rfl
  have balances : s'.balances = Function.update s.balances agentId
      (Fleet.balanceAfter (s.balances agentId) (s.transferAmount job agentId) gas job.jobType) := by rw [← after]; rfl
  have keys := Table.key_of_find? found
  obtain ⟨-, -, owner, amount⟩ := same
  cases kind : job.jobType with
  | agentWalletSweep =>
    refine .of deposits org (fun other => ?_) (.inl wallets) fun p => Fleet.awaited_moved org jobs moved p
    rw [balances, kind]
    by_cases here : other = agentId
    · subst here
      rw [Function.update_self, Fleet.balanceAfter]
      omega
    · rw [Function.update_of_ne here]
  | agentWalletTopup =>
    have paid : s.transferAmount job agentId = stored.amountUsdc.getD 0 := by
      simp only [Fleet.transferAmount, kind]
      rw [amount kind]
    rw [kind, paid, Fleet.balanceAfter] at balances
    rw [← keys] at found moved
    refine ⟨deposits, ?_, fun other => ?_⟩
    · have held := Fleet.held_transferred org wallets balances (Nat.le_refl _)
      have less := Fleet.awaited_transferred (p := fun _ => true) org jobs moved found (awaits kind) rfl
      rw [Fleet.committed, Fleet.committed]
      omega
    · rw [Fleet.load, Fleet.load, balances]
      by_cases here : other = agentId
      · subst here
        have less := Fleet.awaited_transferred (p := fun job => job.agentId = some other) org jobs moved found (awaits kind)
          (by simp [owner, named])
        rw [Function.update_self]
        omega
      · rw [Function.update_of_ne here]
        exact Nat.add_le_add_left (Fleet.awaited_moved org jobs moved _) _

end Load

/-! ## Queueing a top-up -/

section Enqueue

variable {s s' : Fleet}

theorem Fleet.committed_le (s : Fleet) (agentId : AgentId) :
    s.committed ≤ s.otherAgentsOnChainMicros agentId + s.uncounted agentId := by
  have parts : s.held = (s.agentChainWallets.sum fun wallet =>
      if wallet.orgId = s.orgId ∧ s.counts agentId wallet = true then s.balances wallet.agentId else 0) +
      s.agentChainWallets.sum fun wallet =>
        if wallet.orgId = s.orgId ∧ s.counts agentId wallet = false then s.balances wallet.agentId else 0 := by
    rw [Fleet.held, Table.sum, Table.sum, Table.sum, ← List.sum_map_add]
    refine congrArg List.sum (List.map_congr_left fun wallet _ => ?_)
    cases s.counts agentId wallet <;> simp
  have counted : (s.agentChainWallets.sum fun wallet =>
      if wallet.orgId = s.orgId ∧ s.counts agentId wallet = true then s.balances wallet.agentId else 0) ≤
      s.otherAgentsOnChainMicros agentId := by
    refine Table.sum_le_of_find? fun wallet member => ?_
    by_cases here : wallet.orgId = s.orgId ∧ s.counts agentId wallet = true
    · rw [if_pos here]
      obtain ⟨-, counts⟩ := here
      simp only [Fleet.counts, Bool.and_eq_true, Option.any_eq_true, decide_eq_true_eq] at counts
      obtain ⟨⟨active, apart⟩, row, found, org, status⟩ := counts
      have located := Table.find?_of_mem member
      refine .inr ⟨row, found, ?_⟩
      have keys := Table.key_of_find? found
      have joined : row.orgId = s.orgId ∧ row.status = .active ∧ s.activeWallet row.agentId = true ∧
          row.agentId ≠ agentId := by
        refine ⟨org, status, ?_, keys ▸ apart⟩
        rw [Fleet.activeWallet, keys, located]
        simp [active]
      rw [if_pos joined, keys]
    · exact .inl (if_neg here)
  rw [Fleet.committed, parts, Fleet.uncounted]
  omega

theorem Fleet.awaited_none {agentId : AgentId} (pending : s.pendingTopUp agentId = false) :
    s.awaited (fun job => job.agentId = some agentId) = 0 := by
  have none (job : CircleProviderJob) (member : job ∈ s.circleProviderJobs) :
      (s.awaits job && decide (job.agentId = some agentId)) = false := by
    have absent := List.any_eq_false.mp pending job member
    simp only [Fleet.awaits]
    by_contra awaited
    simp only [Bool.not_eq_false, Bool.and_eq_true] at awaited
    obtain ⟨⟨queued, -⟩, named⟩ := awaited
    exact absent (by simp only [Bool.and_eq_true]; exact ⟨queued, named⟩)
  have zero : s.awaited (fun job => job.agentId = some agentId) = s.circleProviderJobs.sum fun _ => 0 :=
    Table.sum_congr fun job member => by rw [none job member]; rfl
  rw [zero]
  simp [Table.sum]

theorem CallPhase.HasRead.allocation {call : FleetCall} {allocation : AgentAllocationRow} {rawBalance : Nat}
    {remaining : List AgentAllocationRow} (read : s.CallsHaveRead) (member : call ∈ s.calls)
    (phase : call.phase = .measured allocation rawBalance remaining) : s.HasRead allocation := by
  have known := read call member
  rw [phase] at known
  exact known.1

theorem enqueued_within {allocation : AgentAllocationRow} {rawBalance : Nat} {jobId : JobId}
    {jobs : Table CircleProviderJob.id} (read : s.HasRead allocation) (pending : s.pendingTopUp allocation.agentId = false)
    (positive : s.topUpMicros allocation rawBalance ≠ 0)
    (inserted : s.circleProviderJobs.insert? (s.topUpJob jobId allocation rawBalance) = some jobs)
    (org : s'.orgId = s.orgId) (balances : s'.balances = s.balances) (wallets : s'.agentChainWallets = s.agentChainWallets)
    (moved : s'.moved = s.moved) (queued : s'.circleProviderJobs = jobs)
    (fresh : s.balances allocation.agentId ≤ rawBalance)
    (covered : s.uncounted allocation.agentId = 0 ∨ s.uncounted allocation.agentId + Fleet.underCeiling allocation rawBalance ≤
      s.solvencyHeadroom allocation.agentId) :
    s'.committed ≤ s.deposits ∧ ∀ row ∈ s.agentAllocations,
      s'.load row.agentId ≤ s.load row.agentId ∨ s'.load row.agentId ≤ min row.ceilingUsdc row.allocatedUsdc := by
  have added (p : CircleProviderJob → Bool) := Fleet.awaited_insert org moved inserted queued p
  have amount : (s.topUpJob jobId allocation rawBalance).amountUsdc.getD 0 = s.topUpMicros allocation rawBalance := rfl
  refine ⟨?_, fun row member => ?_⟩
  · have total := s.committed_le allocation.agentId
    have held : s'.held = s.held := by rw [Fleet.held, Fleet.held, org, balances, wallets]
    have most := added fun _ => true
    rw [amount] at most
    rw [Fleet.topUpMicros, Fleet.solvencyHeadroom] at positive most
    rw [Fleet.solvencyHeadroom] at covered
    rw [Fleet.committed] at total ⊢
    rw [held]
    split at most <;> omega
  · have most := added fun job => job.agentId = some row.agentId
    rw [amount] at most
    rw [Fleet.load, Fleet.load, balances]
    by_cases same : row.agentId = allocation.agentId
    · obtain ⟨stored, found, ceiling, allocated⟩ := read
      rw [← same] at found
      obtain rfl := Option.some.inj ((Table.find?_of_mem member).symm.trans found)
      refine .inr ?_
      rw [same] at most ⊢
      rw [Fleet.awaited_none pending] at most
      rw [Fleet.topUpMicros, Fleet.underCeiling] at positive most
      rw [ceiling, allocated]
      split at most <;> omega
    · refine .inl ?_
      have other : decide ((s.topUpJob jobId allocation rawBalance).agentId = some row.agentId) = false := by
        simp [Fleet.topUpJob, Ne.symm same]
      rw [other, Bool.and_false] at most
      simp only [Bool.false_eq_true, if_false, Nat.zero_add] at most
      rw [most]

theorem enqueue_step {callId : Nat} {jobId : JobId} (read : s.CallsHaveRead)
    (prudent : Prudent s (.enqueueTopUp callId jobId)) (within : s.committed ≤ s.deposits)
    (taken : s.enqueueTopUp callId jobId = some s') :
    s'.committed ≤ s'.deposits ∧ ∀ row ∈ s'.agentAllocations,
      s'.load row.agentId ≤ s.load row.agentId ∨ s'.load row.agentId ≤ min row.ceilingUsdc row.allocatedUsdc := by
  obtain ⟨call, allocation, rawBalance, remaining, found, phase, -, rfl | ⟨jobs, pending, positive, inserted, rfl⟩⟩ :=
    Fleet.enqueueTopUp_some taken
  · exact ⟨within, fun row _ => .inl (Nat.le_refl _)⟩
  · obtain ⟨fresh, covered⟩ := prudent call allocation rawBalance remaining found phase pending positive
    have known := CallPhase.HasRead.allocation read (Table.mem_of_find? found) phase
    exact enqueued_within known pending positive inserted rfl rfl rfl rfl rfl fresh covered

end Enqueue

/-! ## Runs -/

section Run

variable {s s' : Fleet}

/-- Every step but the queueing of a top-up makes the fleet's load lighter. -/
theorem lighter_step {label : FleetLabel} (read : s.CallsHaveRead) (prudent : Prudent s label)
    (other : ∀ callId jobId, label ≠ .enqueueTopUp callId jobId) (taken : s.step label = some s') : Lighter s s' := by
  cases label with
  | setAllocation callId input =>
    obtain ⟨calls, -, rfl⟩ := Fleet.setAllocation_some taken
    exact .of_eq rfl rfl rfl rfl rfl rfl
  | lock callId =>
    obtain ⟨call, -, -, ⟨input, deposits, -, rfl⟩ | ⟨agentId, -, rfl⟩⟩ := Fleet.lock_some taken <;>
      exact .of_eq rfl rfl rfl rfl rfl rfl
  | sumOthers callId =>
    obtain ⟨call, input, deposits, -, -, rfl⟩ := Fleet.sumOthers_some taken
    exact .of_eq rfl rfl rfl rfl rfl rfl
  | write callId rowId =>
    obtain ⟨call, input, deposits, committed, -, -, rfl | ⟨-, rfl⟩⟩ := Fleet.write_some taken <;>
      exact .of_eq rfl rfl rfl rfl rfl rfl
  | commit callId => exact prudent.elim
  | revokeAgent callId agentId =>
    obtain ⟨calls, -, rfl⟩ := Fleet.revokeAgent_some taken
    exact .of_eq rfl rfl rfl rfl rfl rfl
  | commitRevocation callId jobId =>
    obtain ⟨call, agentId, jobs, -, -, queued, rfl⟩ := Fleet.commitRevocation_some taken
    rcases queued with rfl | inserted
    · exact .of_eq rfl rfl rfl rfl rfl rfl
    · exact .inserted rfl rfl rfl rfl rfl inserted rfl (by simp [Fleet.awaits, Fleet.sweepJob])
  | evaluateTopUps callId =>
    obtain ⟨calls, -, rfl⟩ := Fleet.evaluateTopUps_some taken
    exact .of_eq rfl rfl rfl rfl rfl rfl
  | measure callId allocation =>
    obtain ⟨call, remaining, -, -, -, rfl | rfl⟩ := Fleet.measure_some taken <;> exact .of_eq rfl rfl rfl rfl rfl rfl
  | enqueueTopUp callId jobId => exact absurd rfl (other callId jobId)
  | execute callId jobId =>
    obtain ⟨job, calls, -, -, -, -, rfl⟩ := Fleet.execute_some taken
    exact .of_eq rfl rfl rfl rfl rfl rfl
  | findWallets callId =>
    obtain ⟨call, job, -, -, rfl⟩ := Fleet.findWallets_some taken
    exact .of_eq rfl rfl rfl rfl rfl rfl
  | transfer callId answer =>
    obtain ⟨call, job, agentId, found, phase, named, ends⟩ := Fleet.transfer_some taken
    have known := read call (Table.mem_of_find? found)
    rw [phase] at known
    obtain ⟨-, stored, located, same⟩ := known
    obtain ⟨transactionId, gas, rfl, rfl⟩ | ⟨error, gas, rfl, rfl⟩ | ⟨error, rfl⟩ | ⟨-, rfl⟩ := ends
    · exact .transferred located same named fun kind => prudent call job found phase kind (fun _ => by simp) stored located
    · exact .transferred located same named fun kind => prudent call job found phase kind (fun _ => by simp) stored located
    · exact .of_eq rfl rfl rfl rfl rfl rfl
    · exact .of_eq rfl rfl rfl rfl rfl rfl
  | markSwept callId =>
    obtain ⟨call, job, amount, providerRef, agentId, -, -, -, rfl⟩ := Fleet.markSwept_some taken
    exact .of rfl rfl (fun _ => Nat.le_refl _) (.inr ⟨agentId, rfl⟩) fun _ => Nat.le_refl _
  | complete callId =>
    obtain ⟨call, job, amount, providerRef, -, -, rfl⟩ := Fleet.complete_some taken
    exact .modified rfl rfl rfl rfl rfl rfl (fun _ => rfl) fun _ => .inl rfl
  | post callId =>
    obtain ⟨call, job, amount, agentId, -, -, rfl⟩ := Fleet.post_some taken
    exact .of_eq rfl rfl rfl rfl rfl rfl
  | throw callId errorCode =>
    obtain ⟨call, job, before, -, -, -, rfl⟩ := Fleet.throw_some taken
    exact .of_eq rfl rfl rfl rfl rfl rfl
  | recordFailure callId =>
    obtain ⟨call, job, errorCode, -, -, rfl⟩ := Fleet.recordFailure_some taken
    exact .modified rfl rfl rfl rfl rfl rfl (fun _ => rfl) fun _ => .inr rfl
  | abandon callId =>
    obtain rfl := Option.some.inj taken
    exact .of_eq rfl rfl rfl rfl rfl rfl

/-- The total is within the deposits, and calls have read rows that are still there. -/
structure Fleet.Covered (s : Fleet) : Prop where
  within : s.committed ≤ s.deposits
  read : s.CallsHaveRead

theorem Fleet.Covered.step {label : FleetLabel} (covered : s.Covered) (prudent : Prudent s label)
    (taken : s.step label = some s') : s'.Covered := by
  refine ⟨?_, covered.read.step prudent taken⟩
  by_cases queues : ∃ callId jobId, label = .enqueueTopUp callId jobId
  · obtain ⟨callId, jobId, rfl⟩ := queues
    exact (enqueue_step covered.read prudent covered.within taken).1
  · have lighter := lighter_step covered.read prudent (fun callId jobId same => queues ⟨callId, jobId, same⟩) taken
    rw [lighter.deposits]
    exact lighter.total.trans covered.within

theorem Fleet.Covered.withinCap {label : FleetLabel} (covered : s.Covered) (prudent : Prudent s label) :
    WithinCap s label := by
  intro s' taken row member
  by_cases queues : ∃ callId jobId, label = .enqueueTopUp callId jobId
  · obtain ⟨callId, jobId, rfl⟩ := queues
    exact (enqueue_step covered.read prudent covered.within taken).2 row member
  · have lighter := lighter_step covered.read prudent (fun callId jobId same => queues ⟨callId, jobId, same⟩) taken
    exact .inl (lighter.loads row.agentId)

/-- No call is under way, and what is held and awaited is within the deposits. -/
structure Fleet.Backed (s : Fleet) : Prop where
  idle : s.calls = .empty
  within : s.committed ≤ s.deposits

theorem Fleet.Backed.covered (backed : s.Backed) : s.Covered where
  within := backed.within
  read := by
    rw [Fleet.CallsHaveRead, backed.idle]
    exact fun call member => absurd member (Table.not_mem_empty call)

theorem covered_of_run {s₀ : Fleet} {events : List (Fleet × FleetLabel)} (backed : s₀.Backed)
    (run : Run Fleet.step s₀ events s) (conforms : Conforms Prudent events) : s.Covered :=
  run.invariant _ conforms backed.covered fun _ _ _ covered prudent taken => covered.step prudent taken

/-- In prudent runs what is held and awaited stays within the deposits, and no step takes an agent above its cap. -/
theorem top_ups_solvent {s₀ : Fleet} {events : List (Fleet × FleetLabel)} (backed : s₀.Backed)
    (run : Run Fleet.step s₀ events s) (conforms : Conforms Prudent events) :
    s.committed ≤ s.deposits ∧ ∀ e ∈ events, WithinCap e.1 e.2 := by
  refine ⟨(covered_of_run backed run conforms).within, fun e member => ?_⟩
  obtain ⟨before, after, s', rfl, first, -, -⟩ := run.of_mem member
  simp only [conforms_append] at conforms
  exact (covered_of_run backed first conforms.1).withinCap (conforms.2 e (List.mem_cons_self ..))

end Run

section Example

def twoAgents : Fleet where
  orgId := 1
  agents := ⟨[⟨1, 1, .active⟩, ⟨2, 1, .active⟩], by decide⟩
  agentAllocations := ⟨[⟨1, 1, 1, 80, 0, 10, 80, .active, "operator"⟩, ⟨2, 1, 2, 80, 0, 10, 80, .active, "operator"⟩],
    by decide⟩
  agentChainWallets := ⟨[⟨1, 1, .active⟩, ⟨2, 1, .active⟩], by decide⟩
  circleProviderJobs := .empty
  ledgerPostings := []
  treasuryWallet := true
  deposits := 100
  balances := fun _ => 0
  calls := .empty
  moved := []

theorem backed_twoAgents : twoAgents.Backed := ⟨rfl, by decide⟩

def firstAllocation : AgentAllocationRow := ⟨1, 1, 1, 80, 0, 10, 80, .active, "operator"⟩

def secondAllocation : AgentAllocationRow := ⟨2, 1, 2, 80, 0, 10, 80, .active, "operator"⟩

def aboveCap (s : Fleet) (label : FleetLabel) : Bool :=
  (s.step label).any fun s' => s'.agentAllocations.rows.any fun row =>
    decide (s.load row.agentId < s'.load row.agentId) && decide (min row.ceilingUsdc row.allocatedUsdc < s'.load row.agentId)

theorem not_withinCap (s : Fleet) (label : FleetLabel) (above : aboveCap s label = true) : ¬WithinCap s label := by
  intro within
  simp only [aboveCap, Option.any_eq_true, List.any_eq_true, Bool.and_eq_true, decide_eq_true_eq] at above
  obtain ⟨s', taken, row, member, more, larger⟩ := above
  rcases within s' taken row member with less | capped
  · exact Nat.lt_irrefl _ (Nat.lt_of_lt_of_le more less)
  · exact Nat.lt_irrefl _ (Nat.lt_of_lt_of_le larger capped)

/-- One pass queues 80 for each agent against deposits of 100. A pass that read an empty wallet queues 80 for it after
another pass has funded it. -/
theorem top_ups_insolvent : twoAgents.Backed ∧
    (∃ events s, Run Fleet.step twoAgents events s ∧ s.deposits = 100 ∧ s.committed = 160) ∧
    ∃ events s, Run Fleet.step twoAgents events s ∧ ∃ e ∈ events, ¬WithinCap e.1 e.2 := by
  refine ⟨backed_twoAgents, ?_, ?_⟩
  · exact exists_run [.evaluateTopUps 1, .measure 1 firstAllocation, .enqueueTopUp 1 1, .measure 1 secondAllocation,
      .enqueueTopUp 1 2] _ (by decide)
  · obtain ⟨events, s, run, above⟩ : ∃ events s, Run Fleet.step twoAgents events s ∧
        (events.any fun e => aboveCap e.1 e.2) = true :=
      exists_run_with [.evaluateTopUps 1, .evaluateTopUps 2, .measure 1 firstAllocation, .measure 2 firstAllocation,
          .enqueueTopUp 2 1, .execute 3 1, .findWallets 3, .transfer 3 (.succeeded "0xa" 0), .complete 3, .post 3,
          .enqueueTopUp 1 2]
        (fun events _ => (events.any fun e => aboveCap e.1 e.2) = true) (by decide)
    obtain ⟨e, member, larger⟩ := List.any_eq_true.mp above
    exact ⟨events, s, run, e, member, not_withinCap _ _ larger⟩

def prudentCheck (s : Fleet) : FleetLabel → Bool
  | .commit _ => false
  | .enqueueTopUp callId _ =>
    match s.calls.find? callId with
    | some ⟨_, .measured allocation rawBalance _⟩ =>
      s.pendingTopUp allocation.agentId || decide (s.topUpMicros allocation rawBalance = 0) ||
        decide (s.balances allocation.agentId ≤ rawBalance) && decide (s.uncounted allocation.agentId = 0)
    | _ => true
  | .transfer callId _ =>
    match s.calls.find? callId with
    | some ⟨_, .executing job _⟩ => (s.circleProviderJobs.find? job.id).all s.awaits
    | _ => true
  | _ => true

theorem prudentCheck_prudent (s : Fleet) (label : FleetLabel) (checked : prudentCheck s label = true) : Prudent s label := by
  cases label with
  | commit callId => cases checked
  | enqueueTopUp callId jobId =>
    rintro ⟨id, _⟩ allocation rawBalance remaining found ⟨⟩ idle positive
    simp only [prudentCheck, found, idle, positive, decide_false, Bool.false_or, Bool.and_eq_true,
      decide_eq_true_eq] at checked
    exact ⟨checked.1, .inl checked.2⟩
  | transfer callId answer =>
    rintro ⟨id, _⟩ job found ⟨⟩ - - stored located
    simpa [prudentCheck, found, located] using checked
  | _ => trivial

/-- One agent is topped up to its allocation. -/
theorem top_up_solvent_once : ∃ s : Fleet, s.balances 1 = 80 ∧ s.committed ≤ s.deposits := by
  obtain ⟨events, s, run, conforms, funded⟩ : ∃ events s, Run Fleet.step twoAgents events s ∧ Conforms Prudent events ∧
      s.balances 1 = 80 :=
    exists_conforming_run [.evaluateTopUps 1, .measure 1 firstAllocation, .enqueueTopUp 1 1, .execute 3 1, .findWallets 3,
      .transfer 3 (.succeeded "0xa" 0), .complete 3, .post 3] prudentCheck _ prudentCheck_prudent (by decide)
  exact ⟨s, funded, (top_ups_solvent backed_twoAgents run conforms).1⟩

end Example

end AgentOps.Treasury
