import AgentOps.Treasury.Fleet

namespace AgentOps.Treasury
open Lib

/-! # Allocations and the treasury's deposits -/

def Fleet.allocated (s : Fleet) : Nat :=
  s.agentAllocations.sum fun row => if row.orgId = s.orgId ∧ row.status = .active then row.allocatedUsdc else 0

structure AgentAllocationRow.Serves (row : AgentAllocationRow) (input : SetAllocationInput) : Prop where
  active : row.status = .active
  allocated : row.allocatedUsdc = input.allocatedUsdc
  gasReserve : row.gasReserveUsdc = input.gasReserve
  lowWaterMark : row.lowWaterMarkUsdc = input.lowWaterMark
  ceiling : row.ceilingUsdc = input.ceiling

/-- A `setAllocation` that commits, and so returns, leaves its agent's row as it was asked. -/
def LeavesRequested (s : Fleet) : FleetLabel → Prop
  | .commit callId => ∀ call input row s', s.calls.find? callId = some call → call.phase = .written input row →
      s.commit callId = some s' → ∃ stored, s'.agentAllocations.find? input.agentId = some stored ∧ stored.Serves input
  | _ => True

/-- The agent's row is not a revoked one when the call commits. -/
def Unrevoked (s : Fleet) : FleetLabel → Prop
  | .commit callId => ∀ call input row stored, s.calls.find? callId = some call → call.phase = .written input row →
      s.agentAllocations.find? input.agentId = some stored → stored.status = .active
  | _ => True

def CallPhase.Knows (s : Fleet) : CallPhase → Prop
  | .priced _ deposits | .locked _ deposits => deposits = s.deposits
  | .summed input deposits committed => deposits = s.deposits ∧ committed = s.allocatedToOthers input.agentId
  | .written input row => (∃ rowId, row = s.upserted input rowId) ∧
      s.allocatedToOthers input.agentId + input.allocatedUsdc ≤ s.deposits
  | _ => True

structure Fleet.Solvent (s : Fleet) : Prop where
  within : s.allocated ≤ s.deposits
  exclusive : s.Exclusive
  calls : ∀ call ∈ s.calls, call.phase.Knows s

section Step

variable {s s' : Fleet}

theorem CallPhase.Knows.congr {phase : CallPhase} (knows : phase.Knows s) (org : s'.orgId = s.orgId)
    (deposits : s'.deposits = s.deposits) (allocations : s'.agentAllocations = s.agentAllocations) : phase.Knows s' := by
  cases phase with
  | priced | locked => exact knows.trans deposits.symm
  | summed input read committed =>
    simp only [Knows, Fleet.allocatedToOthers, org, deposits, allocations] at knows ⊢
    exact knows
  | written input row =>
    simp only [Knows, Fleet.allocatedToOthers, Fleet.upserted, org, deposits, allocations] at knows ⊢
    exact knows
  | _ => trivial

theorem Fleet.Solvent.still (solvent : s.Solvent) (exclusive : s'.Exclusive) (org : s'.orgId = s.orgId)
    (deposits : s'.deposits = s.deposits) (allocations : s'.agentAllocations = s.agentAllocations)
    (calls : ∀ call ∈ s'.calls, call ∈ s.calls ∨ call.phase.Knows s) : s'.Solvent where
  within := by
    rw [Fleet.allocated, org, deposits, allocations]
    exact solvent.within
  exclusive := exclusive
  calls := by
    intro call member
    have knows : call.phase.Knows s := (calls call member).elim (solvent.calls call) id
    exact knows.congr org deposits allocations

theorem Fleet.Solvent.put (solvent : s.Solvent) (exclusive : s'.Exclusive) (org : s'.orgId = s.orgId)
    (deposits : s'.deposits = s.deposits) (allocations : s'.agentAllocations = s.agentAllocations) {call : FleetCall}
    (calls : s'.calls = s.calls.put call) (knows : call.phase.Knows s) : s'.Solvent := by
  refine solvent.still exclusive org deposits allocations fun other member => ?_
  rw [calls] at member
  rcases Table.mem_put.mp member with ⟨before, -⟩ | ⟨rfl, -⟩
  · exact .inl before
  · exact .inr knows

theorem Fleet.Solvent.insert (solvent : s.Solvent) {calls : Table FleetCall.id} {call : FleetCall}
    (exclusive : { s with calls := calls }.Exclusive) (inserted : s.calls.insert? call = some calls)
    (knows : call.phase.Knows s) : { s with calls := calls }.Solvent := by
  refine solvent.still exclusive rfl rfl rfl fun other member => ?_
  rcases (Table.mem_insert? inserted).mp member with rfl | before
  · exact .inr knows
  · exact .inl before

theorem Fleet.Solvent.ended (solvent : s.Solvent) (exclusive : s'.Exclusive) (org : s'.orgId = s.orgId)
    (deposits : s'.deposits = s.deposits) (allocations : s'.agentAllocations = s.agentAllocations) {callId : Nat}
    (calls : s'.calls = s.calls.remove callId) : s'.Solvent := by
  refine solvent.still exclusive org deposits allocations fun call member => .inl ?_
  rw [calls] at member
  exact (Table.mem_remove.mp member).1

theorem Fleet.Solvent.rewritten (solvent : s.Solvent) (exclusive : s'.Exclusive) (deposits : s'.deposits = s.deposits)
    (within : s'.allocated ≤ s'.deposits) {callId : Nat} {call : FleetCall} (found : s.calls.find? callId = some call)
    (holds : call.phase.holdsLock = true) (calls : s'.calls = s.calls.remove callId) : s'.Solvent where
  within := within
  exclusive := exclusive
  calls := by
    intro other member
    rw [calls] at member
    have free := solvent.exclusive.left found holds member
    have knows := solvent.calls other (Table.mem_remove.mp member).1
    cases phase : other.phase with
    | priced input read =>
      rw [phase] at knows
      exact knows.trans deposits.symm
    | locked | summed | written =>
      rw [phase] at free
      cases free
    | _ => trivial

theorem Fleet.upserted_agentId (s : Fleet) (input : SetAllocationInput) (rowId : Nat) :
    (s.upserted input rowId).agentId = input.agentId := by
  unfold Fleet.upserted
  split
  · rfl
  · rename_i stored found
    show stored.agentId = input.agentId
    exact Table.key_of_find? found

theorem Fleet.upserted_allocatedUsdc (s : Fleet) (input : SetAllocationInput) (rowId : Nat) :
    (s.upserted input rowId).allocatedUsdc = input.allocatedUsdc := by
  unfold Fleet.upserted
  split <;> rfl

theorem Fleet.upserted_serves (s : Fleet) (input : SetAllocationInput) (rowId : Nat) :
    (s.upserted input rowId).Serves input ↔
      ∀ stored, s.agentAllocations.find? input.agentId = some stored → stored.status = .active := by
  unfold Fleet.upserted
  cases found : s.agentAllocations.find? input.agentId with
  | none =>
    refine ⟨fun _ => ?_, fun _ => ⟨rfl, rfl, rfl, rfl, rfl⟩⟩
    rintro stored ⟨⟩
  | some stored =>
    constructor
    · rintro serves _ ⟨⟩
      exact serves.active
    · exact fun active => ⟨active stored rfl, rfl, rfl, rfl, rfl⟩

theorem Fleet.Solvent.committed (solvent : s.Solvent) {callId : Nat} {call : FleetCall} {input : SetAllocationInput}
    {row : AgentAllocationRow} (found : s.calls.find? callId = some call) (phase : call.phase = .written input row) :
    { s.endCall callId with agentAllocations := s.agentAllocations.upsert row }.allocated ≤ s.deposits := by
  have knows := solvent.calls call (Table.mem_of_find? found)
  rw [phase] at knows
  obtain ⟨⟨rowId, rfl⟩, checked⟩ := knows
  show (s.agentAllocations.upsert (s.upserted input rowId)).sum (fun row =>
    if row.orgId = s.orgId ∧ row.status = .active then row.allocatedUsdc else 0) ≤ s.deposits
  rw [Table.sum_upsert]
  refine Nat.le_trans (Nat.add_le_add ?_ (Nat.le_of_eq (Table.sum_congr ?_))) (Nat.add_comm .. ▸ checked)
  · rw [← s.upserted_allocatedUsdc input rowId]
    split
    · exact Nat.le_refl _
    · exact Nat.zero_le _
  · intro other _
    rw [s.upserted_agentId]
    by_cases apart : other.agentId = input.agentId <;> simp [apart]

theorem Fleet.Solvent.step {label : FleetLabel} (solvent : s.Solvent) (taken : s.step label = some s') : s'.Solvent := by
  have exclusive := solvent.exclusive.step taken
  cases label with
  | setAllocation callId input =>
    obtain ⟨calls, inserted, rfl⟩ := Fleet.setAllocation_some taken
    exact solvent.insert exclusive inserted rfl
  | lock callId =>
    obtain ⟨call, found, -, ⟨input, deposits, phase, rfl⟩ | ⟨agentId, phase, rfl⟩⟩ := Fleet.lock_some taken
    all_goals have knows := solvent.calls call (Table.mem_of_find? found)
    · rw [phase] at knows
      exact solvent.put exclusive rfl rfl rfl rfl knows
    · exact solvent.put exclusive rfl rfl rfl rfl trivial
  | sumOthers callId =>
    obtain ⟨call, input, deposits, found, phase, rfl⟩ := Fleet.sumOthers_some taken
    have knows := solvent.calls call (Table.mem_of_find? found)
    rw [phase] at knows
    exact solvent.put exclusive rfl rfl rfl rfl ⟨knows, rfl⟩
  | write callId rowId =>
    obtain ⟨call, input, deposits, committed, found, phase, rfl | ⟨checked, rfl⟩⟩ := Fleet.write_some taken
    · exact solvent.ended exclusive rfl rfl rfl rfl
    · have knows := solvent.calls call (Table.mem_of_find? found)
      rw [phase] at knows
      obtain ⟨rfl, rfl⟩ := knows
      exact solvent.put exclusive rfl rfl rfl rfl ⟨⟨rowId, rfl⟩, checked⟩
  | commit callId =>
    obtain ⟨call, input, row, found, phase, rfl⟩ := Fleet.commit_some taken
    exact solvent.rewritten exclusive rfl (solvent.committed found phase) found (by rw [phase]; rfl) rfl
  | commitRevocation callId jobId =>
    obtain ⟨call, agentId, jobs, found, phase, -, rfl⟩ := Fleet.commitRevocation_some taken
    refine solvent.rewritten exclusive rfl ?_ found (by rw [phase]; rfl) rfl
    have keyed (row : AgentAllocationRow) : (Fleet.revoke row).agentId = row.agentId := by
      unfold Fleet.revoke
      split <;> rfl
    refine Nat.le_trans (Table.sum_modify_le keyed fun row => ?_) solvent.within
    unfold Fleet.revoke
    split <;> simp [*]
  | revokeAgent callId agentId =>
    obtain ⟨calls, inserted, rfl⟩ := Fleet.revokeAgent_some taken
    exact solvent.insert exclusive inserted trivial
  | evaluateTopUps callId =>
    obtain ⟨calls, inserted, rfl⟩ := Fleet.evaluateTopUps_some taken
    exact solvent.insert exclusive inserted trivial
  | measure callId allocation =>
    obtain ⟨call, remaining, -, -, -, rfl | rfl⟩ := Fleet.measure_some taken <;>
      exact solvent.put exclusive rfl rfl rfl rfl trivial
  | enqueueTopUp callId jobId =>
    obtain ⟨call, allocation, rawBalance, remaining, -, -, -, rfl | ⟨jobs, -, -, -, rfl⟩⟩ := Fleet.enqueueTopUp_some taken <;>
      exact solvent.put exclusive rfl rfl rfl rfl trivial
  | execute callId jobId =>
    obtain ⟨job, calls, -, -, -, inserted, rfl⟩ := Fleet.execute_some taken
    exact solvent.insert exclusive inserted trivial
  | findWallets callId =>
    obtain ⟨call, job, -, -, rfl⟩ := Fleet.findWallets_some taken
    exact solvent.put exclusive rfl rfl rfl rfl trivial
  | transfer callId answer =>
    obtain ⟨call, job, agentId, -, -, -, cases⟩ := Fleet.transfer_some taken
    obtain ⟨transactionId, gas, -, rfl⟩ | ⟨error, gas, -, rfl⟩ | ⟨error, rfl⟩ | ⟨-, rfl⟩ := cases <;>
      exact solvent.put exclusive rfl rfl rfl rfl trivial
  | markSwept callId =>
    obtain ⟨call, job, amount, providerRef, agentId, -, -, -, rfl⟩ := Fleet.markSwept_some taken
    exact solvent.put exclusive rfl rfl rfl rfl trivial
  | complete callId =>
    obtain ⟨call, job, amount, providerRef, -, -, rfl⟩ := Fleet.complete_some taken
    exact solvent.put exclusive rfl rfl rfl rfl trivial
  | post callId =>
    obtain ⟨call, job, amount, agentId, -, -, rfl⟩ := Fleet.post_some taken
    exact solvent.ended exclusive rfl rfl rfl rfl
  | throw callId errorCode =>
    obtain ⟨call, job, phase, -, -, -, rfl⟩ := Fleet.throw_some taken
    exact solvent.put exclusive rfl rfl rfl rfl trivial
  | recordFailure callId =>
    obtain ⟨call, job, errorCode, -, -, rfl⟩ := Fleet.recordFailure_some taken
    exact solvent.ended exclusive rfl rfl rfl rfl
  | abandon callId =>
    obtain rfl := Option.some.inj taken
    exact solvent.ended exclusive rfl rfl rfl rfl

theorem Fleet.Solvent.leavesRequested_iff {label : FleetLabel} (solvent : s.Solvent) :
    LeavesRequested s label ↔ Unrevoked s label := by
  cases label with
  | commit callId =>
    have written (call : FleetCall) (input : SetAllocationInput) (row : AgentAllocationRow)
        (found : s.calls.find? callId = some call) (phase : call.phase = .written input row) :
        s.commit callId = some { s.endCall callId with agentAllocations := s.agentAllocations.upsert row } ∧
          (s.agentAllocations.upsert row).find? input.agentId = some row ∧
          (row.Serves input ↔ ∀ stored, s.agentAllocations.find? input.agentId = some stored → stored.status = .active) := by
      have knows := solvent.calls call (Table.mem_of_find? found)
      rw [phase] at knows
      obtain ⟨⟨rowId, rfl⟩, -⟩ := knows
      refine ⟨by simp [Fleet.commit, found, phase], ?_, s.upserted_serves input rowId⟩
      rw [← s.upserted_agentId input rowId]
      exact Table.find?_upsert_self ..
    constructor
    · intro leaves call input row stored found phase located
      obtain ⟨committed, here, serves⟩ := written call input row found phase
      obtain ⟨after, found', holds⟩ := leaves call input row _ found phase committed
      obtain rfl := Option.some.inj (here.symm.trans found')
      exact serves.mp holds stored located
    · intro unrevoked call input row s' found phase committed
      obtain ⟨committed', here, serves⟩ := written call input row found phase
      obtain rfl := Option.some.inj (committed'.symm.trans committed)
      exact ⟨row, here, serves.mpr fun stored located => unrevoked call input row stored found phase located⟩
  | _ => exact Iff.rfl

end Step

structure Fleet.Funded (s : Fleet) : Prop where
  idle : s.calls = .empty
  within : s.allocated ≤ s.deposits

theorem Fleet.Funded.solvent {s : Fleet} (funded : s.Funded) : s.Solvent where
  within := funded.within
  exclusive := by
    rw [Fleet.Exclusive, funded.idle]
    exact fun call member => absurd member (Table.not_mem_empty call)
  calls := by
    rw [funded.idle]
    exact fun call member => absurd member (Table.not_mem_empty call)

theorem solvent_of_run {s₀ s : Fleet} {events : List (Fleet × FleetLabel)} (funded : s₀.Funded)
    (run : Run Fleet.step s₀ events s) : s.Solvent :=
  run.always _ funded.solvent fun _ _ _ solvent taken => solvent.step taken

/-- The active allocations stay within the deposits in every run, and every `setAllocation` leaves what it was asked
exactly where none commits over a revoked row. -/
theorem allocation_solvent_iff {s₀ s : Fleet} {events : List (Fleet × FleetLabel)} (funded : s₀.Funded)
    (run : Run Fleet.step s₀ events s) :
    s.allocated ≤ s.deposits ∧ (Conforms LeavesRequested events ↔ Conforms Unrevoked events) := by
  refine ⟨(solvent_of_run funded run).within, ?_⟩
  have agree (e : Fleet × FleetLabel) (member : e ∈ events) : LeavesRequested e.1 e.2 ↔ Unrevoked e.1 e.2 := by
    obtain ⟨before, after, s', -, first, -, -⟩ := run.of_mem member
    exact (solvent_of_run funded first).leavesRequested_iff
  exact ⟨fun leaves e member => (agree e member).mp (leaves e member),
    fun unrevoked e member => (agree e member).mpr (unrevoked e member)⟩

section Example

def smallFleet : Fleet where
  orgId := 1
  agents := .singleton ⟨1, 1, .active⟩
  agentAllocations := .singleton ⟨1, 1, 1, 40, 0, 10, 40, .active, "operator"⟩
  agentChainWallets := .singleton ⟨1, 1, .active⟩
  circleProviderJobs := .empty
  ledgerPostings := []
  treasuryWallet := true
  deposits := 100
  balances := fun _ => 0
  calls := .empty
  moved := []

theorem funded_smallFleet : smallFleet.Funded := ⟨rfl, by decide⟩

def raise : SetAllocationInput := ⟨1, 60, none, none, none, "operator"⟩

def overRevoked (s : Fleet) : FleetLabel → Bool
  | .commit callId =>
    match s.calls.find? callId with
    | some ⟨_, .written input _⟩ => (s.agentAllocations.find? input.agentId).any (·.status = .revoked)
    | _ => false
  | _ => false

theorem overRevoked_revoked (s : Fleet) (label : FleetLabel) (overrides : overRevoked s label = true) :
    ¬Unrevoked s label := by
  cases label with
  | commit callId =>
    intro unrevoked
    simp only [overRevoked] at overrides
    split at overrides
    · rename_i id input row found
      simp only [Option.any_eq_true] at overrides
      obtain ⟨stored, located, revoked⟩ := overrides
      have active := unrevoked _ input row stored found rfl located
      rw [decide_eq_true_eq, active] at revoked
      cases revoked
    · cases overrides
  | _ => cases overrides

/-- `setAllocation` after a revocation returns, and the row is still revoked. -/
theorem allocation_not_restored : smallFleet.Funded ∧ ∃ events s, Run Fleet.step smallFleet events s ∧
    (s.agentAllocations.find? 1).map (fun row => (row.allocatedUsdc, row.status)) = some (60, .revoked) ∧
    ¬Conforms LeavesRequested events := by
  refine ⟨funded_smallFleet, ?_⟩
  obtain ⟨events, s, run, row, commits⟩ : ∃ events s, Run Fleet.step smallFleet events s ∧
      (s.agentAllocations.find? 1).map (fun row => (row.allocatedUsdc, row.status)) = some (60, .revoked) ∧
      (events.any fun e => overRevoked e.1 e.2) = true :=
    exists_run_with [.revokeAgent 1 1, .lock 1, .commitRevocation 1 1, .setAllocation 2 raise, .lock 2, .sumOthers 2,
        .write 2 2, .commit 2]
      (fun events s => (s.agentAllocations.find? 1).map (fun row => (row.allocatedUsdc, row.status)) = some (60, .revoked) ∧
        (events.any fun e => overRevoked e.1 e.2) = true) (by decide)
  refine ⟨events, s, run, row, fun leaves => ?_⟩
  obtain ⟨e, member, overrides⟩ := List.any_eq_true.mp commits
  obtain ⟨before, after, s', -, first, -, -⟩ := run.of_mem member
  have unrevoked := (solvent_of_run funded_smallFleet first).leavesRequested_iff.mp (leaves e member)
  exact overRevoked_revoked e.1 e.2 overrides unrevoked

/-- A run whose only `setAllocation` commits before the revocation -/
theorem allocation_raised : ∃ events s, Run Fleet.step smallFleet events s ∧ s.allocated = 60 ∧
    (Conforms LeavesRequested events ↔ Conforms Unrevoked events) := by
  obtain ⟨events, s, run, allocated⟩ : ∃ events s, Run Fleet.step smallFleet events s ∧ s.allocated = 60 :=
    exists_run [.setAllocation 1 raise, .lock 1, .sumOthers 1, .write 1 2, .commit 1] _ (by decide)
  exact ⟨events, s, run, allocated, (allocation_solvent_iff funded_smallFleet run).2⟩

end Example

end AgentOps.Treasury
