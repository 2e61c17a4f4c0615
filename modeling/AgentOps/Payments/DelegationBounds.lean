import AgentOps.Payments.DelegationAccounts

namespace AgentOps.Payments
open Lib Identity

/-! # The bounds on what a payer delegates -/

variable {s s' : DelegationWorld} {call : DelegationCall} {id : Nat} {scope : PayerScope} {kind : PayerKind}
  {db : DelegationDb} {now : Time}

def payerHeadroom (db : DelegationDb) (now : Time) (orgId : OrgId) (payer : Address) (network : Network) : Nat :=
  db.delegations.sum fun row =>
    if row.org_id = orgId ∧ row.payer_address = payer ∧ (row.mode, row.chain) = network then row.headroom now else 0

namespace DelegationWorld

def outstanding (s : DelegationWorld) (scope : PayerScope) : Nat := outstandingHeadroomMicros s.db s.now scope

def approved (s : DelegationWorld) (scope : PayerScope) : Nat :=
  s.chain.approval ((scope.mode, scope.chain), scope.payerAddress.account, scope.tokenAddress.account)

def GrantsFor (s : DelegationWorld) (scope : PayerScope) (kind : PayerKind) (input : RecordSignedDelegationInput) : Prop :=
  ∃ payer, input.resolve s.db = .ok payer ∧ input.scope payer = scope ∧ payer.payerKind = kind

/-- The payer's grants run one at a time, and no transaction lands once its call has given up on it. -/
def OneAtATime (scope : PayerScope) (kind : PayerKind) (s : DelegationWorld) : DelegationLabel → Prop
  | .call _ request => s.calls = .empty ∧ ∃ input, request = .recordSignedDelegation input ∧ s.GrantsFor scope kind input
  | .land _ => False
  | _ => True

end DelegationWorld

/-- With `extra` on top, what is outstanding stays within the treasury's bounds. -/
structure Bounded (s : DelegationWorld) (scope : PayerScope) (kind : PayerKind) (balance : Option Nat) (extra : Nat) : Prop where
  ceiling : kind = .treasury → ∀ ceiling, orgCeilingMicros s.db scope.orgId (scope.mode, scope.chain) = some ceiling →
    s.outstanding scope + extra ≤ ceiling
  balance : kind = .treasury → ∃ b, balance = some b ∧ s.outstanding scope + extra ≤ b

def Established (s : DelegationWorld) (scope : PayerScope) (kind : PayerKind) (input : RecordSignedDelegationInput) :
    GrantPhase → Prop
  | .payer => s.GrantsFor scope kind input
  | .outstanding payer => input.scope payer = scope ∧ payer.payerKind = kind
  | .orgCeiling payer total =>
    (input.scope payer = scope ∧ payer.payerKind = kind) ∧ s.outstanding scope + input.ceilingUsdc ≤ total
  | .balance payer total =>
    (input.scope payer = scope ∧ payer.payerKind = kind) ∧ s.outstanding scope + input.ceilingUsdc ≤ total ∧
      ∀ ceiling, orgCeilingMicros s.db scope.orgId (scope.mode, scope.chain) = some ceiling → total ≤ ceiling
  | .nonce payer balance | .approval payer balance _ =>
    (input.scope payer = scope ∧ payer.payerKind = kind) ∧ Bounded s scope kind balance input.ceilingUsdc
  | .approve payer balance _ approvalMicros =>
    (input.scope payer = scope ∧ payer.payerKind = kind) ∧ Bounded s scope kind balance input.ceilingUsdc ∧
      s.outstanding scope + input.ceilingUsdc ≤ approvalMicros
  | .submitter payer balance _ | .permit payer balance _ | .insert payer balance _ =>
    (input.scope payer = scope ∧ payer.payerKind = kind) ∧ Bounded s scope kind balance input.ceilingUsdc ∧
      s.outstanding scope + input.ceilingUsdc ≤ s.approved scope

/-- After a grant, what is outstanding is approved and within the bounds that the last grant was checked against. -/
def Settled (s : DelegationWorld) (scope : PayerScope) (kind : PayerKind) : Prop :=
  s.returned ≠ [] → s.outstanding scope ≤ s.approved scope ∧
    ∃ row balance earlier, s.returned = .granted row balance :: earlier ∧ Bounded s scope kind balance 0

structure Regular (scope : PayerScope) (kind : PayerKind) (s : DelegationWorld) : Prop where
  settled : Settled s scope kind
  single : ∀ call ∈ s.calls, ∀ other ∈ s.calls, call = other
  began : ∀ call ∈ s.calls, call.began ≤ s.now
  grants : ∀ call ∈ s.calls, ∃ input phase, call.work = .recordSignedDelegation input phase ∧ input.userSigned = none ∧
    Established s scope kind input phase

theorem outstanding_later {later : Time} (after : now ≤ later) :
    outstandingHeadroomMicros db later scope ≤ outstandingHeadroomMicros db now scope := by
  refine Table.sum_mono fun row _ => ?_
  split
  · exact row.headroom_later after
  · exact le_rfl

structure Eases (scope : PayerScope) (s s' : DelegationWorld) : Prop where
  db : s'.db = s.db
  outstanding : s'.outstanding scope ≤ s.outstanding scope
  approved : s.approved scope ≤ s'.approved scope

theorem Bounded.eases {balance : Option Nat} {extra : Nat} (bounded : Bounded s scope kind balance extra)
    (eases : Eases scope s s') : Bounded s' scope kind balance extra where
  ceiling treasury ceiling configured := by
    rw [eases.db] at configured
    exact (Nat.add_le_add_right eases.outstanding _).trans (bounded.ceiling treasury ceiling configured)
  balance treasury := by
    obtain ⟨b, same, within⟩ := bounded.balance treasury
    exact ⟨b, same, (Nat.add_le_add_right eases.outstanding _).trans within⟩

theorem Established.eases {input : RecordSignedDelegationInput} {phase : GrantPhase}
    (established : Established s scope kind input phase) (eases : Eases scope s s') :
    Established s' scope kind input phase := by
  have less := eases.outstanding
  have more := eases.approved
  cases phase with
  | payer =>
    obtain ⟨payer, resolved, rest⟩ := established
    exact ⟨payer, eases.db ▸ resolved, rest⟩
  | outstanding payer => exact established
  | orgCeiling payer total => exact ⟨established.1, (Nat.add_le_add_right less _).trans established.2⟩
  | balance payer total =>
    obtain ⟨mine, within, capped⟩ := established
    exact ⟨mine, (Nat.add_le_add_right less _).trans within, eases.db ▸ capped⟩
  | nonce payer balance => exact ⟨established.1, established.2.eases eases⟩
  | approval payer balance nonce => exact ⟨established.1, established.2.eases eases⟩
  | approve payer balance nonce approvalMicros =>
    obtain ⟨mine, bounded, within⟩ := established
    exact ⟨mine, bounded.eases eases, (Nat.add_le_add_right less _).trans within⟩
  | submitter payer balance nonce =>
    obtain ⟨mine, bounded, within⟩ := established
    exact ⟨mine, bounded.eases eases, (Nat.add_le_add_right less _).trans (within.trans more)⟩
  | permit payer balance nonce =>
    obtain ⟨mine, bounded, within⟩ := established
    exact ⟨mine, bounded.eases eases, (Nat.add_le_add_right less _).trans (within.trans more)⟩
  | insert payer balance nonce =>
    obtain ⟨mine, bounded, within⟩ := established
    exact ⟨mine, bounded.eases eases, (Nat.add_le_add_right less _).trans (within.trans more)⟩

theorem Settled.eases (settled : Settled s scope kind) (eases : Eases scope s s') (same : s'.returned = s.returned) :
    Settled s' scope kind := by
  intro returned
  rw [same] at returned ⊢
  obtain ⟨within, row, balance, earlier, last, bounded⟩ := settled returned
  exact ⟨eases.outstanding.trans (within.trans eases.approved), row, balance, earlier, last, bounded.eases eases⟩

theorem resolve_platform {input : RecordSignedDelegationInput} {payer : Payer} (resolved : input.resolve db = .ok payer)
    (platform : payer.payerKind ≠ .user) : input.userSigned = none := by
  cases signed : input.userSigned with
  | none => rfl
  | some user =>
    unfold RecordSignedDelegationInput.resolve at resolved
    rw [RecordSignedDelegationInput.payer, signed] at resolved
    simp only at resolved
    split at resolved
    · cases resolved
    · obtain rfl := Except.ok.inj resolved
      exact (platform rfl).elim

theorem GrantAdvance.established {answer : Nat} {input : RecordSignedDelegationInput} {phase phase' : GrantPhase}
    (platform : input.userSigned = none) (began : call.began ≤ s.now)
    (advance : GrantAdvance s.db call.began answer input phase phase') (established : Established s scope kind input phase) :
    Established s scope kind input phase' := by
  have sum {payer : Payer} (mine : input.scope payer = scope) : s.outstanding scope + input.ceilingUsdc ≤
      outstandingHeadroomMicros s.db call.began (input.scope payer) + input.ceilingUsdc := by
    rw [mine]
    exact Nat.add_le_add_right (outstanding_later began) _
  cases advance with
  | @resolved payer resolved =>
    obtain ⟨other, same, mine⟩ := established
    obtain rfl := Except.ok.inj (resolved.symm.trans same)
    by_cases treasury : payer.payerKind = .treasury
    · rw [if_pos treasury]
      exact mine
    · rw [if_neg treasury]
      exact ⟨mine, fun is => (treasury (mine.2.trans is)).elim, fun is => (treasury (mine.2.trans is)).elim⟩
  | summed => exact ⟨established, sum established.1⟩
  | capped capped =>
    obtain ⟨mine, within⟩ := established
    refine ⟨mine, within, ?_⟩
    obtain ⟨rfl, -⟩ := mine
    exact capped
  | solvent solvent =>
    obtain ⟨mine, within, capped⟩ := established
    refine ⟨mine, fun _ ceiling configured => within.trans (capped ceiling configured), fun _ => ⟨answer, rfl, ?_⟩⟩
    exact within.trans solvent
  | signed user =>
    rw [platform] at user
    cases user
  | nonce => exact established
  | approval =>
    obtain ⟨mine, bounded⟩ := established
    exact ⟨mine, bounded, sum mine.1⟩
  | submitter => exact established

theorem granted_outstanding {input : RecordSignedDelegationInput} {payer : Payer} {nonce : Nat} {db' : DelegationDb}
    (inserted : insertDelegation db (delegationRow id input payer nonce) = .ok db') :
    outstandingHeadroomMicros db' now scope ≤ outstandingHeadroomMicros db now scope + input.ceilingUsdc ∧
      db'.ceilings = db.ceilings := by
  obtain ⟨delegations, fresh, rfl⟩ := insertDelegation_ok inserted
  refine ⟨?_, rfl⟩
  have total : outstandingHeadroomMicros { db with delegations } now scope =
      _ + outstandingHeadroomMicros db now scope := Table.sum_insert? _ fresh
  have mine : (delegationRow id input payer nonce).headroom now ≤ input.ceilingUsdc := by
    unfold AgentDelegationRow.headroom
    split
    · exact Nat.sub_le _ _
    · exact Nat.zero_le _
  rw [total, Nat.add_comm]
  refine Nat.add_le_add_left ?_ _
  split
  · exact mine
  · exact Nat.zero_le _

namespace Regular

theorem sub (regular : Regular scope kind s) (eases : Eases scope s s') (same : s'.returned = s.returned)
    (later : s.now ≤ s'.now) (sub : ∀ call ∈ s'.calls, call ∈ s.calls) : Regular scope kind s' where
  settled := regular.settled.eases eases same
  single call member other member' := regular.single call (sub call member) other (sub other member')
  began call member := (regular.began call (sub call member)).trans later
  grants call member := by
    obtain ⟨input, phase, doing, platform, established⟩ := regular.grants call (sub call member)
    exact ⟨input, phase, doing, platform, established.eases eases⟩

theorem commit {result : DelegationResult} (regular : Regular scope kind s) (found : s.calls.find? id = some call)
    (commit : DelegationCommit s call.id call.work db result) :
    Regular scope kind { s.dropped id with db, returned := result :: s.returned } := by
  have member := Table.mem_of_find? found
  have empty : ∀ other, other ∉ s.calls.remove id := by
    intro other inside
    obtain ⟨inside, apart⟩ := Table.mem_remove.mp inside
    rw [regular.single other inside call member] at apart
    exact apart (Table.key_of_find? found)
  refine ⟨?_, fun other inside => (empty other inside).elim, fun other inside => (empty other inside).elim,
    fun other inside => (empty other inside).elim⟩
  obtain ⟨input, phase, doing, -, established⟩ := regular.grants call member
  rw [doing] at commit
  cases commit with
  | @granted _ payer balance nonce _ inserted =>
    obtain ⟨-, bounded, within⟩ := established
    obtain ⟨more, ceilings⟩ : outstandingHeadroomMicros db s.now scope ≤ s.outstanding scope + input.ceilingUsdc ∧
      db.ceilings = s.db.ceilings := granted_outstanding inserted
    intro _
    refine ⟨more.trans within, _, balance, _, rfl, ?_, ?_⟩
    · intro treasury ceiling configured
      refine more.trans (bounded.ceiling treasury ceiling ?_)
      rw [← configured]
      simp only [orgCeilingMicros, ceilings]
    · intro treasury
      obtain ⟨b, same, solvent⟩ := bounded.balance treasury
      exact ⟨b, same, more.trans solvent⟩

theorem put {work : DelegationWork} {input : RecordSignedDelegationInput} {phase : GrantPhase} {chain : Permit2Chain}
    (regular : Regular scope kind s) (found : s.calls.find? id = some call)
    (settled : Settled { s.continued call work with chain } scope kind) (doing : work = .recordSignedDelegation input phase)
    (platform : input.userSigned = none)
    (established : Established { s.continued call work with chain } scope kind input phase) :
    Regular scope kind { s.continued call work with chain } := by
  have only : ∀ other ∈ s.calls.put { call with work }, other = { call with work } := by
    intro other inside
    rcases Table.mem_put.mp inside with ⟨inside, apart⟩ | ⟨same, -⟩
    · rw [regular.single other inside call (Table.mem_of_find? found)] at apart
      exact (apart rfl).elim
    · exact same
  refine ⟨settled, ?_, ?_, ?_⟩
  · intro first inside second inside'
    rw [only first inside, only second inside']
  · intro other inside
    rw [only other inside]
    exact regular.began call (Table.mem_of_find? found)
  · intro other inside
    rw [only other inside]
    exact ⟨input, phase, doing, platform, established⟩

theorem confirm {transaction : ChainTransaction} {txHash : Hash} {chain : Permit2Chain} (regular : Regular scope kind s)
    (found : s.calls.find? id = some call) (sends : call.work.sends = some transaction)
    (landed : s.chain.apply s.now transaction = some chain) :
    Regular scope kind { s.continued call (call.work.confirmed txHash) with chain } := by
  obtain ⟨input, phase, doing, platform, established⟩ := regular.grants call (Table.mem_of_find? found)
  rw [doing] at sends ⊢
  cases phase with
  | approve payer balance nonce approvalMicros =>
    obtain rfl := Option.some.inj sends
    obtain rfl := Option.some.inj landed
    obtain ⟨⟨rfl, mine⟩, bounded, within⟩ := established
    let key := (input.network, payer.payerAddress.account, payer.tokenAddress.account)
    have approved : Function.update s.chain.approval key approvalMicros key = approvalMicros := Function.update_self _ _ _
    refine regular.put found ?_ rfl platform ?_
    · intro returned
      obtain ⟨-, row, balance, earlier, last, bounded⟩ := regular.settled returned
      refine ⟨?_, row, balance, earlier, last, bounded.ceiling, bounded.balance⟩
      refine ((Nat.le_add_right _ _).trans within).trans_eq ?_
      exact approved.symm
    · refine ⟨⟨rfl, mine⟩, ⟨bounded.ceiling, bounded.balance⟩, within.trans_eq ?_⟩
      exact approved.symm
  | permit payer balance nonce =>
    obtain rfl := Option.some.inj sends
    have eases (work : DelegationWork) : Eases scope s { s.continued call work with chain } := by
      refine ⟨rfl, le_rfl, ?_⟩
      rw [Permit2Chain.apply] at landed
      split_ifs at landed
      obtain rfl := Option.some.inj landed
      exact le_rfl
    refine regular.put found (regular.settled.eases (eases _) rfl) rfl platform ?_
    exact (show Established s scope kind input (.insert payer balance nonce) from established).eases (eases _)
  | _ => cases sends

theorem step {label : DelegationLabel} (user : kind ≠ .user) (regular : Regular scope kind s)
    (alone : s.OneAtATime scope kind label) (move : DelegationMove s label s') : Regular scope kind s' := by
  cases move with
  | pass after => exact regular.sub ⟨rfl, outstanding_later after, le_rfl⟩ rfl after fun _ member => member
  | @call id request calls unused begun =>
    obtain ⟨empty, input, rfl, payer, resolved, mine⟩ := alone
    have eases : Eases scope s { s with calls } := ⟨rfl, le_rfl, le_rfl⟩
    have only : ∀ other ∈ calls, other = ⟨id, s.now, .recordSignedDelegation input .payer⟩ := by
      intro other inside
      rcases (Table.mem_insert? begun).mp inside with same | inside
      · exact same
      · rw [empty] at inside
        exact (Table.not_mem_empty _ inside).elim
    refine ⟨regular.settled.eases eases rfl, ?_, ?_, ?_⟩
    · intro first inside second inside'
      rw [only first inside, only second inside']
    · intro other inside
      rw [only other inside]
    · intro other inside
      rw [only other inside]
      exact ⟨input, .payer, rfl, resolve_platform resolved (mine.2 ▸ user), payer, resolved, mine⟩
  | @goOn id answer call work found stated =>
    have member := Table.mem_of_find? found
    obtain ⟨input, phase, doing, platform, established⟩ := regular.grants call member
    have advance := advance_of_statement stated
    rw [doing] at advance
    cases advance with
    | @grant _ _ phase' advance =>
      have next := advance.established platform (regular.began call member) established
      have eases : Eases scope s { s.continued call (.recordSignedDelegation input phase') with chain := s.chain } :=
        ⟨rfl, le_rfl, le_rfl⟩
      exact regular.put found (regular.settled.eases eases rfl) rfl platform (next.eases eases)
  | failed => exact regular.sub ⟨rfl, le_rfl, le_rfl⟩ rfl le_rfl fun _ inside => (Table.mem_remove.mp inside).1
  | committed found stated => exact regular.commit found (commit_of_statement stated)
  | confirm found sends landed => exact regular.confirm found sends landed
  | abandon => exact regular.sub ⟨rfl, le_rfl, le_rfl⟩ rfl le_rfl fun _ inside => (Table.mem_remove.mp inside).1
  | fail => exact regular.sub ⟨rfl, le_rfl, le_rfl⟩ rfl le_rfl fun _ inside => (Table.mem_remove.mp inside).1
  | land => exact alone.elim

end Regular

/-- When the payer's grants run one at a time, what it has outstanding in a token is approved, and for the treasury within
the org's ceiling and the balance read for the last grant that succeeded. -/
theorem sequential_grants_bounded {s₀ : DelegationWorld} {events : List (DelegationWorld × DelegationLabel)}
    (platform : kind ≠ .user) (idle : s₀.calls = .empty) (nothing : s₀.returned = []) (run : Run delegationStep s₀ events s)
    (alone : Conforms (DelegationWorld.OneAtATime scope kind) events) (granted : s.returned ≠ []) :
    outstandingHeadroomMicros s.db s.now scope ≤ s.approved scope ∧
      (kind = .treasury →
        (∀ ceiling, orgCeilingMicros s.db scope.orgId (scope.mode, scope.chain) = some ceiling →
          outstandingHeadroomMicros s.db s.now scope ≤ ceiling) ∧
        ∃ row balance earlier, s.returned = .granted row (some balance) :: earlier ∧
          outstandingHeadroomMicros s.db s.now scope ≤ balance) := by
  have initial : Regular scope kind s₀ := by
    refine ⟨fun returned => (returned nothing).elim, ?_, ?_, ?_⟩ <;> simp [idle]
  have regular : Regular scope kind s := run.invariant (Regular scope kind) alone initial
    fun _ _ _ regular alone taken => regular.step platform alone (move_of_step taken)
  obtain ⟨approved, row, balance, earlier, last, bounded⟩ := regular.settled granted
  refine ⟨approved, fun treasury => ⟨bounded.ceiling treasury, ?_⟩⟩
  obtain ⟨b, rfl, solvent⟩ := bounded.balance treasury
  exact ⟨row, b, earlier, last, solvent⟩

namespace DelegationWorkspace

def network : Network := (.test, .base)

def usdc : Address := ⟨0x036CbD53842c5426634e7929541eC2318f3dCF7e, 0⟩

def treasury : PayerScope := ⟨1, ⟨10, 0⟩, .test, .base, usdc⟩

def toOther (ceilingUsdc : Nat) : RecordSignedDelegationInput := { input true ceilingUsdc with payeeAddress := ⟨21, 0⟩ }

def checks (id : Nat) (input : RecordSignedDelegationInput) : List DelegationLabel :=
  [.call id (.recordSignedDelegation input), .statement id 0, .statement id 0, .statement id 0, .statement id 100,
    .statement id 0, .statement id 0]

def permits (id : Nat) : List DelegationLabel := [.statement id 0, .confirm id "0xb", .statement id 0]

def treasuryGrant (id : Nat) (input : RecordSignedDelegationInput) : List DelegationLabel :=
  checks id input ++ [.confirm id "0xa"] ++ permits id

def exceeds (payer : Address) (s : DelegationWorld) : Bool :=
  s.calls.rows.isEmpty && (orgCeilingMicros s.db 1 network).any (· < payerHeadroom s.db s.now 1 payer network)

def oneAtATime (s : DelegationWorld) : DelegationLabel → Bool
  | .call _ (.recordSignedDelegation input) => s.calls.rows.isEmpty &&
      match input.resolve s.db with
      | .ok payer => input.scope payer = treasury ∧ payer.payerKind = .treasury
      | .error _ => false
  | .call _ _ | .land _ => false
  | _ => true

theorem alone_of_oneAtATime {s : DelegationWorld} {label : DelegationLabel} (checked : oneAtATime s label = true) :
    s.OneAtATime treasury .treasury label := by
  cases label with
  | call id request =>
    cases request with
    | recordSignedDelegation input =>
      rw [oneAtATime, Bool.and_eq_true] at checked
      obtain ⟨empty, grants⟩ := checked
      refine ⟨Table.ext_rows (List.isEmpty_iff.mp empty), input, rfl, ?_⟩
      split at grants
      · rename_i payer resolved
        exact ⟨payer, resolved, of_decide_eq_true grants⟩
      · cases grants
    | _ => cases checked
  | land => cases checked
  | _ => trivial

end DelegationWorkspace

def ExceedsCeiling (s : DelegationWorld) (payer : Address) : Prop :=
  s.calls = .empty ∧ ∃ ceiling, orgCeilingMicros s.db 1 DelegationWorkspace.network = some ceiling ∧
    ceiling < payerHeadroom s.db s.now 1 payer DelegationWorkspace.network

theorem exceedsCeiling_of_exceeds {payer : Address} (exceeds : DelegationWorkspace.exceeds payer s = true) :
    ExceedsCeiling s payer := by
  rw [DelegationWorkspace.exceeds, Bool.and_eq_true] at exceeds
  obtain ⟨ceiling, configured, exceeded⟩ := (Option.any_eq_true _ _).mp exceeds.2
  exact ⟨Table.ext_rows (List.isEmpty_iff.mp exceeds.1), ceiling, configured, of_decide_eq_true exceeded⟩

/-- One grant of an agent's exceeds the ceiling, two grants of the treasury's in two tokens do, and two that overlap: each
is checked against the other's headroom before it is there, and the second approval replaces the first. -/
theorem delegations_exceed_ceiling :
    (∃ events s, Run delegationStep DelegationWorkspace.world events s ∧ ExceedsCeiling s ⟨11, 0⟩) ∧
      (∃ events s, Run delegationStep DelegationWorkspace.world events s ∧ ExceedsCeiling s ⟨10, 0⟩) ∧
      ∃ events s, Run delegationStep DelegationWorkspace.world events s ∧ ExceedsCeiling s ⟨10, 0⟩ ∧
        s.approved DelegationWorkspace.treasury < s.outstanding DelegationWorkspace.treasury := by
  refine ⟨?_, ?_, ?_⟩
  · obtain ⟨events, s, run, exceeds⟩ : ∃ events s, Run delegationStep DelegationWorkspace.world events s ∧
        DelegationWorkspace.exceeds ⟨11, 0⟩ s = true :=
      exists_run (DelegationWorkspace.agentGrant 1 12 0)
        (fun s => DelegationWorkspace.exceeds ⟨11, 0⟩ s = true) (by decide)
    exact ⟨events, s, run, exceedsCeiling_of_exceeds exceeds⟩
  · obtain ⟨events, s, run, exceeds⟩ : ∃ events s, Run delegationStep DelegationWorkspace.world events s ∧
        DelegationWorkspace.exceeds ⟨10, 0⟩ s = true :=
      exists_run (DelegationWorkspace.treasuryGrant 1 (DelegationWorkspace.input true 6) ++
        DelegationWorkspace.treasuryGrant 2 { DelegationWorkspace.input true 6 with tokenAddress := some ⟨99, 0⟩ })
        (fun s => DelegationWorkspace.exceeds ⟨10, 0⟩ s = true) (by decide)
    exact ⟨events, s, run, exceedsCeiling_of_exceeds exceeds⟩
  · obtain ⟨events, s, run, exceeds, stripped⟩ : ∃ events s, Run delegationStep DelegationWorkspace.world events s ∧
        DelegationWorkspace.exceeds ⟨10, 0⟩ s = true ∧
        s.approved DelegationWorkspace.treasury < s.outstanding DelegationWorkspace.treasury :=
      exists_run (DelegationWorkspace.checks 1 (DelegationWorkspace.input true 6) ++
        DelegationWorkspace.checks 2 (DelegationWorkspace.toOther 6) ++ [.confirm 1 "0xa", .confirm 2 "0xa"] ++
        DelegationWorkspace.permits 1 ++ DelegationWorkspace.permits 2)
        (fun s => DelegationWorkspace.exceeds ⟨10, 0⟩ s = true ∧
          s.approved DelegationWorkspace.treasury < s.outstanding DelegationWorkspace.treasury) (by decide)
    exact ⟨events, s, run, exceedsCeiling_of_exceeds exceeds, stripped⟩

theorem two_grants_bounded : ∃ events s, Run delegationStep DelegationWorkspace.world events s ∧
    s.outstanding DelegationWorkspace.treasury = 10 ∧ 10 ≤ s.approved DelegationWorkspace.treasury := by
  obtain ⟨events, s, run, alone, granted, sum⟩ : ∃ events s, Run delegationStep DelegationWorkspace.world events s ∧
      Conforms (DelegationWorld.OneAtATime DelegationWorkspace.treasury .treasury) events ∧ s.returned ≠ [] ∧
        s.outstanding DelegationWorkspace.treasury = 10 :=
    exists_conforming_run (DelegationWorkspace.treasuryGrant 1 (DelegationWorkspace.input true 6) ++
      DelegationWorkspace.treasuryGrant 2 (DelegationWorkspace.toOther 4)) DelegationWorkspace.oneAtATime
      (fun s => s.returned ≠ [] ∧ s.outstanding DelegationWorkspace.treasury = 10)
      (fun _ _ => DelegationWorkspace.alone_of_oneAtATime) (by decide)
  have bounded := sequential_grants_bounded (by decide) rfl rfl run alone granted
  exact ⟨events, s, run, sum, sum ▸ bounded.1⟩

end AgentOps.Payments
