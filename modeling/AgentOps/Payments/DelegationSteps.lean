import AgentOps.Lib.Transition
import AgentOps.Payments.DelegationCalls

namespace AgentOps.Payments
open Lib Identity

/-! # What the delegation calls do, step by step -/

variable {s s' : DelegationWorld} {call : DelegationCall} {id answer : Nat} {db : DelegationDb}

inductive DelegationMove (s : DelegationWorld) : DelegationLabel → DelegationWorld → Prop where
  | pass {later : Time} (after : s.now ≤ later) : DelegationMove s (.pass later) { s with now := later }
  | call {id : Nat} {request : DelegationRequest} {calls : Table DelegationCall.id} (unused : s.db.Unused id)
      (begun : s.calls.insert? ⟨id, s.now, request.work⟩ = some calls) : DelegationMove s (.call id request) { s with calls }
  | goOn {id answer : Nat} {call : DelegationCall} {work : DelegationWork} (found : s.calls.find? id = some call)
      (stated : s.statement call answer = some (.goOn work)) :
      DelegationMove s (.statement id answer) (s.continued call work)
  | failed {id answer : Nat} {call : DelegationCall} {failure : Failure} (found : s.calls.find? id = some call)
      (stated : s.statement call answer = some (.failed failure)) : DelegationMove s (.statement id answer) (s.dropped id)
  | committed {id answer : Nat} {call : DelegationCall} {db : DelegationDb} {result : DelegationResult}
      (found : s.calls.find? id = some call) (stated : s.statement call answer = some (.committed db result)) :
      DelegationMove s (.statement id answer) { s.dropped id with db, returned := result :: s.returned }
  | confirm {id : Nat} {txHash : Hash} {call : DelegationCall} {transaction : ChainTransaction} {chain : Permit2Chain}
      (found : s.calls.find? id = some call) (sends : call.work.sends = some transaction)
      (landed : s.chain.apply s.now transaction = some chain) :
      DelegationMove s (.confirm id txHash) { s.continued call (call.work.confirmed txHash) with chain }
  | abandon {id : Nat} {call : DelegationCall} {transaction : ChainTransaction} (found : s.calls.find? id = some call)
      (sends : call.work.sends = some transaction) :
      DelegationMove s (.abandon id) { s.dropped id with sent := transaction :: s.sent }
  | fail {id : Nat} {call : DelegationCall} (found : s.calls.find? id = some call) :
      DelegationMove s (.fail id) (s.dropped id)
  | land {transaction : ChainTransaction} {chain : Permit2Chain} (sent : transaction ∈ s.sent)
      (landed : s.chain.apply s.now transaction = some chain) :
      DelegationMove s (.land transaction) { s with chain, sent := s.sent.erase transaction }

theorem sender?_eq_some {transaction : ChainTransaction} (sender : s.sender? id = some (call, transaction)) :
    s.calls.find? id = some call ∧ call.work.sends = some transaction := by
  obtain ⟨other, found, mapped⟩ := Option.bind_eq_some_iff.mp sender
  obtain ⟨sent, sends, same⟩ := Option.map_eq_some_iff.mp mapped
  obtain ⟨rfl, rfl⟩ := Prod.mk.inj same
  exact ⟨found, sends⟩

theorem move_of_step {label : DelegationLabel} (taken : delegationStep s label = some s') : DelegationMove s label s' := by
  cases label with
  | pass later =>
    rw [delegationStep] at taken
    split at taken
    · rename_i after
      obtain rfl := Option.some.inj taken
      exact .pass after
    · cases taken
  | call id request =>
    rw [delegationStep] at taken
    split at taken
    · rename_i unused
      obtain ⟨calls, begun, rfl⟩ := Option.map_eq_some_iff.mp taken
      exact .call unused begun
    · cases taken
  | statement id answer =>
    rw [delegationStep] at taken
    split at taken
    · cases taken
    rename_i call found
    split at taken
    · cases taken
    · rename_i stated
      obtain rfl := Option.some.inj taken
      exact .goOn found stated
    · rename_i stated
      obtain rfl := Option.some.inj taken
      exact .failed found stated
    · rename_i stated
      obtain rfl := Option.some.inj taken
      exact .committed found stated
  | confirm id txHash =>
    rw [delegationStep] at taken
    split at taken
    · cases taken
    rename_i sender
    obtain ⟨found, sends⟩ := sender?_eq_some sender
    obtain ⟨chain, landed, rfl⟩ := Option.map_eq_some_iff.mp taken
    exact .confirm found sends landed
  | abandon id =>
    rw [delegationStep] at taken
    obtain ⟨⟨call, transaction⟩, sender, rfl⟩ := Option.map_eq_some_iff.mp taken
    obtain ⟨found, sends⟩ := sender?_eq_some sender
    exact .abandon found sends
  | fail id =>
    rw [delegationStep] at taken
    obtain ⟨call, found, rfl⟩ := Option.map_eq_some_iff.mp taken
    exact .fail found
  | land transaction =>
    rw [delegationStep] at taken
    split at taken
    · rename_i sent
      obtain ⟨chain, landed, rfl⟩ := Option.map_eq_some_iff.mp taken
      exact .land sent landed
    · cases taken

theorem assertDrawable_ok {now : Time} {delegation : AgentDelegationRow} {amountMicros : Nat}
    (asserted : assertDrawable now delegation amountMicros = .ok ()) :
    delegation.live now ∧ delegation.drawn_usdc + amountMicros ≤ delegation.ceiling_usdc := by
  unfold assertDrawable at asserted
  split_ifs at asserted with revoked inactive expired exceeded
  exact ⟨⟨not_not.mp inactive, not_le.mp expired⟩, not_lt.mp exceeded⟩

theorem assertWithinOrgCeiling_ok {total : Nat} {configured : Option Nat}
    (asserted : assertWithinOrgCeiling total configured = .ok ()) : ∀ ceiling, configured = some ceiling → total ≤ ceiling := by
  rintro ceiling rfl
  rw [assertWithinOrgCeiling] at asserted
  split_ifs at asserted with exceeded
  exact not_lt.mp exceeded

theorem assertSolvent_ok {total balanceMicros : Nat} (asserted : assertSolvent total balanceMicros = .ok ()) :
    total ≤ balanceMicros := by
  rw [assertSolvent] at asserted
  split_ifs at asserted with short
  exact not_lt.mp short

inductive GrantAdvance (db : DelegationDb) (began : Time) (answer : Nat) (input : RecordSignedDelegationInput) :
    GrantPhase → GrantPhase → Prop where
  | resolved {payer : Payer} (resolved : input.resolve db = .ok payer) : GrantAdvance db began answer input .payer
      (if payer.payerKind = .treasury then .outstanding payer else .nonce payer none)
  | summed {payer : Payer} : GrantAdvance db began answer input (.outstanding payer)
      (.orgCeiling payer (outstandingHeadroomMicros db began (input.scope payer) + input.ceilingUsdc))
  | capped {payer : Payer} {total : Nat}
      (capped : ∀ ceiling, orgCeilingMicros db input.orgId input.network = some ceiling → total ≤ ceiling) :
      GrantAdvance db began answer input (.orgCeiling payer total) (.balance payer total)
  | solvent {payer : Payer} {total : Nat} (solvent : total ≤ answer) :
      GrantAdvance db began answer input (.balance payer total) (.nonce payer (some answer))
  | signed {payer : Payer} {balance : Option Nat} {signed : UserSigned} (user : input.userSigned = some signed) :
      GrantAdvance db began answer input (.nonce payer balance) (.submitter payer balance signed.nonce)
  | nonce {payer : Payer} {balance : Option Nat} (platform : input.userSigned = none) :
      GrantAdvance db began answer input (.nonce payer balance) (.approval payer balance answer)
  | approval {payer : Payer} {balance : Option Nat} {nonce : Nat} :
      GrantAdvance db began answer input (.approval payer balance nonce) (.approve payer balance nonce
        (outstandingHeadroomMicros db began (input.scope payer) + input.ceilingUsdc))
  | submitter {payer : Payer} {balance : Option Nat} {nonce : Nat} :
      GrantAdvance db began answer input (.submitter payer balance nonce) (.permit payer balance nonce)

theorem advance_of_grantStatement {began : Time} {input : RecordSignedDelegationInput} {phase : GrantPhase}
    {work : DelegationWork} (stated : grantStatement db id began answer input phase = some (.goOn work)) :
    ∃ phase', work = .recordSignedDelegation input phase' ∧ GrantAdvance db began answer input phase phase' := by
  cases phase with
  | payer =>
    rw [grantStatement] at stated
    split at stated
    · cases stated
    rename_i resolved
    exact ⟨_, (DelegationOutcome.goOn.inj (Option.some.inj stated)).symm, .resolved resolved⟩
  | outstanding payer => exact ⟨_, (DelegationOutcome.goOn.inj (Option.some.inj stated)).symm, .summed⟩
  | orgCeiling payer total =>
    rw [grantStatement] at stated
    split at stated
    · cases stated
    rename_i asserted
    exact ⟨_, (DelegationOutcome.goOn.inj (Option.some.inj stated)).symm, .capped (assertWithinOrgCeiling_ok asserted)⟩
  | balance payer total =>
    rw [grantStatement] at stated
    split at stated
    · cases stated
    rename_i asserted
    exact ⟨_, (DelegationOutcome.goOn.inj (Option.some.inj stated)).symm, .solvent (assertSolvent_ok asserted)⟩
  | nonce payer balance =>
    rw [grantStatement] at stated
    split at stated
    · rename_i user
      exact ⟨_, (DelegationOutcome.goOn.inj (Option.some.inj stated)).symm, .signed user⟩
    · rename_i platform
      exact ⟨_, (DelegationOutcome.goOn.inj (Option.some.inj stated)).symm, .nonce platform⟩
  | approval payer balance nonce =>
    exact ⟨_, (DelegationOutcome.goOn.inj (Option.some.inj stated)).symm, .approval⟩
  | submitter payer balance nonce =>
    rw [grantStatement] at stated
    split at stated
    · cases stated
    · exact ⟨_, (DelegationOutcome.goOn.inj (Option.some.inj stated)).symm, .submitter⟩
  | insert payer balance nonce =>
    rw [grantStatement] at stated
    split at stated <;> cases stated
  | approve payer balance nonce approvalMicros => cases stated
  | permit payer balance nonce => cases stated

inductive DelegationAdvance (s : DelegationWorld) (call : DelegationCall) (answer : Nat) :
    DelegationWork → DelegationWork → Prop where
  | grant {input : RecordSignedDelegationInput} {phase phase' : GrantPhase}
      (advance : GrantAdvance s.db call.began answer input phase phase') :
      DelegationAdvance s call answer (.recordSignedDelegation input phase) (.recordSignedDelegation input phase')
  | drawLock {input : DrawDownInput} {delegation : AgentDelegationRow} (free : s.held input.delegationId = false)
      (found : s.db.delegations.find? input.delegationId = some delegation) (live : delegation.live s.now)
      (within : delegation.drawn_usdc + input.amountUsdc ≤ delegation.ceiling_usdc) :
      DelegationAdvance s call answer (.drawDown input .lock) (.drawDown input (.insert delegation))
  | drawInsert {input : DrawDownInput} {delegation : AgentDelegationRow} :
      DelegationAdvance s call answer (.drawDown input (.insert delegation)) (.drawDown input (.transfer delegation))
  | lockdown {input : RevokeDelegationInput} {delegation : AgentDelegationRow}
      (free : s.held input.delegationId = false)
      (found : s.db.delegations.find? input.delegationId = some delegation) (going : delegation.status ≠ .revoked)
      (platform : delegation.payer_kind ≠ .user) :
      DelegationAdvance s call answer (.revokeDelegation input .lock) (.revokeDelegation input (.lockdown delegation))
  | revokeUser {input : RevokeDelegationInput} {delegation : AgentDelegationRow}
      (free : s.held input.delegationId = false)
      (found : s.db.delegations.find? input.delegationId = some delegation) (going : delegation.status ≠ .revoked)
      (user : delegation.payer_kind = .user) :
      DelegationAdvance s call answer (.revokeDelegation input .lock) (.revokeDelegation input (.update delegation))

theorem advance_of_statement {work : DelegationWork} (stated : s.statement call answer = some (.goOn work)) :
    DelegationAdvance s call answer call.work work := by
  unfold DelegationWorld.statement at stated
  cases doing : call.work with
  | recordSignedDelegation input phase =>
    rw [doing] at stated
    simp only at stated
    obtain ⟨phase', rfl, advance⟩ := advance_of_grantStatement stated
    exact .grant advance
  | drawDown input phase =>
    rw [doing] at stated
    simp only at stated
    cases phase with
    | lock =>
      rw [drawStatement] at stated
      split at stated
      · cases stated
      rename_i free
      split at stated
      · cases stated
      rename_i delegation found
      split at stated
      · cases stated
      rename_i asserted
      obtain rfl := DelegationOutcome.goOn.inj (Option.some.inj stated)
      obtain ⟨live, within⟩ := assertDrawable_ok asserted
      exact .drawLock (Bool.eq_false_iff.mpr free) found live within
    | insert delegation =>
      rw [drawStatement] at stated
      split at stated
      · cases stated
      · obtain rfl := DelegationOutcome.goOn.inj (Option.some.inj stated)
        exact .drawInsert
    | transfer delegation => cases stated
    | update delegation txHash =>
      rw [drawStatement] at stated
      split at stated <;> cases stated
  | revokeDelegation input phase =>
    rw [doing] at stated
    simp only at stated
    cases phase with
    | lock =>
      rw [revokeStatement] at stated
      split at stated
      · cases stated
      rename_i free
      split at stated
      · cases stated
      rename_i delegation found
      split at stated
      · cases stated
      rename_i going
      split at stated
      · rename_i platform
        obtain rfl := DelegationOutcome.goOn.inj (Option.some.inj stated)
        exact .lockdown (Bool.eq_false_iff.mpr free) found going platform
      · rename_i user
        obtain rfl := DelegationOutcome.goOn.inj (Option.some.inj stated)
        exact .revokeUser (Bool.eq_false_iff.mpr free) found going (not_not.mp user)
    | lockdown delegation => cases stated
    | update delegation => cases stated

inductive DelegationCommit (s : DelegationWorld) (id : Nat) : DelegationWork → DelegationDb → DelegationResult → Prop where
  | granted {input : RecordSignedDelegationInput} {payer : Payer} {balance : Option Nat} {nonce : Nat}
      {db : DelegationDb} (inserted : insertDelegation s.db (delegationRow id input payer nonce) = .ok db) :
      DelegationCommit s id (.recordSignedDelegation input (.insert payer balance nonce)) db
        (.granted (delegationRow id input payer nonce) balance)
  | drawn {input : DrawDownInput} {delegation : AgentDelegationRow} {txHash : Hash} {db : DelegationDb}
      (recorded : recordDraw s.db id input delegation txHash = some db) :
      DelegationCommit s id (.drawDown input (.update delegation txHash)) db
        (.drawn input.delegationId txHash (delegation.drawn_usdc + input.amountUsdc))
  | wasRevoked {input : RevokeDelegationInput} {onChainRevoked : Bool} :
      DelegationCommit s id (.revokeDelegation input .lock) s.db (.revoked input.delegationId onChainRevoked)
  | revoked {input : RevokeDelegationInput} {delegation : AgentDelegationRow} {onChainRevoked : Bool} :
      DelegationCommit s id (.revokeDelegation input (.update delegation)) (s.db.setRevoked input.delegationId)
        (.revoked input.delegationId onChainRevoked)

theorem commit_of_statement {result : DelegationResult} (stated : s.statement call answer = some (.committed db result)) :
    DelegationCommit s call.id call.work db result := by
  unfold DelegationWorld.statement at stated
  cases doing : call.work with
  | recordSignedDelegation input phase =>
    rw [doing] at stated
    simp only at stated
    cases phase with
    | insert payer balance nonce =>
      rw [grantStatement] at stated
      split at stated
      · cases stated
      rename_i inserted
      obtain ⟨rfl, rfl⟩ := DelegationOutcome.committed.inj (Option.some.inj stated)
      exact .granted inserted
    | outstanding | approval | approve | permit => cases stated
    | _ =>
      rw [grantStatement] at stated
      split at stated <;> cases stated
  | drawDown input phase =>
    rw [doing] at stated
    simp only at stated
    cases phase with
    | lock =>
      rw [drawStatement] at stated
      split at stated
      · cases stated
      split at stated
      · cases stated
      split at stated <;> cases stated
    | insert delegation =>
      rw [drawStatement] at stated
      split at stated <;> cases stated
    | transfer delegation => cases stated
    | update delegation txHash =>
      rw [drawStatement] at stated
      split at stated
      · cases stated
      rename_i recorded
      obtain ⟨rfl, rfl⟩ := DelegationOutcome.committed.inj (Option.some.inj stated)
      exact .drawn recorded
  | revokeDelegation input phase =>
    rw [doing] at stated
    simp only at stated
    cases phase with
    | lock =>
      rw [revokeStatement] at stated
      split at stated
      · cases stated
      split at stated
      · cases stated
      split at stated
      · obtain ⟨rfl, rfl⟩ := DelegationOutcome.committed.inj (Option.some.inj stated)
        exact .wasRevoked
      · split at stated <;> cases stated
    | lockdown delegation => cases stated
    | update delegation =>
      obtain ⟨rfl, rfl⟩ := DelegationOutcome.committed.inj (Option.some.inj stated)
      exact .revoked

end AgentOps.Payments
