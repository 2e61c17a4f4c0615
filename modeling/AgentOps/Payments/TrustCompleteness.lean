import AgentOps.Payments.Trust

namespace AgentOps.Payments
open Lib Identity

/-! # Trust and its revocation, over sequences of calls -/

theorem DestinationAllowlist.insert?_cases (list : DestinationAllowlist) {row : DestinationRow}
    (fresh : list.table.find? row.id = none) :
    (list.Lists row.org_id row.chain row.address ∧ list.insert? row = none) ∨
      (¬list.Lists row.org_id row.chain row.address ∧
        ∃ list', list.insert? row = some list' ∧ ∀ other, other ∈ list' ↔ other = row ∨ other ∈ list) := by
  by_cases listed : list.Lists row.org_id row.chain row.address
  · have taken : row.slot ∈ list.table.rows.map DestinationRow.slot := List.mem_map.2 listed
    exact .inl ⟨listed, by simp [insert?, taken]⟩
  · have unlisted : row.slot ∉ list.table.rows.map DestinationRow.slot := fun taken => listed (List.mem_map.1 taken)
    refine .inr ⟨listed, ?_⟩
    rw [insert?, dif_pos unlisted]
    split
    · rename_i refused
      have some := Table.insert?_isSome fresh
      rw [refused] at some
      cases some
    · rename_i table inserted
      exact ⟨_, rfl, fun other => Table.mem_insert? inserted⟩

theorem DestinationAllowlist.mem_setRevoked {list : DestinationAllowlist} {id : AllowlistId} {row : DestinationRow} :
    row ∈ list.setRevoked id ↔ ∃ old ∈ list, revoke old id = row := List.mem_map

theorem mem_activeDelegations {db : DelegationDb} {input : RevokeTrustInput} {id : DelegationId} :
    id ∈ activeDelegations db input ↔ ∃ row ∈ db.delegations, (row.Pays input ∧ row.status = .active) ∧ row.id = id := by
  simp [activeDelegations, Table.mem_def, and_assoc]

theorem revokeAll_done {s s' : DelegationWorld} {revocations : List Revocation}
    (done : revokeAll s revocations = some (true, s')) : ∀ row ∈ s'.db.delegations,
      (row.id ∈ revocations.map (·.delegationId) → row.status = .revoked) ∧
        (row.id ∉ revocations.map (·.delegationId) → row ∈ s.db.delegations) := by
  induction revocations generalizing s with
  | nil =>
    obtain ⟨-, rfl⟩ := Prod.mk.inj (Option.some.inj done)
    intro row member
    exact ⟨fun listed => absurd listed List.not_mem_nil, fun _ => member⟩
  | cons revocation rest ih =>
    rw [revokeAll] at done
    split at done
    · cases done
    · cases done
    rename_i result s₁ performed
    have first := revoke_end (end_of_perform performed)
    intro row member
    obtain ⟨revoked, kept⟩ := ih done row member
    by_cases later : row.id ∈ rest.map (·.delegationId)
    · exact ⟨fun _ => revoked later, fun unlisted => absurd (List.mem_cons_of_mem _ later) unlisted⟩
    · obtain ⟨now, before⟩ := first row (kept later)
      constructor
      · intro listed
        obtain same | listed := List.mem_cons.1 listed
        · exact now same
        · exact absurd listed later
      · exact fun unlisted => before fun same => unlisted (same ▸ List.mem_cons_self)

structure Trusts (s : TrustWorld) (input : TrustExternalAgentInput) (allowlistId : AllowlistId)
    (delegationId : DelegationId) : Prop where
  listed : ∃ row ∈ s.allowlist, row.id = allowlistId ∧ row.Names input.orgId input.chain input.address ∧
    row.status = .active
  delegated : ∃ row ∈ s.delegations.db.delegations, row.id = delegationId ∧
    row.Pays ⟨input.orgId, input.chain, input.mode, input.address⟩ ∧ row.status = .active

structure NothingNew (s s' : TrustWorld) : Prop where
  allowlist : ∀ row ∈ s'.allowlist, row ∈ s.allowlist
  delegations : ∀ row ∈ s'.delegations.db.delegations, row.status = .active → row ∈ s.delegations.db.delegations

structure Distrusts (s : TrustWorld) (input : RevokeTrustInput) : Prop where
  unlisted : ∀ row ∈ s.allowlist, row.Names input.orgId input.chain input.address → row.status ≠ .active
  undelegated : ∀ row ∈ s.delegations.db.delegations, row.Pays input → row.status ≠ .active

def Complete (s : TrustWorld) (label : TrustLabel) (outcome : TrustOutcome) (s' : TrustWorld) : Prop :=
  match label, outcome with
  | .trustExternalAgent input _ _, .trusted allowlistId delegationId => Trusts s' input allowlistId delegationId
  | .trustExternalAgent _ _ _, .threw _ => NothingNew s s'
  | .revokeTrust input _, .revoked => Distrusts s' input
  | _, _ => True

def Completes (s : TrustWorld) (label : TrustLabel) : Prop :=
  ∀ outcome s', trustCall s label = some (outcome, s') → Complete s label outcome s'

def Delegates (s : TrustWorld) (input : TrustExternalAgentInput) (chance : TrustChance) : Prop :=
  chance.reads = true ∧
    assertTrustable (queryTrustEvidence s input.orgId input.chain input.mode input.address) = .ok () ∧
    ∃ result delegations, s.delegations.perform chance.callId (.recordSignedDelegation input.delegation) chance.script =
      some (some result, delegations)

/-- The row read first is active, and every statement, revocation and commit succeeds. -/
def Revokes (s : TrustWorld) (input : RevokeTrustInput) (chance : RevokeChance) : Prop :=
  chance.reads = true ∧ chance.commits = true ∧
    (∃ row ∈ s.allowlist, chance.first = some row.id ∧ row.Names input.orgId input.chain input.address ∧
      row.status = .active) ∧
    ∃ delegations, revokeAll s.delegations chance.revocations = some (true, delegations)

/-- A call that delegates commits, and its address has no row of exactly that text; where a call revokes, no two active
rows name its address. -/
def Careful (s : TrustWorld) : TrustLabel → Prop
  | .trustExternalAgent input _ chance => Delegates s input chance →
    chance.commits = true ∧ ¬s.allowlist.Lists input.orgId input.chain input.address
  | .revokeTrust input chance => Revokes s input chance →
    ∀ row ∈ s.allowlist, ∀ other ∈ s.allowlist, row.Names input.orgId input.chain input.address → row.status = .active →
      other.Names input.orgId input.chain input.address → other.status = .active → row = other
  | _ => True

theorem nothingNew_of_db {s : TrustWorld} {delegations : DelegationWorld} (same : delegations.db = s.delegations.db) :
    NothingNew s { s with delegations } where
  allowlist _ member := member
  delegations row member _ := by
    rw [← same]
    exact member

theorem trust_iff {s s' : TrustWorld} {input : TrustExternalAgentInput} {allowlistId : AllowlistId}
    {chance : TrustChance} {outcome : TrustOutcome} (fresh : s.allowlist.table.find? allowlistId = none)
    (called : trustExternalAgent s input allowlistId chance = some (outcome, s')) :
    Complete s (.trustExternalAgent input allowlistId chance) outcome s' ↔
      Careful s (.trustExternalAgent input allowlistId chance) := by
  have vacuous : ¬Delegates s input chance → NothingNew s s' → (∃ failure, outcome = .threw failure) →
      (Complete s (.trustExternalAgent input allowlistId chance) outcome s' ↔
        Careful s (.trustExternalAgent input allowlistId chance)) := by
    rintro not nothing ⟨failure, rfl⟩
    exact ⟨fun _ delegates => absurd delegates not, fun _ => nothing⟩
  unfold trustExternalAgent at called
  split at called
  · rename_i unread
    obtain ⟨rfl, rfl⟩ := Prod.mk.inj (Option.some.inj called)
    refine vacuous (fun delegates => ?_) (nothingNew_of_db rfl) ⟨_, rfl⟩
    rw [delegates.1] at unread
    cases unread
  rename_i reads
  split at called
  · rename_i failure refused
    obtain ⟨rfl, rfl⟩ := Prod.mk.inj (Option.some.inj called)
    refine vacuous (fun delegates => ?_) (nothingNew_of_db rfl) ⟨_, rfl⟩
    rw [delegates.2.1] at refused
    cases refused
  rename_i trustable
  cases performed : s.delegations.perform chance.callId (.recordSignedDelegation input.delegation) chance.script with
  | none =>
    rw [performed] at called
    cases called
  | some performance =>
    obtain ⟨ended, delegations⟩ := performance
    have finished := end_of_perform performed
    cases ended with
    | none =>
      rw [performed] at called
      obtain ⟨rfl, rfl⟩ := Prod.mk.inj (Option.some.inj called)
      refine vacuous ?_ (nothingNew_of_db (threw_end finished)) ⟨_, rfl⟩
      rintro ⟨-, -, result, other, granted⟩
      rw [performed] at granted
      cases granted
    | some result =>
      obtain ⟨payer, balance, nonce, rows, rfl, inserted, written⟩ := grant_end finished
      have delegates : Delegates s input chance := ⟨by simpa using reads, trustable, _, _, performed⟩
      have opened : ∀ row, row ∈ delegations.db.delegations ↔
          row = delegationRow chance.callId input.delegation payer nonce ∨ row ∈ s.delegations.db.delegations := by
        intro row
        rw [written]
        exact Table.mem_insert? inserted
      rw [performed] at called
      simp only at called
      split at called
      · rename_i commits
        obtain ⟨rfl, rfl⟩ := Prod.mk.inj (Option.some.inj called)
        rw [DestinationAllowlist.insertUnlessListed]
        have unused : s.allowlist.table.find? (input.row allowlistId).id = none := fresh
        obtain ⟨listed, refused⟩ | ⟨unlisted, list, accepted, members⟩ := s.allowlist.insert?_cases unused
        · rw [refused, Option.getD_none]
          constructor
          · intro trusts
            obtain ⟨row, member, named, -⟩ := trusts.listed
            exact absurd named (Table.find?_eq_none.1 fresh row member)
          · exact fun careful => absurd listed (careful delegates).2
        · rw [accepted, Option.getD_some]
          constructor
          · exact fun _ _ => ⟨commits, unlisted⟩
          · intro _
            exact ⟨⟨_, (members _).2 (.inl rfl), rfl, ⟨rfl, rfl, rfl⟩, rfl⟩,
              ⟨_, (opened _).2 (.inl rfl), rfl, ⟨rfl, rfl, rfl, rfl⟩, rfl⟩⟩
      · rename_i failed
        obtain ⟨rfl, rfl⟩ := Prod.mk.inj (Option.some.inj called)
        constructor
        · intro nothing
          have old := nothing.delegations _ ((opened _).2 (.inl rfl)) rfl
          exact absurd rfl (Table.find?_eq_none.1 (Table.insert?_eq_some inserted).2 _ old)
        · exact fun careful => absurd (careful delegates).1 failed

theorem DestinationAllowlist.readFirst_iff {list : DestinationAllowlist} {orgId : OrgId} {chain : PaymentChain}
    {address : Address} {first : Option AllowlistId} {row : DestinationRow} :
    list.readFirst orgId chain address first = some (some row) ↔
      row ∈ list ∧ first = some row.id ∧ row.Names orgId chain address := by
  cases first with
  | none => simp [readFirst]
  | some id =>
    cases found : list.table.find? id with
    | none =>
      simp only [readFirst, found, reduceCtorEq, false_iff]
      rintro ⟨member, named, -⟩
      exact Table.find?_eq_none.1 found row member (Option.some.inj named).symm
    | some old =>
      simp only [readFirst, found]
      constructor
      · intro read
        split at read
        · rename_i names
          obtain rfl := Option.some.inj (Option.some.inj read)
          exact ⟨Table.mem_of_find? found, congrArg some (Table.key_of_find? found).symm, names⟩
        · cases read
      · rintro ⟨member, named, names⟩
        have one : old = row := by
          have located : list.table.find? row.id = some row := Table.find?_of_mem member
          rw [← Option.some.inj named, found] at located
          exact Option.some.inj located
        subst one
        rw [if_pos names]

theorem assertTrusted_ok {first : Option DestinationRow} {row : DestinationRow} :
    assertTrusted first = .ok row ↔ first = some row ∧ row.status = .active := by
  rw [assertTrusted]
  split
  · rename_i other filtered
    obtain ⟨rfl, active⟩ := Option.filter_eq_some_iff.1 filtered
    constructor
    · intro same
      obtain rfl := Except.ok.inj same
      exact ⟨rfl, by simpa using active⟩
    · rintro ⟨same, -⟩
      rw [Option.some.inj same]
  · rename_i filtered
    simp only [reduceCtorEq, false_iff]
    rintro ⟨rfl, active⟩
    rw [Option.filter_some, if_pos (by simpa using active)] at filtered
    cases filtered

theorem revoke_iff {s s' : TrustWorld} {input : RevokeTrustInput} {chance : RevokeChance} {outcome : TrustOutcome}
    (called : revokeTrust s input chance = some (outcome, s')) :
    Complete s (.revokeTrust input chance) outcome s' ↔ Careful s (.revokeTrust input chance) := by
  have vacuous : ¬Revokes s input chance → (∃ failure, outcome = .threw failure) →
      (Complete s (.revokeTrust input chance) outcome s' ↔ Careful s (.revokeTrust input chance)) := by
    rintro not ⟨failure, rfl⟩
    exact ⟨fun _ revokes => absurd revokes not, fun _ => trivial⟩
  unfold revokeTrust at called
  split at called
  · rename_i unread
    obtain ⟨rfl, rfl⟩ := Prod.mk.inj (Option.some.inj called)
    refine vacuous (fun revokes => ?_) ⟨_, rfl⟩
    rw [revokes.1] at unread
    cases unread
  rename_i reads
  split at called
  · cases called
  rename_i first read
  split at called
  · rename_i failure refused
    obtain ⟨rfl, rfl⟩ := Prod.mk.inj (Option.some.inj called)
    refine vacuous ?_ ⟨_, rfl⟩
    rintro ⟨-, -, ⟨row, member, named, names, active⟩, -⟩
    obtain rfl := Option.some.inj ((DestinationAllowlist.readFirst_iff.2 ⟨member, named, names⟩).symm.trans read)
    rw [assertTrusted_ok.2 ⟨rfl, active⟩] at refused
    cases refused
  rename_i row trusted
  obtain ⟨rfl, active⟩ := assertTrusted_ok.1 trusted
  obtain ⟨member, named, names⟩ := DestinationAllowlist.readFirst_iff.1 read
  split at called
  rotate_left
  · cases called
  rename_i ordered
  split at called
  · cases called
  rename_i done delegations ended
  split at called
  · rename_i finished
    obtain ⟨rfl, commits⟩ := Bool.and_eq_true_iff.1 finished
    obtain ⟨rfl, rfl⟩ := Prod.mk.inj (Option.some.inj called)
    have revokes : Revokes s input chance := ⟨by simpa using reads, commits, ⟨row, member, named, names, active⟩, _, ended⟩
    constructor
    · intro distrusts _ a aMember b bMember aNames aActive bNames bActive
      have only : ∀ other ∈ s.allowlist, other.Names input.orgId input.chain input.address → other.status = .active →
          other = row := by
        intro other otherMember otherNames otherActive
        by_contra different
        have kept : DestinationAllowlist.revoke other row.id = other :=
          if_neg fun same => different (Table.eq_of_key otherMember member same)
        exact distrusts.unlisted other (DestinationAllowlist.mem_setRevoked.2 ⟨other, otherMember, kept⟩) otherNames
          otherActive
      rw [only a aMember aNames aActive, only b bMember bNames bActive]
    · intro careful
      constructor
      · intro left leftMember leftNames leftActive
        obtain ⟨old, oldMember, rfl⟩ := DestinationAllowlist.mem_setRevoked.1 leftMember
        by_cases mine : old.id = row.id
        · rw [DestinationAllowlist.revoke, if_pos mine] at leftActive
          cases leftActive
        · rw [DestinationAllowlist.revoke, if_neg mine] at leftNames leftActive
          exact mine (congrArg DestinationRow.id
            (careful revokes old oldMember row member leftNames leftActive names active))
      · intro left leftMember pays leftActive
        obtain ⟨revoked, kept⟩ := revokeAll_done ended left leftMember
        by_cases listed : left.id ∈ chance.revocations.map (·.delegationId)
        · rw [revoked listed] at leftActive
          cases leftActive
        · exact listed (ordered.mem_iff.2 (mem_activeDelegations.2 ⟨left, kept listed, ⟨pays, leftActive⟩, rfl⟩))
  · rename_i unfinished
    obtain ⟨rfl, rfl⟩ := Prod.mk.inj (Option.some.inj called)
    refine vacuous ?_ ⟨_, rfl⟩
    rintro ⟨-, commits, -, delegations', whole⟩
    rw [ended] at whole
    obtain ⟨rfl, -⟩ := Prod.mk.inj (Option.some.inj whole)
    exact unfinished (by simp [commits])

theorem complete_iff {s s' : TrustWorld} {label : TrustLabel} {outcome : TrustOutcome}
    (called : trustCall s label = some (outcome, s')) : Complete s label outcome s' ↔ Careful s label := by
  unfold trustCall at called
  split at called
  rotate_left
  · cases called
  rename_i fresh
  cases label with
  | trustExternalAgent input id chance => exact trust_iff (by simpa [TrustLabel.fresh?] using fresh) called
  | revokeTrust input chance => exact revoke_iff called
  | authorizeMarketplaceDestination input id chance => simp [Complete, Careful]
  | resolveAgentPayee input id reads writes => simp [Complete, Careful]

theorem trust_complete_iff {s₀ s : TrustWorld} {events : List (TrustWorld × TrustLabel)}
    (run : Run trustStep s₀ events s) :
    (∀ e ∈ events, Completes e.1 e.2) ↔ Conforms Careful events := by
  constructor
  · intro completes e member
    obtain ⟨_, _, s', _, _, taken, _⟩ := run.of_mem member
    obtain ⟨⟨outcome, _⟩, called, rfl⟩ := Option.map_eq_some_iff.1 taken
    exact (complete_iff called).1 (completes e member outcome _ called)
  · intro careful e member outcome s' called
    exact (complete_iff called).2 (careful e member)

namespace TrustWorkspace

def world : TrustWorld where
  delegations := DelegationWorkspace.world
  allowlist := .empty
  escrowJobs := [⟨1, .base, .test, ⟨20, 0⟩, .completed, 1000000⟩]

def treasuryGrant (id : Nat) : List DelegationLabel :=
  [.statement id 0, .statement id 0, .statement id 0, .statement id 100, .statement id 0, .statement id 0,
    .confirm id "0xa", .statement id 0, .confirm id "0xb", .statement id 0]

def trustInput : TrustExternalAgentInput := ⟨1, .base, .test, ⟨20, 0⟩, "Agent", 5, 60000000, 9⟩

def trusting (id : AllowlistId) (commits : Bool) : TrustLabel :=
  .trustExternalAgent trustInput id ⟨true, 5, treasuryGrant 5, commits⟩

def authorizing (id : AllowlistId) (address : Address) : TrustLabel :=
  .authorizeMarketplaceDestination ⟨1, .base, address, "Agent", 9⟩ id ⟨true, none, true⟩

def resolving (id : AllowlistId) : TrustLabel := .resolveAgentPayee ⟨1, 1, .test, .base⟩ id true true

def revoking (address : Address) (first : AllowlistId) (revocations : List Revocation) : TrustLabel :=
  .revokeTrust ⟨1, .base, .test, address⟩ ⟨true, some first, revocations, true⟩

def trustsInVain (s : TrustWorld) : Bool :=
  (trustCall s (trusting 2 true)).any fun result =>
    result.1 = .trusted 2 5 && result.2.allowlist.table.rows.all fun row => row.id ≠ 2

def leavesDelegation (s : TrustWorld) : Bool :=
  (trustCall s (trusting 2 false)).any fun result => result.1 = .threw none &&
    (s.delegations.db.delegations.find? 5).isNone &&
      (result.2.delegations.db.delegations.find? 5).any fun row => row.status = .active

def leavesListed (s : TrustWorld) : Bool :=
  (trustCall s (revoking ⟨11, 1⟩ 1 [])).any fun result => result.1 = .revoked &&
    result.2.allowlist.table.rows.any fun row => row.Names 1 .base ⟨11, 1⟩ ∧ row.status = .active

/-- Enough for `Careful`, and decidable -/
def guarded (s : TrustWorld) : TrustLabel → Bool
  | .trustExternalAgent input _ chance =>
    chance.commits && decide (¬s.allowlist.Lists input.orgId input.chain input.address)
  | .revokeTrust input _ => decide (∀ row ∈ s.allowlist.table.rows, ∀ other ∈ s.allowlist.table.rows,
    row.Names input.orgId input.chain input.address → row.status = .active →
      other.Names input.orgId input.chain input.address → other.status = .active → row = other)
  | _ => true

theorem careful_of_guarded (s : TrustWorld) (label : TrustLabel) (safe : guarded s label = true) : Careful s label := by
  cases label with
  | trustExternalAgent input id chance =>
    intro _
    simpa [guarded] using safe
  | revokeTrust input chance =>
    intro _
    exact of_decide_eq_true safe
  | authorizeMarketplaceDestination input id chance => trivial
  | resolveAgentPayee input id reads writes => trivial

end TrustWorkspace

open TrustWorkspace in
/-- Each clause fails: an id is returned that no row has, a delegation outlives the call that throws, and a row in
another letter case outlives the revocation. -/
theorem trust_incomplete :
    (∃ events s s', Run trustStep world events s ∧ trustCall s (trusting 2 true) = some (.trusted 2 5, s') ∧
      ¬Trusts s' trustInput 2 5) ∧
    (∃ s', trustCall world (trusting 2 false) = some (.threw none, s') ∧ ¬NothingNew world s') ∧
    ∃ events s s', Run trustStep world events s ∧ trustCall s (revoking ⟨11, 1⟩ 1 []) = some (.revoked, s') ∧
      ¬Distrusts s' ⟨1, .base, .test, ⟨11, 1⟩⟩ := by
  refine ⟨?_, ?_, ?_⟩
  · obtain ⟨events, s, run, vain⟩ : ∃ events s, Run trustStep world events s ∧ trustsInVain s = true :=
      exists_run [authorizing 1 ⟨20, 0⟩, revoking ⟨20, 0⟩ 1 []] (fun s => trustsInVain s = true) (by decide)
    obtain ⟨⟨outcome, s'⟩, called, vain⟩ := (Option.any_eq_true _ _).1 vain
    simp only [Bool.and_eq_true, decide_eq_true_eq, List.all_eq_true] at vain
    obtain ⟨rfl, absent⟩ := vain
    refine ⟨events, s, s', run, called, fun trusts => ?_⟩
    obtain ⟨row, member, named, -⟩ := trusts.listed
    exact absent row member named
  · have left : leavesDelegation world = true := by decide
    obtain ⟨⟨outcome, s'⟩, called, left⟩ := (Option.any_eq_true _ _).1 left
    simp only [Bool.and_eq_true, decide_eq_true_eq, Option.isNone_iff_eq_none] at left
    obtain ⟨⟨rfl, missing⟩, active⟩ := left
    obtain ⟨row, found, active⟩ := (Option.any_eq_true _ _).1 active
    refine ⟨s', called, fun nothing => ?_⟩
    have old := nothing.delegations row (Table.mem_of_find? found) (by simpa using active)
    exact Table.find?_eq_none.1 missing row old (Table.key_of_find? found)
  · obtain ⟨events, s, run, left⟩ : ∃ events s, Run trustStep world events s ∧ leavesListed s = true :=
      exists_run [authorizing 1 ⟨11, 1⟩, resolving 2] (fun s => leavesListed s = true) (by decide)
    obtain ⟨⟨outcome, s'⟩, called, left⟩ := (Option.any_eq_true _ _).1 left
    simp only [Bool.and_eq_true, decide_eq_true_eq, List.any_eq_true] at left
    obtain ⟨rfl, row, member, names, active⟩ := left
    exact ⟨events, s, s', run, called, fun distrusts => distrusts.unlisted row member names active⟩

open TrustWorkspace in
theorem trusted_then_revoked_complete : ∃ events s, Run trustStep world events s ∧
    (∀ e ∈ events, Completes e.1 e.2) ∧ s.allowlist.table.rows.length = 1 ∧
      ((s.delegations.db.delegations.find? 5).any fun row => row.status = .revoked) = true := by
  obtain ⟨events, s, run, careful, reached⟩ : ∃ events s, Run trustStep world events s ∧ Conforms Careful events ∧
      (s.allowlist.table.rows.length = 1 ∧
        ((s.delegations.db.delegations.find? 5).any fun row => row.status = .revoked) = true) :=
    exists_conforming_run
      [trusting 1 true, revoking ⟨20, 3⟩ 1 [⟨5, 6, [.statement 6 0, .confirm 6 "0xd", .statement 6 0]⟩]] guarded
      (fun s => s.allowlist.table.rows.length = 1 ∧
        ((s.delegations.db.delegations.find? 5).any fun row => row.status = .revoked) = true)
      careful_of_guarded (by decide)
  exact ⟨events, s, run, (trust_complete_iff run).2 careful, reached⟩

end AgentOps.Payments
