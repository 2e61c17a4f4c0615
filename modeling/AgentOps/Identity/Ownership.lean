import AgentOps.Identity.Members

namespace AgentOps.Identity
open Lib

variable {db db' : MemberDb} {call other : MemberCall} {stage : MemberStage} {orgId : OrgId} {chance : MemberChance}
  {current base row : MembershipRow} {owners : Option (List MemberId)}

/-! # A workspace and its owners -/

def HasOwner (orgId : OrgId) (db : MemberDb) : Prop := ∃ row ∈ db.memberships, row.activeOwner orgId = true

instance (orgId : OrgId) : DecidablePred (HasOwner orgId) :=
  fun db => inferInstanceAs (Decidable (∃ row ∈ db.memberships.rows, row.activeOwner orgId = true))

theorem activeOwner_iff : row.activeOwner orgId = true ↔ row.org_id = orgId ∧ row.role = .owner ∧ row.status = .active := by
  simp [MembershipRow.activeOwner, and_assoc]

def MemberRequest.apply : MemberRequest → MembershipRow → MembershipRow
  | .addMember _, row => row
  | .updateMember _ role, row => { row with role }
  | .removeMember _, row => { row with status := .removed }

@[simp] theorem MemberRequest.apply_id (request : MemberRequest) (row : MembershipRow) : (request.apply row).id = row.id := by
  cases request <;> rfl

@[simp] theorem MemberRequest.apply_org (request : MemberRequest) (row : MembershipRow) :
    (request.apply row).org_id = row.org_id := by
  cases request <;> rfl

theorem MemberRequest.apply_congr {request : MemberRequest} {row row' : MembershipRow} (role : row.role = row'.role)
    (status : row.status = row'.status) :
    (request.apply row).role = (request.apply row').role ∧ (request.apply row).status = (request.apply row').status := by
  cases request <;> exact ⟨by simp [apply, role], by simp [apply, status]⟩

theorem assertCanManageOwnerRole_ok {operator : OperatorContext} {role : Role}
    (ok : assertCanManageOwnerRole operator role = .ok ()) (owner : role = .owner) : operator.role = .owner := by
  unfold assertCanManageOwnerRole at ok
  split at ok
  · cases ok
  · rename_i allowed
    exact not_not.mp fun other => allowed ⟨owner, other⟩

structure Cleared (call : MemberCall) (current : MembershipRow) (owners : Option (List MemberId)) : Prop where
  manages : current.role = .owner → call.operator.role = .owner
  counted : current.role = .owner → current.status = .active →
    (call.request.apply current).role ≠ .owner ∨ (call.request.apply current).status ≠ .active →
      ∃ ids, owners = some ids ∧ ids.Nodup ∧ 2 ≤ ids.length

def Adds (call : MemberCall) : Prop :=
  ∃ input, call.request = .addMember input ∧ (input.role = .owner → call.operator.role = .owner)

def MemberKnows (db : MemberDb) (call : MemberCall) : Prop :=
  match call.stage with
  | .userResolved _ | .resolved _ _ => Adds call
  | .upserted _ row => (row.role = .owner → call.operator.role = .owner) ∧ row.org_id = call.orgId ∧ row.status = .active ∧
      ∀ base, db.memberships.find? row.id = some base → base.org_id = call.orgId
  | .counting current => current.role = .owner → call.operator.role = .owner
  | .checked current owners => Cleared call current owners
  | .updated current owners row => Cleared call current owners ∧
      ∃ base, db.memberships.find? row.id = some base ∧ base.org_id = call.orgId ∧ row = call.request.apply base
  | .started | .finished _ => True

theorem nodup_activeOwners (db : MemberDb) (orgId : OrgId) : (db.activeOwners orgId).Nodup :=
  db.memberships.distinct.sublist (List.filter_sublist.map _)

theorem countOwners_cases (db : MemberDb) (orgId : OrgId) (current : MembershipRow) :
    (∃ failure, countOwners db orgId current = .finished (.error failure)) ∨
      2 ≤ (db.activeOwners orgId).length ∧
        countOwners db orgId current = .checked current (some (db.activeOwners orgId)) := by
  unfold countOwners
  simp only
  split
  · exact .inl ⟨_, rfl⟩
  · exact .inr ⟨by omega, rfl⟩

theorem member?_eq_some {memberId : MemberId} :
    db.member? orgId memberId = some row ↔ db.memberships.find? memberId = some row ∧ row.org_id = orgId := by
  simp [MemberDb.member?, Option.filter_eq_some_iff]

theorem membershipOf_some {userId : UserId} (found : db.membershipOf orgId userId = some row) :
    row ∈ db.memberships ∧ row.org_id = orgId := by
  refine ⟨List.mem_of_find?_eq_some found, ?_⟩
  have matched := List.find?_some found
  simp only [decide_eq_true_eq] at matched
  exact matched.1

theorem addMember_knows {input : AddMemberInput} (asked : call.request = .addMember input) (knows : MemberKnows db call)
    (moved : addMember db call input chance = some stage) : MemberKnows db { call with stage } := by
  have mine (adds : Adds call) : input.role = .owner → call.operator.role = .owner := by
    obtain ⟨input', same, allowed⟩ := adds
    rw [asked] at same
    obtain rfl := MemberRequest.addMember.inj same
    exact allowed
  unfold addMember at moved
  unfold MemberKnows at knows
  split at moved
  · split at moved
    · obtain rfl := Option.some.inj moved
      trivial
    · split at moved <;> obtain rfl := Option.some.inj moved
      · trivial
      · rename_i ok
        exact ⟨input, asked, assertCanManageOwnerRole_ok ok⟩
  · rename_i stands
    obtain rfl := Option.some.inj moved
    rw [stands] at knows
    exact knows
  · rename_i stands
    rw [stands] at knows
    split at moved
    · rename_i row found
      obtain rfl := Option.some.inj moved
      obtain ⟨member, inOrg⟩ := membershipOf_some found
      refine ⟨mine knows, inOrg, rfl, fun base located => ?_⟩
      obtain rfl := Option.some.inj ((Table.find?_of_mem member).symm.trans located)
      exact inOrg
    · split at moved <;> obtain rfl := Option.some.inj moved
      · trivial
      · rename_i fresh
        refine ⟨mine knows, rfl, rfl, fun base located => ?_⟩
        rw [located] at fresh
        simp at fresh
  · cases moved

theorem countOwners_knows (manages : current.role = .owner → call.operator.role = .owner) :
    MemberKnows db { call with stage := countOwners db call.orgId current } := by
  rcases countOwners_cases db call.orgId current with ⟨failure, ended⟩ | ⟨enough, counted⟩
  · rw [ended]
    trivial
  · rw [counted]
    exact ⟨manages, fun _ _ _ => ⟨_, rfl, nodup_activeOwners db call.orgId, enough⟩⟩

theorem updated_knows {memberId : MemberId} {current row' : MembershipRow} {owners : Option (List MemberId)}
    (cleared : Cleared call current owners) (found : db.member? call.orgId memberId = some row) (key : row'.id = row.id)
    (applied : row' = call.request.apply row) : MemberKnows db { call with stage := .updated current owners row' } := by
  obtain ⟨located, inOrg⟩ := member?_eq_some.mp found
  exact ⟨⟨cleared.manages, cleared.counted⟩, row, by rw [key, Table.key_of_find? located, located], inOrg, applied⟩

theorem updateMember_knows {memberId : MemberId} {role : Role} (asked : call.request = .updateMember memberId role)
    (knows : MemberKnows db call) (moved : updateMember db call memberId role = some stage) :
    MemberKnows db { call with stage } := by
  unfold updateMember at moved
  unfold MemberKnows at knows
  split at moved
  · split at moved
    · obtain rfl := Option.some.inj moved
      trivial
    rename_i current found
    split at moved
    · obtain rfl := Option.some.inj moved
      trivial
    rename_i checked
    obtain ⟨_, manages, -⟩ := bind_eq_ok.mp checked
    split at moved <;> obtain rfl := Option.some.inj moved
    · exact assertCanManageOwnerRole_ok manages
    · rename_i safe
      refine ⟨assertCanManageOwnerRole_ok manages, fun owner active leaves => (safe ⟨owner, ?_, active⟩).elim⟩
      rw [asked] at leaves
      exact leaves.elim id fun inactive => (inactive active).elim
  · rename_i stands
    rw [stands] at knows
    obtain rfl := Option.some.inj moved
    exact countOwners_knows knows
  · rename_i stands
    rw [stands] at knows
    split at moved <;> obtain rfl := Option.some.inj moved
    · trivial
    · rename_i row found
      exact updated_knows knows found rfl (by simp only [asked, MemberRequest.apply])
  · cases moved

theorem removeMember_knows {memberId : MemberId} (asked : call.request = .removeMember memberId)
    (knows : MemberKnows db call) (moved : removeMember db call memberId = some stage) :
    MemberKnows db { call with stage } := by
  unfold removeMember at moved
  unfold MemberKnows at knows
  split at moved
  · split at moved
    · obtain rfl := Option.some.inj moved
      trivial
    rename_i current found
    split at moved
    · obtain rfl := Option.some.inj moved
      trivial
    rename_i manages
    split at moved <;> obtain rfl := Option.some.inj moved
    · exact assertCanManageOwnerRole_ok manages
    · rename_i safe
      exact ⟨assertCanManageOwnerRole_ok manages, fun owner active _ => (safe ⟨owner, active⟩).elim⟩
  · rename_i stands
    rw [stands] at knows
    obtain rfl := Option.some.inj moved
    exact countOwners_knows knows
  · rename_i stands
    rw [stands] at knows
    split at moved <;> obtain rfl := Option.some.inj moved
    · trivial
    · rename_i row found
      exact updated_knows knows found rfl (by simp only [asked, MemberRequest.apply])
  · cases moved

theorem memberStatement_knows (knows : MemberKnows db call) (moved : memberStatement db call chance = some stage) :
    MemberKnows db { call with stage } := by
  unfold memberStatement at moved
  split at moved
  · rename_i asked
    exact addMember_knows asked knows moved
  · rename_i asked
    exact updateMember_knows asked knows moved
  · rename_i asked
    exact removeMember_knows asked knows moved

def Spared (db : MemberDb) (orgId : OrgId) (id : MemberId) : Prop :=
  ∃ other ∈ db.memberships, other.id ≠ id ∧ other.activeOwner orgId = true

def OthersRemain (db : MemberDb) (orgId : OrgId) (owners : Option (List MemberId)) (id : MemberId) : Prop :=
  ∀ ids, owners = some ids → (∃ other ∈ ids, other ≠ id) →
    ∃ other ∈ ids, other ≠ id ∧ ∃ owner, db.memberships.find? other = some owner ∧ owner.activeOwner orgId = true

/-- Where a commit changes an owner's membership: an update or a removal has read it as one, and has counted it if it is
active; an added member is let through by the checks of an update. -/
def MemberFresh (orgId : OrgId) (db : MemberDb) (call : MemberCall) : Prop :=
  call.orgId = orgId → match call.stage with
    | .upserted _ row => ∀ base, db.memberships.find? row.id = some base → base.role = .owner → row.role ≠ .owner →
        call.operator.role = .owner ∧ (base.status = .active → Spared db orgId row.id)
    | .updated current owners row => ∀ base, db.memberships.find? row.id = some base → base.role = .owner →
        row.role ≠ .owner ∨ row.status ≠ base.status → current.role = .owner ∧
          (base.status = .active → current.status = .active ∧ OthersRemain db orgId owners row.id)
    | _ => True

inductive MemberCommitted (db : MemberDb) (call : MemberCall) : MemberDb → Prop where
  | upserted {user : UserRow} {row : MembershipRow} (stands : call.stage = .upserted user row) :
      MemberCommitted db call { db with users := db.users.upsert user, memberships := db.memberships.upsert row }
  | updated {current row : MembershipRow} {owners : Option (List MemberId)} (stands : call.stage = .updated current owners row) :
      MemberCommitted db call { db with memberships := db.memberships.put row }

theorem memberCommit_cases {call' : MemberCall} (committed : memberTransactions.commit db call = some (db', call')) :
    MemberCommitted db call db' ∧ ∃ answer, call' = { call with stage := .finished answer } := by
  obtain ⟨⟨_, stage⟩, written, same⟩ := Option.map_eq_some_iff.mp committed
  obtain ⟨rfl, rfl⟩ := Prod.mk.inj same
  unfold memberCommit at written
  split at written
  · rename_i stands
    obtain ⟨rfl, rfl⟩ := Prod.mk.inj (Option.some.inj written)
    exact ⟨.upserted stands, _, rfl⟩
  · rename_i stands
    obtain ⟨rfl, rfl⟩ := Prod.mk.inj (Option.some.inj written)
    exact ⟨.updated stands, _, rfl⟩
  · cases written

theorem MemberCommitted.find?_ne (committed : MemberCommitted db call db') {id : MemberId}
    (unlocked : MemberLock.member id ∉ call.stage.locks) : db'.memberships.find? id = db.memberships.find? id := by
  cases committed with
  | @upserted user row stands =>
    refine Table.find?_upsert_ne fun same => unlocked ?_
    simp [stands, MemberStage.locks, same]
  | @updated current row owners stands =>
    refine Table.find?_put_ne fun same => unlocked ?_
    simp [stands, MemberStage.locks, same]

theorem MemberKnows.others (knows : MemberKnows db other) (committed : MemberCommitted db call db')
    (apart : memberTransactions.Apart call other) : MemberKnows db' other := by
  have same {id : MemberId} (held : MemberLock.member id ∈ other.stage.locks) :
      db'.memberships.find? id = db.memberships.find? id :=
    committed.find?_ne fun both => apart _ both held
  unfold MemberKnows at knows ⊢
  cases stands : other.stage with
  | upserted user row =>
    simp only [stands] at knows ⊢
    rw [same (by simp [stands, MemberStage.locks])]
    exact knows
  | updated current owners row =>
    simp only [stands] at knows ⊢
    rw [same (by simp [stands, MemberStage.locks])]
    exact knows
  | _ => simp only [stands] at knows ⊢ <;> exact knows

/-- Owners' memberships change at the hands of owners only. -/
def Managed (orgId : OrgId) (operator : OperatorContext) (db db' : MemberDb) : Prop :=
  ∀ base ∈ db.memberships, base.org_id = orgId → base.role = .owner → operator.role = .owner ∨
    ∃ row ∈ db'.memberships, row.id = base.id ∧ row.org_id = base.org_id ∧ row.role = base.role ∧ row.status = base.status

instance (operator : OperatorContext) (db db' : MemberDb) : Decidable (Managed orgId operator db db') :=
  inferInstanceAs (Decidable (∀ base ∈ db.memberships.rows, base.org_id = orgId → base.role = .owner →
    operator.role = .owner ∨ ∃ row ∈ db'.memberships.rows, row.id = base.id ∧ row.org_id = base.org_id ∧
      row.role = base.role ∧ row.status = base.status))

structure Spares (orgId : OrgId) (db : MemberDb) (operator : OperatorContext) (row : MembershipRow) : Prop where
  org : ∀ base, db.memberships.find? row.id = some base → row.org_id = base.org_id
  changes : ∀ base, db.memberships.find? row.id = some base → base.org_id = orgId → base.role = .owner →
    (row.role = base.role ∧ row.status = base.status) ∨ operator.role = .owner
  ends : ∀ base, db.memberships.find? row.id = some base → base.activeOwner orgId = true →
    row.activeOwner orgId = true ∨ Spared db orgId row.id

theorem exists_other {ids : List MemberId} (distinct : ids.Nodup) (enough : 2 ≤ ids.length) (id : MemberId) :
    ∃ other ∈ ids, other ≠ id := by
  match ids, distinct, enough with
  | first :: second :: _, distinct, _ =>
    by_cases same : first = id
    · refine ⟨second, by simp, fun both => ?_⟩
      simp [same, both] at distinct
    · exact ⟨first, by simp, same⟩

theorem MemberFresh.upserted {user : UserRow} (fresh : MemberFresh orgId db call) (knows : MemberKnows db call)
    (stands : call.stage = .upserted user row) : Spares orgId db call.operator row := by
  simp only [MemberKnows, stands] at knows
  simp only [MemberFresh, stands] at fresh
  obtain ⟨mine, inOrg, active, own⟩ := knows
  refine ⟨fun base found => inOrg.trans (own base found).symm, fun base found based owner => ?_, fun base found owned => ?_⟩
  · by_cases stays : row.role = .owner
    · exact .inr (mine stays)
    · exact .inr (fresh ((own base found).symm.trans based) base found owner stays).1
  · obtain ⟨based, owner, alive⟩ := activeOwner_iff.mp owned
    have here := (own base found).symm.trans based
    by_cases stays : row.role = .owner
    · exact .inl (activeOwner_iff.mpr ⟨inOrg.trans here, stays, active⟩)
    · exact .inr ((fresh here base found owner stays).2 alive)

theorem MemberFresh.updated (fresh : MemberFresh orgId db call) (knows : MemberKnows db call)
    (stands : call.stage = .updated current owners row) : Spares orgId db call.operator row := by
  simp only [MemberKnows, stands] at knows
  simp only [MemberFresh, stands] at fresh
  obtain ⟨cleared, base, found, inOrg, applied⟩ := knows
  have only {base' : MembershipRow} (found' : db.memberships.find? row.id = some base') : base' = base :=
    Option.some.inj (found'.symm.trans found)
  refine ⟨fun base' found' => ?_, fun base' found' based owner => ?_, fun base' found' owned => ?_⟩
  · rw [only found', applied, MemberRequest.apply_org]
  · obtain rfl := only found'
    by_cases changed : row.role ≠ .owner ∨ row.status ≠ base'.status
    · exact .inr (cleared.manages (fresh (inOrg.symm.trans based) base' found owner changed).1)
    · push Not at changed
      exact .inl ⟨changed.1.trans owner.symm, changed.2⟩
  · obtain rfl := only found'
    obtain ⟨based, owner, alive⟩ := activeOwner_iff.mp owned
    by_cases changed : row.role ≠ .owner ∨ row.status ≠ base'.status
    · right
      obtain ⟨read, still⟩ := fresh (inOrg.symm.trans based) base' found owner changed
      obtain ⟨readActive, remain⟩ := still alive
      obtain ⟨role, status⟩ : row.role = (call.request.apply current).role ∧ row.status = (call.request.apply current).status := by
        rw [applied]
        exact MemberRequest.apply_congr (owner.trans read.symm) (alive.trans readActive.symm)
      rw [role, status, alive] at changed
      obtain ⟨ids, counted, distinct, enough⟩ := cleared.counted read readActive changed
      obtain ⟨other, -, apart, owner', located, alive'⟩ := remain ids counted (exists_other distinct enough row.id)
      obtain ⟨member, rfl⟩ := Table.find?_eq_some.mp located
      exact ⟨owner', member, apart, alive'⟩
    · push Not at changed
      left
      rw [activeOwner_iff, applied, MemberRequest.apply_org, ← applied]
      exact ⟨based, changed.1, changed.2.trans alive⟩

theorem MemberCommitted.writes (committed : MemberCommitted db call db') (knows : MemberKnows db call)
    (fresh : MemberFresh orgId db call) : ∃ row ∈ db'.memberships, Spares orgId db call.operator row ∧
      ∀ other ∈ db.memberships, other.id ≠ row.id → other ∈ db'.memberships := by
  cases committed with
  | @upserted user row stands =>
    exact ⟨row, Table.mem_upsert.mpr (.inl rfl), fresh.upserted knows stands,
      fun other member apart => Table.mem_upsert.mpr (.inr ⟨member, apart⟩)⟩
  | @updated current row owners stands =>
    have spares := fresh.updated knows stands
    simp only [MemberKnows, stands] at knows
    obtain ⟨-, base, found, -⟩ := knows
    exact ⟨row, Table.mem_of_find? (Table.find?_put_self found), spares, fun other member apart => Table.mem_put.mpr (.inl ⟨member, apart⟩)⟩

theorem MemberCommitted.hasOwner (committed : MemberCommitted db call db') (knows : MemberKnows db call)
    (fresh : MemberFresh orgId db call) (owned : HasOwner orgId db) : HasOwner orgId db' := by
  obtain ⟨row, written, spares, others⟩ := committed.writes knows fresh
  obtain ⟨owner, member, active⟩ := owned
  by_cases same : owner.id = row.id
  · have found := Table.find?_of_mem member
    rw [same] at found
    rcases spares.ends owner found active with stays | ⟨other, member', apart, active'⟩
    · exact ⟨row, written, stays⟩
    · exact ⟨other, others other member' apart, active'⟩
  · exact ⟨owner, others owner member same, active⟩

theorem MemberCommitted.managed (committed : MemberCommitted db call db') (knows : MemberKnows db call)
    (fresh : MemberFresh orgId db call) : Managed orgId call.operator db db' := by
  obtain ⟨row, written, spares, others⟩ := committed.writes knows fresh
  intro base member based owner
  by_cases same : base.id = row.id
  · have found := Table.find?_of_mem member
    rw [same] at found
    rcases spares.changes base found based owner with ⟨role, status⟩ | mine
    · exact .inr ⟨row, written, same.symm, spares.org base found, role, status⟩
    · exact .inl mine
  · exact .inr ⟨base, others base member same, rfl, rfl, rfl, rfl⟩

theorem member_keeps (orgId : OrgId) : memberTransactions.Keeps (MemberFresh orgId) (HasOwner orgId) MemberKnows where
  opened {db call} _ opens := by
    obtain ⟨operator, orgId, request, stage⟩ := call
    cases stage <;> trivial
  statement _ knows moved := by
    obtain ⟨stage, taken, rfl⟩ := Option.map_eq_some_iff.mp moved
    exact memberStatement_knows knows taken
  committed owned knows fresh committed := by
    obtain ⟨written, answer, rfl⟩ := memberCommit_cases committed
    exact ⟨written.hasOwner knows fresh owned, trivial⟩
  others _ _ knows _ apart committed := knows.others (memberCommit_cases committed).1 apart

variable {s₀ s : Sessions MemberDb MemberCall}
  {events : List (Sessions MemberDb MemberCall × TransactionLabel MemberCall MemberChance)}

/-- While owners' memberships are changed on what still stands, a workspace keeps an active owner, and only owners
change owners' memberships. -/
theorem owner_kept (run : Run memberTransactions.step s₀ events s) (idle : s₀.sessions = .empty)
    (owned : HasOwner orgId s₀.db) (fresh : Conforms (memberTransactions.CommitsMeet (MemberFresh orgId)) events) :
    HasOwner orgId s.db ∧ ∀ e ∈ events, ∀ call db', memberTransactions.Commits e.1 e.2 call db' →
      Managed orgId call.operator e.1.db db' := by
  have keeps := member_keeps orgId
  refine ⟨(keeps.run run idle owned fresh).inv, fun e member call db' commits => ?_⟩
  obtain ⟨-, knows, met⟩ := keeps.commits run idle owned fresh member commits
  obtain ⟨_, _, _, -, -, -, committed⟩ := commits
  exact (memberCommit_cases committed).1.managed knows met

section Example

def founder : MembershipRow := ⟨1, 1, 1, .owner, .active, some 0⟩
def partner : MembershipRow := ⟨2, 1, 2, .owner, .active, some 0⟩

def workspace (both : Bool) : Sessions MemberDb MemberCall where
  db := {
    orgs := [1]
    users := ⟨[⟨1, "ann@x.io", "ann"⟩, ⟨2, "bo@x.io", "bo"⟩], by decide⟩
    memberships := if both then ⟨[founder, partner], by decide⟩ else ⟨[founder], by decide⟩ }
  sessions := .empty

def anOwner : OperatorContext := ⟨1, .owner⟩
def anAdmin : OperatorContext := ⟨3, .admin⟩

def statements (ids : List Nat) : List (TransactionLabel MemberCall MemberChance) := ids.map fun id => .statement id ⟨7, 1⟩

def overwriting : List (TransactionLabel MemberCall MemberChance) :=
  .opened 1 ⟨anAdmin, 1, .addMember ⟨"Ann@x.io", none, .viewer⟩, .started⟩ :: (statements [1, 1, 1] ++ [.commit 1])

def demotions : List (TransactionLabel MemberCall MemberChance) :=
  [.opened 1 ⟨anOwner, 1, .updateMember 1 .viewer, .started⟩, .opened 2 ⟨anOwner, 1, .removeMember 2, .started⟩] ++
    statements [1, 2, 1, 2, 1, 2] ++ [.commit 1, .commit 2]

theorem owner_lost :
    (∃ events s, Run memberTransactions.step (workspace false) events s ∧ ¬HasOwner 1 s.db ∧
      ∃ e ∈ events, ∃ call db', memberTransactions.Commits e.1 e.2 call db' ∧ ¬Managed 1 call.operator e.1.db db') ∧
    ∃ events s, Run memberTransactions.step (workspace true) events s ∧ ¬HasOwner 1 s.db := by
  constructor
  · have found : ∃ events s, Run memberTransactions.step (workspace false) events s ∧ ¬HasOwner 1 s.db ∧
        ∃ e ∈ events, ((memberTransactions.committing e.1 e.2).any fun c => ¬Managed 1 c.1.operator e.1.db c.2) = true :=
      exists_run_with overwriting _ rfl
    obtain ⟨events, s, run, ended, e, member, misses⟩ := found
    obtain ⟨⟨call, db'⟩, commits, misses⟩ := (Option.any_eq_true _ _).mp misses
    exact ⟨events, s, run, ended, e, member, call, db', Transactions.commits_iff.mpr commits, of_decide_eq_true misses⟩
  · exact exists_run demotions (fun s : Sessions MemberDb MemberCall => ¬HasOwner 1 s.db) rfl

def memberFreshCheck (db : MemberDb) (call : MemberCall) : Bool :=
  match call.stage with
  | .upserted _ row => (db.memberships.find? row.id).all fun base => base.role ≠ .owner
  | .updated current owners row => db.memberships.find? row.id = some current &&
      (current.role ≠ .owner || current.status = .active && (owners.getD []).all fun id =>
        (db.memberships.find? id).any fun owner => owner.activeOwner 1)
  | _ => true

theorem memberFresh_of_check (db : MemberDb) (call : MemberCall) (passes : memberFreshCheck db call = true) :
    MemberFresh 1 db call := by
  unfold memberFreshCheck at passes
  unfold MemberFresh
  intro _
  cases stands : call.stage with
  | upserted user row =>
    intro base found owner
    simp [stands, found, owner] at passes
  | updated current owners row =>
    intro base found owner changed
    simp only [stands, Bool.and_eq_true, decide_eq_true_eq, Bool.or_eq_true] at passes
    obtain ⟨same, rest⟩ := passes
    obtain rfl := Option.some.inj (found.symm.trans same)
    obtain ⟨active, all⟩ := rest.resolve_left (not_not.mpr owner)
    refine ⟨owner, fun _ => ⟨active, fun ids counted another => ?_⟩⟩
    obtain ⟨other, member, apart⟩ := another
    rw [counted, Option.getD_some, List.all_eq_true] at all
    obtain ⟨owner', located, still⟩ := (Option.any_eq_true _ _).mp (all other member)
    exact ⟨other, member, apart, owner', located, still⟩
  | _ => trivial

/-- A member is added, the founder is demoted, and the partner, the last owner then, may not leave. -/
theorem owner_kept_after_demotion : ∃ events s, Run memberTransactions.step (workspace true) events s ∧
    (s.db.memberships.rows.map fun row => (row.id, row.role)) = [(7, .admin), (1, .viewer), (2, .owner)] ∧
    HasOwner 1 s.db ∧ ∀ e ∈ events, ∀ call db', memberTransactions.Commits e.1 e.2 call db' →
      Managed 1 call.operator e.1.db db' := by
  obtain ⟨events, s, run, fresh, reached⟩ : ∃ events s, Run memberTransactions.step (workspace true) events s ∧
      Conforms (memberTransactions.CommitsMeet (MemberFresh 1)) events ∧
      (s.db.memberships.rows.map fun row => (row.id, row.role)) = [(7, .admin), (1, .viewer), (2, .owner)] :=
    exists_conforming_run
      (.opened 1 ⟨anAdmin, 1, .addMember ⟨"cy@x.io", none, .admin⟩, .started⟩ :: (statements [1, 1, 1] ++
        [.commit 1, .opened 2 ⟨anOwner, 1, .updateMember 1 .viewer, .started⟩] ++ statements [2, 2, 2] ++
        [.commit 2, .opened 3 ⟨anOwner, 1, .removeMember 2, .started⟩] ++ statements [3, 3]))
      (fun s label => (memberTransactions.committing s label).all fun c => memberFreshCheck s.db c.1) _
      (fun _ _ => Transactions.commitsMeet_of_check memberFresh_of_check) rfl
  exact ⟨events, s, run, reached, owner_kept run rfl (by decide) fresh⟩

end Example

end AgentOps.Identity
