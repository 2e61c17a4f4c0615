import AgentOps.Identity.Errors
import AgentOps.Identity.Ids
import AgentOps.Lib.ReadCommitted
import AgentOps.Lib.Text

namespace AgentOps.Identity
open Lib

/-! # Memberships of a workspace -/

abbrev MemberId := Nat
abbrev UserId := Nat

inductive Role where
  | owner
  | admin
  | operator
  | auditor
  | viewer
  | member
  deriving DecidableEq

inductive MembershipStatus where
  | active
  | invited
  | removed
  deriving DecidableEq

structure OperatorContext where
  actorId : ActorId
  role : Role
  deriving DecidableEq

structure UserRow where
  id : UserId
  email : String
  name : String
  deriving DecidableEq

structure MembershipRow where
  id : MemberId
  org_id : OrgId
  user_id : UserId
  role : Role
  status : MembershipStatus
  joined_at : Option Time
  deriving DecidableEq

/-- `users.email` is unique. -/
structure MemberDb where
  orgs : List OrgId
  users : Table UserRow.email
  memberships : Table MembershipRow.id

/-- `WHERE org_id = $1 AND id = $2` -/
def MemberDb.member? (db : MemberDb) (orgId : OrgId) (memberId : MemberId) : Option MembershipRow :=
  (db.memberships.find? memberId).filter fun row => row.org_id = orgId

/-- `WHERE org_id = $1 AND user_id = $2` -/
def MemberDb.membershipOf (db : MemberDb) (orgId : OrgId) (userId : UserId) : Option MembershipRow :=
  db.memberships.rows.find? fun row => row.org_id = orgId ∧ row.user_id = userId

def MembershipRow.activeOwner (row : MembershipRow) (orgId : OrgId) : Bool :=
  row.org_id = orgId && row.role = .owner && row.status = .active

/-- The owners that `activeOwnerCount` counts -/
def MemberDb.activeOwners (db : MemberDb) (orgId : OrgId) : List MemberId :=
  (db.memberships.rows.filter fun row => row.activeOwner orgId).map MembershipRow.id

def assertCanManageOwnerRole (operator : OperatorContext) (role : Role) : Except Failure Unit :=
  if role = .owner ∧ operator.role ≠ .owner then
    .error (forbidden "Only workspace owners can manage owner memberships.")
  else .ok ()

def lastOwnerRequired : Failure := conflict "last_owner_required" "A workspace must keep at least one active owner."

def memberNotFound : Failure := notFound "Workspace member was not found."

structure AddMemberInput where
  email : String
  name : Option String
  role : Role
  deriving DecidableEq

inductive MemberRequest where
  | addMember (input : AddMemberInput)
  | updateMember (memberId : MemberId) (role : Role)
  | removeMember (memberId : MemberId)
  deriving DecidableEq

inductive MemberStage where
  | started
  | userResolved (user : UserRow)
  | resolved (user : UserRow) (memberId : MemberId)
  | upserted (user : UserRow) (row : MembershipRow)
  | counting (current : MembershipRow)
  | checked (current : MembershipRow) (owners : Option (List MemberId))
  | updated (current : MembershipRow) (owners : Option (List MemberId)) (row : MembershipRow)
  | finished (answer : Except Failure MembershipRow)

structure MemberCall where
  operator : OperatorContext
  orgId : OrgId
  request : MemberRequest
  stage : MemberStage

structure MemberChance where
  id : Nat
  now : Time

inductive MemberLock where
  | user (email : String)
  | member (id : MemberId)
  | membership (orgId : OrgId) (userId : UserId)
  deriving DecidableEq

def memberEmail (input : AddMemberInput) : String := lower (trim input.email)

/-- `input.name?.trim() || fallbackName` -/
def memberName (input : AddMemberInput) : String :=
  let name := (input.name.map trim).getD ""
  if name = "" then String.ofList ((memberEmail input).toList.takeWhile (· ≠ '@')) else name

/-- `INSERT INTO users ... ON CONFLICT (email) DO UPDATE` -/
def upsertedUser (db : MemberDb) (input : AddMemberInput) (id : UserId) : UserRow :=
  match db.users.find? (memberEmail input) with
  | some user => { user with name := if memberName input = "" then user.name else memberName input }
  | none => ⟨id, memberEmail input, memberName input⟩

def addMember (db : MemberDb) (call : MemberCall) (input : AddMemberInput) (chance : MemberChance) : Option MemberStage :=
  match call.stage with
  | .started =>
    if call.orgId ∉ db.orgs then some (.finished (.error (notFound "Org was not found.")))
    else match assertCanManageOwnerRole call.operator input.role with
      | .error failure => some (.finished (.error failure))
      | .ok () => some (.userResolved (upsertedUser db input chance.id))
  | .userResolved user => some (.resolved user (((db.membershipOf call.orgId user.id).map (·.id)).getD chance.id))
  | .resolved user memberId =>
    match db.membershipOf call.orgId user.id with
    | some row =>
      some (.upserted user { row with role := input.role, status := .active, joined_at := row.joined_at.or (some chance.now) })
    | none =>
      if (db.memberships.find? memberId).isSome then some (.finished (.error (.constraint "memberships_pkey")))
      else some (.upserted user ⟨memberId, call.orgId, user.id, input.role, .active, some chance.now⟩)
  | _ => none

def countOwners (db : MemberDb) (orgId : OrgId) (current : MembershipRow) : MemberStage :=
  let owners := db.activeOwners orgId
  if owners.length ≤ 1 then .finished (.error lastOwnerRequired) else .checked current (some owners)

def updateMember (db : MemberDb) (call : MemberCall) (memberId : MemberId) (role : Role) : Option MemberStage :=
  match call.stage with
  | .started =>
    match db.member? call.orgId memberId with
    | none => some (.finished (.error memberNotFound))
    | some current =>
      match (do assertCanManageOwnerRole call.operator current.role; assertCanManageOwnerRole call.operator role) with
      | .error failure => some (.finished (.error failure))
      | .ok () =>
        if current.role = .owner ∧ role ≠ .owner ∧ current.status = .active then some (.counting current)
        else some (.checked current none)
  | .counting current => some (countOwners db call.orgId current)
  | .checked current owners =>
    match db.member? call.orgId memberId with
    | none => some (.finished (.error memberNotFound))
    | some row => some (.updated current owners { row with role })
  | _ => none

def removeMember (db : MemberDb) (call : MemberCall) (memberId : MemberId) : Option MemberStage :=
  match call.stage with
  | .started =>
    match db.member? call.orgId memberId with
    | none => some (.finished (.error memberNotFound))
    | some current =>
      match assertCanManageOwnerRole call.operator current.role with
      | .error failure => some (.finished (.error failure))
      | .ok () =>
        if current.role = .owner ∧ current.status = .active then some (.counting current) else some (.checked current none)
  | .counting current => some (countOwners db call.orgId current)
  | .checked current owners =>
    match db.member? call.orgId memberId with
    | none => some (.finished (.error memberNotFound))
    | some row => some (.updated current owners { row with status := .removed })
  | _ => none

def memberStatement (db : MemberDb) (call : MemberCall) (chance : MemberChance) : Option MemberStage :=
  match call.request with
  | .addMember input => addMember db call input chance
  | .updateMember memberId role => updateMember db call memberId role
  | .removeMember memberId => removeMember db call memberId

def memberCommit (db : MemberDb) : MemberStage → Option (MemberDb × MemberStage)
  | .upserted user row =>
    some ({ db with users := db.users.upsert user, memberships := db.memberships.upsert row }, .finished (.ok row))
  | .updated _ _ row => some ({ db with memberships := db.memberships.put row }, .finished (.ok row))
  | _ => none

def MemberStage.locks : MemberStage → List MemberLock
  | .userResolved user | .resolved user _ => [.user user.email]
  | .upserted user row => [.user user.email, .member row.id, .membership row.org_id row.user_id]
  | .updated _ _ row => [.member row.id]
  | _ => []

def memberTransactions : Transactions MemberDb MemberCall MemberChance MemberLock where
  opens call := match call.stage with | .started => true | _ => false
  statement db call chance := (memberStatement db call chance).map fun stage => { call with stage }
  commit db call := (memberCommit db call.stage).map fun (db, stage) => (db, { call with stage })
  locks call := call.stage.locks
  opens_free := by
    rintro ⟨operator, orgId, request, stage⟩ opens
    cases stage <;> first | rfl | cases opens
  commit_free := by
    rintro db ⟨operator, orgId, request, stage⟩ db' call' committed
    obtain ⟨⟨_, stage'⟩, written, same⟩ := Option.map_eq_some_iff.mp committed
    obtain ⟨-, rfl⟩ := Prod.mk.inj same
    cases stage <;> simp only [memberCommit, reduceCtorEq, Option.some.injEq, Prod.mk.injEq] at written
    all_goals
      obtain ⟨-, rfl⟩ := written
      rfl

end AgentOps.Identity
