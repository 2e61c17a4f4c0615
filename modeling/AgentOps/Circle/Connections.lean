import AgentOps.Identity.Errors
import AgentOps.Identity.Ids
import AgentOps.Lib.Outcome
import AgentOps.Lib.Table
import AgentOps.Lib.Text

namespace AgentOps.Circle
open Lib Identity

/-! # The Circle connection of an organization -/

abbrev CircleConnectionId := Nat
abbrev CircleChallengeId := Nat

inductive CircleConnectionStatus where
  | disconnected
  | otp_pending
  | connected
  | expired
  | blocked
  deriving DecidableEq

inductive CircleChallengeStatus where
  | pending
  | verified
  | expired
  | failed
  | blocked
  deriving DecidableEq

structure CircleSessionCiphertext where
  ciphertext : String
  iv : String
  tag : String
  deriving DecidableEq

structure CircleProfileBundle where
  files : List (String × String)
  deriving DecidableEq

structure StoredProfile where
  bundle : CircleProfileBundle
  email : String
  deriving DecidableEq

structure StoredCircleConnection where
  createdByUserId : ActorId
  emailHash : Option Hash
  encryptedProfile : CircleSessionCiphertext
  expiresAt : Option Time
  id : CircleConnectionId
  revision : Nat
  status : CircleConnectionStatus
  verifiedAt : Option Time
  last_error_code : Option String
  deriving DecidableEq

structure StoredCircleChallenge where
  connectionId : CircleConnectionId
  connectionRevision : Nat
  encryptedRequest : CircleSessionCiphertext
  expiresAt : Time
  id : CircleChallengeId
  status : CircleChallengeStatus
  userId : ActorId
  attempt_count : Nat
  deriving DecidableEq

structure CircleOrg where
  connection : Option StoredCircleConnection
  challenges : Table StoredCircleChallenge.id

def CircleOrg.empty : CircleOrg := ⟨none, .empty⟩

/-- The organization, and the functions of `circle-session-crypto.ts` with its key. The text is the random part. -/
structure CircleDeployment where
  orgId : OrgId
  encryptProfile : OrgId → Nat → StoredProfile → String → Except Failure CircleSessionCiphertext
  decryptProfile : OrgId → Nat → CircleSessionCiphertext → Except Failure StoredProfile
  encryptRequest : OrgId → Nat → String → String → Except Failure CircleSessionCiphertext
  decryptRequest : OrgId → Nat → CircleSessionCiphertext → Except Failure String
  emailHash : String → Hash

structure ConnectionResult where
  challengeId : Option CircleChallengeId
  email : String
  expiresAt : Option Time
  status : CircleConnectionStatus
  deriving DecidableEq

def CHALLENGE_TTL : Time := 10 * 60 * 1000000

def SESSION_TTL : Time := 7 * 24 * 60 * 60 * 1000000

def isEmail (text : List Char) : Bool :=
  match text.splitOn '@' with
  | [localPart, domain] =>
    !localPart.isEmpty && !text.any isSpace && (domain.tail.dropLast).contains '.'
  | _ => false

def normalizeEmail (value : String) : Except Failure String :=
  let email := lower (trim value)
  if isEmail email.toList then .ok email else .error (.thrown "circle_connection_email_invalid")

def errorCode : Failure → String
  | .thrown message => if startsWith message "circle_" then message else "circle_connection_login_failed"
  | _ => "circle_connection_login_failed"

def StoredCircleChallenge.expire (selected : StoredCircleChallenge → Bool) (row : StoredCircleChallenge) :
    StoredCircleChallenge :=
  if row.status = .pending ∧ selected row then { row with status := .expired } else row

theorem StoredCircleChallenge.expire_id {selected : StoredCircleChallenge → Bool} (row : StoredCircleChallenge) :
    (row.expire selected).id = row.id := by
  unfold expire
  split <;> rfl

namespace CircleOrg

def pendingChallenge (s : CircleOrg) : Option StoredCircleChallenge :=
  s.challenges.rows.find? fun row => row.status = .pending

def expirePending (s : CircleOrg) (selected : StoredCircleChallenge → Bool) : CircleOrg :=
  { s with challenges := s.challenges.rewrite (·.expire selected) StoredCircleChallenge.expire_id }

def disconnectConnection (s : CircleOrg) (connectionId : CircleConnectionId) (encryptedProfile : CircleSessionCiphertext)
    (revision : Nat) : Except Failure CircleOrg :=
  match s.connection.filter fun row => row.id = connectionId with
  | none => .error (.thrown "circle_connection_disconnect_conflict")
  | some row =>
    .ok { s.expirePending fun challenge => challenge.connectionId = connectionId with
      connection := some { row with
        emailHash := none, encryptedProfile, revision, status := .disconnected, verifiedAt := none, expiresAt := none,
        last_error_code := none } }

def upserted (s : CircleOrg) (connection : StoredCircleConnection) : StoredCircleConnection :=
  match s.connection with
  | none => connection
  | some old => { connection with id := old.id, createdByUserId := old.createdByUserId }

def savePendingChallenge (s : CircleOrg) (challenge : StoredCircleChallenge) (connection : StoredCircleConnection) :
    Except Failure CircleOrg :=
  let row := s.upserted connection
  match (s.expirePending fun _ => true).challenges.insert? challenge with
  | none => .error (conflict "circle_email_already_connected" "This Circle email is already connected to another workspace.")
  | some challenges =>
    if challenge.connectionId = row.id then .ok ⟨some row, challenges⟩
    else .error (.constraint "circle_connection_challenges_connection_fk")

def saveVerifiedConnection (s : CircleOrg) (challengeId : CircleChallengeId) (connection : StoredCircleConnection) :
    CircleOrg where
  connection := s.connection.map fun row =>
    if row.id = connection.id ∧ row.revision = connection.revision then
      { row with
        encryptedProfile := connection.encryptedProfile, status := .connected, verifiedAt := connection.verifiedAt,
        expiresAt := connection.expiresAt, last_error_code := none }
    else row
  challenges := s.challenges.modify challengeId fun row =>
    if row.connectionId = connection.id ∧ row.status = .pending then { row with status := .verified } else row

def saveFailedChallenge (s : CircleOrg) (challengeId : CircleChallengeId) (connectionId : CircleConnectionId)
    (errorCode : String) : CircleOrg where
  connection := s.connection.map fun row =>
    if row.id = connectionId ∧ row.status = .otp_pending then
      { row with status := .disconnected, last_error_code := some errorCode }
    else row
  challenges := s.challenges.modify challengeId fun row =>
    if row.connectionId = connectionId ∧ row.status = .pending then
      { row with status := .failed, attempt_count := row.attempt_count + 1 }
    else row

end CircleOrg

structure InitializeChance where
  now : Time
  /-- `initializeLogin` in its workspace: the request, and the files that it leaves -/
  login : Except Failure (String × CircleProfileBundle)
  later : Time
  connectionId : CircleConnectionId
  challengeId : CircleChallengeId
  profileIv : String
  requestIv : String
  saved : Outcome Failure

structure CompleteInput where
  challengeId : CircleChallengeId
  orgId : OrgId
  userId : ActorId

/-- `completeLogin` and `status`, and the files that they leave -/
structure CompletedLogin where
  email : String
  sessionEmail : Option String
  tokenStatus : String
  bundle : CircleProfileBundle

structure CompleteChance where
  now : Time
  login : Except Failure CompletedLogin
  verifiedAt : Time
  profileIv : String
  saved : Outcome Failure
  failed : Outcome Failure

structure DisconnectChance where
  profileIv : String
  saved : Outcome Failure

inductive CircleLabel where
  | initializes (userId : ActorId) (email : String) (chance : InitializeChance)
  | complete (input : CompleteInput) (chance : CompleteChance)
  | disconnect (userId : ActorId) (chance : DisconnectChance)

section

variable (d : CircleDeployment)

def disconnect (s : CircleOrg) (chance : DisconnectChance) : CircleOrg × Except Failure ConnectionResult :=
  match s.connection with
  | none => (s, .ok ⟨none, "", none, .disconnected⟩)
  | some connection =>
    match d.encryptProfile d.orgId (connection.revision + 1) ⟨⟨[]⟩, ""⟩ chance.profileIv with
    | .error failure => (s, .error failure)
    | .ok encryptedProfile =>
      match chance.saved.transact s (s.disconnectConnection connection.id encryptedProfile (connection.revision + 1)) with
      | (s', some failure) => (s', .error failure)
      | (s', none) => (s', .ok ⟨none, "", none, .disconnected⟩)

def liveChallenge (s : CircleOrg) (existing : StoredCircleConnection) (now : Time) : Option StoredCircleChallenge :=
  if existing.status = .otp_pending then
    s.pendingChallenge.filter fun challenge =>
      challenge.connectionId = existing.id && challenge.connectionRevision = existing.revision && now < challenge.expiresAt
  else none

/-- `initialize` before its login: the answer of a repeated call, or the files to begin with -/
def resumed (s : CircleOrg) (userId : ActorId) (email : String) (now : Time) :
    Except Failure (ConnectionResult ⊕ Option CircleProfileBundle) :=
  match s.connection with
  | none => .ok (.inr none)
  | some existing =>
    match d.decryptProfile d.orgId existing.revision existing.encryptedProfile with
    | .error failure => if failure = .thrown "circle_session_decryption_failed" then .ok (.inr none) else .error failure
    | .ok stored =>
      if existing.status = .connected ∧ existing.expiresAt.any (now < ·) then
        .error (.thrown "circle_connection_already_connected")
      else
        match liveChallenge s existing now with
        | some challenge =>
          if challenge.userId = userId ∧ stored.email = email then .ok (.inl ⟨some challenge.id, email, none, .otp_pending⟩)
          else .error (.thrown "circle_connection_verification_in_progress")
        | none => .ok (.inr (if stored.email = email then some stored.bundle else none))

def issueChallenge (s : CircleOrg) (userId : ActorId) (email requestId : String) (bundle : CircleProfileBundle)
    (chance : InitializeChance) : CircleOrg × Except Failure ConnectionResult :=
  let revision := (s.connection.elim 0 StoredCircleConnection.revision) + 1
  let connectionId := s.connection.elim chance.connectionId StoredCircleConnection.id
  match d.encryptProfile d.orgId revision ⟨bundle, email⟩ chance.profileIv,
    d.encryptRequest d.orgId revision requestId chance.requestIv with
  | .error failure, _ => (s, .error failure)
  | .ok _, .error failure => (s, .error failure)
  | .ok encryptedProfile, .ok encryptedRequest =>
    let connection := ⟨userId, some (d.emailHash email), encryptedProfile, none, connectionId, revision, .otp_pending, none, none⟩
    let challenge := ⟨connectionId, revision, encryptedRequest, chance.later + CHALLENGE_TTL, chance.challengeId, .pending,
      userId, 0⟩
    match chance.saved.transact s (s.savePendingChallenge challenge connection) with
    | (s', some failure) => (s', .error failure)
    | (s', none) => (s', .ok ⟨some chance.challengeId, email, none, .otp_pending⟩)

def initializeConnection (s : CircleOrg) (userId : ActorId) (email : String) (chance : InitializeChance) :
    CircleOrg × Except Failure ConnectionResult :=
  match normalizeEmail email with
  | .error failure => (s, .error failure)
  | .ok email =>
    match resumed d s userId email chance.now with
    | .error failure => (s, .error failure)
    | .ok (.inl result) => (s, .ok result)
    | .ok (.inr _) =>
      match chance.login with
      | .error failure => (s, .error failure)
      | .ok (requestId, bundle) => issueChallenge d s userId email requestId bundle chance

def challengeNotFound : Failure := .thrown "circle_connection_challenge_not_found"

/-- The rows of a challenge that `complete` accepts -/
def openChallenge (s : CircleOrg) (input : CompleteInput) (now : Time) :
    Except Failure (StoredCircleChallenge × StoredCircleConnection) :=
  match s.challenges.find? input.challengeId with
  | none => .error challengeNotFound
  | some challenge =>
    if d.orgId ≠ input.orgId ∨ challenge.userId ≠ input.userId ∨ challenge.status ≠ .pending ∨ challenge.expiresAt ≤ now then
      .error challengeNotFound
    else
      match s.connection with
      | none => .error challengeNotFound
      | some connection =>
        if connection.id ≠ challenge.connectionId ∨ connection.revision ≠ challenge.connectionRevision ∨
            connection.status ≠ .otp_pending then
          .error challengeNotFound
        else .ok (challenge, connection)

def matchingLogin (stored : StoredProfile) (login : Except Failure CompletedLogin) : Except Failure CircleProfileBundle :=
  match login with
  | .error failure => .error failure
  | .ok workspace =>
    match normalizeEmail workspace.email, (workspace.sessionEmail.mapM normalizeEmail) with
    | .error failure, _ => .error failure
    | .ok _, .error failure => .error failure
    | .ok completedEmail, .ok sessionEmail =>
      if completedEmail ≠ stored.email ∨ sessionEmail ≠ some stored.email ∨ workspace.tokenStatus ≠ "VALID" then
        .error (.thrown "circle_session_email_mismatch")
      else .ok workspace.bundle

def failChallenge (s : CircleOrg) (challenge : StoredCircleChallenge) (connection : StoredCircleConnection) (failure : Failure)
    (chance : CompleteChance) : CircleOrg × Except Failure ConnectionResult :=
  match chance.failed.transact s (.ok (s.saveFailedChallenge challenge.id connection.id (errorCode failure))) with
  | (s', none) => (s', .error failure)
  | (s', some other) => (s', .error other)

def complete (s : CircleOrg) (input : CompleteInput) (chance : CompleteChance) : CircleOrg × Except Failure ConnectionResult :=
  match openChallenge d s input chance.now with
  | .error failure => (s, .error failure)
  | .ok (challenge, connection) =>
    match d.decryptProfile d.orgId connection.revision connection.encryptedProfile,
      d.decryptRequest d.orgId connection.revision challenge.encryptedRequest with
    | .error failure, _ => (s, .error failure)
    | .ok _, .error failure => (s, .error failure)
    | .ok stored, .ok _ =>
      match matchingLogin stored chance.login >>= fun bundle =>
        d.encryptProfile d.orgId connection.revision ⟨bundle, stored.email⟩ chance.profileIv with
      | .error failure => failChallenge s challenge connection failure chance
      | .ok encryptedProfile =>
        let expiresAt := chance.verifiedAt + SESSION_TTL
        let verified := { connection with
          encryptedProfile, expiresAt := some expiresAt, status := .connected, verifiedAt := some chance.verifiedAt }
        match chance.saved.transact s (.ok (s.saveVerifiedConnection challenge.id verified)) with
        | (s', some failure) => failChallenge s' challenge connection failure chance
        | (s', none) => (s', .ok ⟨none, stored.email, some expiresAt, .connected⟩)

def perform (s : CircleOrg) : CircleLabel → CircleOrg × Except Failure ConnectionResult
  | .initializes userId email chance => initializeConnection d s userId email chance
  | .complete input chance => complete d s input chance
  | .disconnect _ chance => disconnect d s chance

/-- The lock of the organization lets one operation go at a time. -/
def circleStep (s : CircleOrg) (label : CircleLabel) : Option CircleOrg := some (perform d s label).1

end

end AgentOps.Circle
