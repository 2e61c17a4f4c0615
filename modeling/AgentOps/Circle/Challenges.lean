import AgentOps.Circle.Connections
import AgentOps.Lib.Transition

namespace AgentOps.Circle
open Lib Identity

/-! # Challenges of a Circle connection, over runs of the operations -/

def CircleOrg.isConnected (s : CircleOrg) : Prop := ∃ row, s.connection = some row ∧ row.status = .connected

/-- The rows of a challenge that can be completed, and who may complete it -/
structure Opened (s : CircleOrg) (input : CompleteInput) (now : Time) (challenge : StoredCircleChallenge)
    (connection : StoredCircleConnection) : Prop where
  found : s.challenges.find? input.challengeId = some challenge
  user : challenge.userId = input.userId
  pending : challenge.status = .pending
  unexpired : now < challenge.expiresAt
  present : s.connection = some connection
  named : connection.id = challenge.connectionId
  revision : connection.revision = challenge.connectionRevision
  waiting : connection.status = .otp_pending

structure Matches (stored : StoredProfile) (login : CompletedLogin) : Prop where
  completed : normalizeEmail login.email = .ok stored.email
  session : ∃ email, login.sessionEmail = some email ∧ normalizeEmail email = .ok stored.email
  valid : login.tokenStatus = "VALID"

section

variable {d : CircleDeployment} {s : CircleOrg}

theorem openChallenge_ok {input : CompleteInput} {now : Time} {challenge : StoredCircleChallenge}
    {connection : StoredCircleConnection} (ok : openChallenge d s input now = .ok (challenge, connection)) :
    Opened s input now challenge connection := by
  unfold openChallenge at ok
  split at ok
  · cases ok
  rename_i row found
  split at ok
  · cases ok
  rename_i accepted
  split at ok
  · cases ok
  rename_i existing present
  split at ok
  · cases ok
  rename_i current
  obtain ⟨rfl, rfl⟩ := Prod.mk.inj (Except.ok.inj ok)
  simp only [not_or, not_not, Nat.not_le] at accepted current
  exact ⟨found, accepted.2.1, accepted.2.2.1, accepted.2.2.2, present, current.1, current.2.1, current.2.2⟩

theorem matchingLogin_ok {stored : StoredProfile} {login : Except Failure CompletedLogin} {bundle : CircleProfileBundle}
    (ok : matchingLogin stored login = .ok bundle) : ∃ workspace, login = .ok workspace ∧ Matches stored workspace := by
  unfold matchingLogin at ok
  split at ok
  · cases ok
  rename_i workspace
  split at ok
  · cases ok
  · cases ok
  rename_i completedEmail sessionEmail completed session
  split at ok
  · cases ok
  rename_i same
  simp only [not_or, not_not] at same
  obtain ⟨rfl, rfl, valid⟩ := same
  refine ⟨workspace, rfl, completed, ?_, valid⟩
  cases email : workspace.sessionEmail with
  | none =>
    rw [email] at session
    cases session
  | some email' =>
    rw [email] at session
    cases normalized : normalizeEmail email' with
    | error failure => simp [normalized, Functor.map, Except.map] at session
    | ok email'' =>
      have same : some email'' = some stored.email := by
        simpa [normalized, Functor.map, Except.map] using session
      exact ⟨email', rfl, by rw [normalized, Option.some.inj same]⟩

end

/-- What an operation can do. Only a challenge that is completed gets the answer `connected`. -/
inductive CircleMoved (d : CircleDeployment) (s : CircleOrg) : CircleLabel → CircleOrg → Except Failure ConnectionResult → Prop
  | still {label : CircleLabel} {answer : Except Failure ConnectionResult}
      (unconnected : ∀ result, answer = .ok result → result.status ≠ .connected) : CircleMoved d s label s answer
  | issued {userId : ActorId} {email : String} {chance : InitializeChance} {answer : Except Failure ConnectionResult}
      {challenge : StoredCircleChallenge} {row : StoredCircleConnection} {challenges : Table StoredCircleChallenge.id}
      (unconnected : ∀ result, answer = .ok result → result.status ≠ .connected)
      (inserted : (s.expirePending fun _ => true).challenges.insert? challenge = some challenges)
      (user : challenge.userId = userId) (named : challenge.id = chance.challengeId)
      (linked : challenge.connectionId = row.id) (waiting : row.status = .otp_pending) :
      CircleMoved d s (.initializes userId email chance) ⟨some row, challenges⟩ answer
  | cleared {userId : ActorId} {chance : DisconnectChance} {answer : Except Failure ConnectionResult}
      {connection row : StoredCircleConnection} (unconnected : ∀ result, answer = .ok result → result.status ≠ .connected)
      (present : s.connection = some connection) (disconnected : row.status = .disconnected) :
      CircleMoved d s (.disconnect userId chance)
        { s.expirePending fun challenge => challenge.connectionId = connection.id with connection := some row } answer
  | failed {input : CompleteInput} {chance : CompleteChance} {answer : Except Failure ConnectionResult}
      {challenge challenge' : StoredCircleChallenge} {connection row : StoredCircleConnection}
      (unconnected : ∀ result, answer = .ok result → result.status ≠ .connected)
      (opened : Opened s input chance.now challenge connection) (same : challenge'.id = challenge.id)
      (user : challenge'.userId = challenge.userId) (closed : challenge'.status = .failed) (named : row.id = connection.id)
      (disconnected : row.status = .disconnected) :
      CircleMoved d s (.complete input chance) ⟨some row, s.challenges.put challenge'⟩ answer
  | verified {input : CompleteInput} {chance : CompleteChance} {answer : Except Failure ConnectionResult}
      {challenge : StoredCircleChallenge} {connection row : StoredCircleConnection} {stored : StoredProfile}
      {login : CompletedLogin} (opened : Opened s input chance.now challenge connection)
      (read : d.decryptProfile d.orgId connection.revision connection.encryptedProfile = .ok stored)
      (answered : chance.login = .ok login) (emails : Matches stored login) (named : row.id = connection.id)
      (revision : row.revision = connection.revision) (connected : row.status = .connected) :
      CircleMoved d s (.complete input chance) ⟨some row, s.challenges.put { challenge with status := .verified }⟩ answer

section

variable {d : CircleDeployment} {s : CircleOrg}

theorem saveVerifiedConnection_opened {input : CompleteInput} {now : Time} {challenge : StoredCircleChallenge}
    {connection verified : StoredCircleConnection} (opened : Opened s input now challenge connection)
    (same : verified.id = connection.id) (revision : verified.revision = connection.revision) :
    s.saveVerifiedConnection challenge.id verified =
      ⟨some { connection with
          encryptedProfile := verified.encryptedProfile, status := .connected, verifiedAt := verified.verifiedAt,
          expiresAt := verified.expiresAt, last_error_code := none },
        s.challenges.put { challenge with status := .verified }⟩ := by
  have found := Table.find?_of_mem (Table.mem_of_find? opened.found)
  unfold CircleOrg.saveVerifiedConnection
  rw [Table.modify_of_find? found, opened.present]
  simp [same, revision, opened.named, opened.pending]

theorem saveFailedChallenge_opened {input : CompleteInput} {now : Time} {challenge : StoredCircleChallenge}
    {connection : StoredCircleConnection} {code : String} (opened : Opened s input now challenge connection) :
    s.saveFailedChallenge challenge.id connection.id code =
      ⟨some { connection with status := .disconnected, last_error_code := some code },
        s.challenges.put { challenge with status := .failed, attempt_count := challenge.attempt_count + 1 }⟩ := by
  have found := Table.find?_of_mem (Table.mem_of_find? opened.found)
  unfold CircleOrg.saveFailedChallenge
  rw [Table.modify_of_find? found, opened.present]
  simp [opened.named, opened.pending, opened.waiting]

theorem failChallenge_verified {input : CompleteInput} {chance : CompleteChance} {challenge : StoredCircleChallenge}
    {connection row : StoredCircleConnection} {stored : StoredProfile} {login : CompletedLogin} {failure : Failure}
    (opened : Opened s input chance.now challenge connection)
    (read : d.decryptProfile d.orgId connection.revision connection.encryptedProfile = .ok stored)
    (answered : chance.login = .ok login) (emails : Matches stored login) (named : row.id = connection.id)
    (revision : row.revision = connection.revision) (connected : row.status = .connected) :
    CircleMoved d s (.complete input chance)
      (failChallenge ⟨some row, s.challenges.put { challenge with status := .verified }⟩ challenge connection failure chance).1
      (failChallenge ⟨some row, s.challenges.put { challenge with status := .verified }⟩ challenge connection failure
        chance).2 := by
  let verified : StoredCircleChallenge := { challenge with status := .verified }
  have before : s.challenges.find? challenge.id = some challenge := Table.find?_of_mem (Table.mem_of_find? opened.found)
  have found : (s.challenges.put verified).find? challenge.id = some verified := Table.find?_put_self before
  have kept : (s.challenges.put verified).put verified = s.challenges.put verified := Table.put_of_find? found
  have same : CircleOrg.saveFailedChallenge ⟨some row, s.challenges.put verified⟩ challenge.id connection.id
      (errorCode failure) = ⟨some row, s.challenges.put verified⟩ := by
    have closed : verified.status = .verified := rfl
    unfold CircleOrg.saveFailedChallenge
    simp only [Table.modify_of_find? found, closed, connected, Option.map_some, reduceCtorEq, and_false, if_false, kept]
  unfold failChallenge
  rw [same]
  cases chance.failed with
  | done => exact .verified opened read answered emails named revision connected
  | failed error => exact .verified opened read answered emails named revision connected
  | lost error => exact .verified opened read answered emails named revision connected

theorem failChallenge_moved {input : CompleteInput} {chance : CompleteChance} {challenge : StoredCircleChallenge}
    {connection : StoredCircleConnection} {failure : Failure} (opened : Opened s input chance.now challenge connection) :
    CircleMoved d s (.complete input chance) (failChallenge s challenge connection failure chance).1
      (failChallenge s challenge connection failure chance).2 := by
  unfold failChallenge
  rw [saveFailedChallenge_opened opened]
  cases chance.failed with
  | done => exact .failed nofun opened rfl rfl rfl rfl rfl
  | failed error => exact .still nofun
  | lost error => exact .failed nofun opened rfl rfl rfl rfl rfl

theorem disconnect_moved {userId : ActorId} {chance : DisconnectChance} :
    CircleMoved d s (.disconnect userId chance) (disconnect d s chance).1 (disconnect d s chance).2 := by
  have unconnected (result : ConnectionResult)
      (same : Except.ok ⟨none, "", none, .disconnected⟩ = (Except.ok result : Except Failure ConnectionResult)) :
      result.status ≠ .connected := by
    obtain rfl := Except.ok.inj same
    nofun
  unfold disconnect
  split
  · exact .still unconnected
  rename_i connection present
  split
  · exact .still nofun
  rename_i encryptedProfile encrypted
  have saves : s.disconnectConnection connection.id encryptedProfile (connection.revision + 1) = .ok
      { s.expirePending fun challenge => challenge.connectionId = connection.id with
        connection := some { connection with
          emailHash := none, encryptedProfile, revision := connection.revision + 1, status := .disconnected,
          verifiedAt := none, expiresAt := none, last_error_code := none } } := by
    simp only [CircleOrg.disconnectConnection, present, Option.filter_some, decide_true, if_true]
  rw [saves]
  cases chance.saved with
  | done => exact .cleared unconnected present rfl
  | failed error => exact .still nofun
  | lost error => exact .cleared nofun present rfl

theorem issueChallenge_moved {userId : ActorId} {email requestId : String} {bundle : CircleProfileBundle} (given : String)
    {chance : InitializeChance} :
    CircleMoved d s (.initializes userId given chance) (issueChallenge d s userId email requestId bundle chance).1
      (issueChallenge d s userId email requestId bundle chance).2 := by
  unfold issueChallenge
  dsimp only
  split
  · exact .still nofun
  · exact .still nofun
  rename_i encryptedProfile encryptedRequest _ _
  have linked (connection : StoredCircleConnection)
      (id : connection.id = s.connection.elim chance.connectionId StoredCircleConnection.id) :
      (s.upserted connection).id = s.connection.elim chance.connectionId StoredCircleConnection.id := by
    unfold CircleOrg.upserted
    cases present : s.connection with
    | none => simpa [present] using id
    | some old => rfl
  have waiting (connection : StoredCircleConnection) (status : connection.status = .otp_pending) :
      (s.upserted connection).status = .otp_pending := by
    unfold CircleOrg.upserted
    split <;> exact status
  generalize saved : CircleOrg.savePendingChallenge s _ _ = written
  unfold CircleOrg.savePendingChallenge at saved
  dsimp only at saved
  split at saved
  · subst saved
    exact .still nofun
  rename_i challenges inserted
  rw [if_pos (linked _ rfl).symm] at saved
  subst saved
  cases chance.saved with
  | done =>
    refine .issued (fun result same => ?_) inserted rfl rfl (linked _ rfl).symm (waiting _ rfl)
    obtain rfl := Except.ok.inj same
    nofun
  | failed error => exact .still nofun
  | lost error => exact .issued nofun inserted rfl rfl (linked _ rfl).symm (waiting _ rfl)

theorem resumed_inl {userId : ActorId} {email : String} {now : Time} {result : ConnectionResult}
    (again : resumed d s userId email now = .ok (.inl result)) : result.status = .otp_pending := by
  unfold resumed at again
  split at again
  · cases again
  split at again
  · split at again <;> cases again
  split at again
  · cases again
  split at again
  · split at again
    · obtain rfl := Sum.inl.inj (Except.ok.inj again)
      rfl
    · cases again
  · cases again

theorem initializeConnection_moved {userId : ActorId} {email : String} {chance : InitializeChance} :
    CircleMoved d s (.initializes userId email chance) (initializeConnection d s userId email chance).1
      (initializeConnection d s userId email chance).2 := by
  unfold initializeConnection
  split
  · exact .still nofun
  rename_i normalized _
  split
  · exact .still nofun
  · rename_i result again
    refine .still fun other same => ?_
    obtain rfl := Except.ok.inj same
    rw [resumed_inl again]
    nofun
  split
  · exact .still nofun
  exact issueChallenge_moved email

theorem complete_moved {input : CompleteInput} {chance : CompleteChance} :
    CircleMoved d s (.complete input chance) (complete d s input chance).1 (complete d s input chance).2 := by
  unfold complete
  split
  · exact .still nofun
  rename_i challenge connection accepted
  have opened := openChallenge_ok accepted
  split
  · exact .still nofun
  · exact .still nofun
  rename_i stored _ read _
  split
  · exact failChallenge_moved opened
  · rename_i encryptedProfile matched
    obtain ⟨bundle, matching, encrypted⟩ := bind_eq_ok.mp matched
    obtain ⟨login, answered, emails⟩ := matchingLogin_ok matching
    dsimp only
    rw [saveVerifiedConnection_opened opened]
    · cases chance.saved with
      | done => exact .verified opened read answered emails rfl rfl rfl
      | failed error => exact failChallenge_moved opened
      | lost error => exact failChallenge_verified opened read answered emails rfl rfl rfl
    · rfl
    · rfl

theorem perform_moved {label : CircleLabel} : CircleMoved d s label (perform d s label).1 (perform d s label).2 := by
  cases label with
  | initializes userId email chance => exact initializeConnection_moved
  | complete input chance => exact complete_moved
  | disconnect userId chance => exact disconnect_moved

end

/-- The stored rows are changed by an operation that is not `complete`. -/
def Supersedes (d : CircleDeployment) (s : CircleOrg) (label : CircleLabel) : Prop :=
  (∀ input chance, label ≠ .complete input chance) ∧ (perform d s label).1 ≠ s

def StartedBy (userId : ActorId) (id : CircleChallengeId) (events : List (CircleOrg × CircleLabel)) : Prop :=
  ∃ e ∈ events, ∃ email chance, e.2 = .initializes userId email chance ∧ chance.challengeId = id ∧
    e.1.challenges.find? id = none

structure CircleSound (d : CircleDeployment) (events : List (CircleOrg × CircleLabel)) (s : CircleOrg) : Prop where
  one : ∀ challenge ∈ s.challenges, ∀ challenge' ∈ s.challenges, challenge.status = .pending →
    challenge'.status = .pending → challenge = challenge'
  linked : ∀ challenge ∈ s.challenges, challenge.status = .pending →
    ∃ row, s.connection = some row ∧ challenge.connectionId = row.id
  started : ∀ challenge ∈ s.challenges, StartedBy challenge.userId challenge.id events
  superseded : ∀ e ∈ events, Supersedes d e.1 e.2 → ∀ old ∈ e.1.challenges,
    ∃ challenge ∈ s.challenges, challenge.id = old.id ∧ challenge.status ≠ .pending

section

variable {d : CircleDeployment} {events : List (CircleOrg × CircleLabel)} {s s' : CircleOrg} {label : CircleLabel}

theorem StoredCircleChallenge.expire_userId {selected : StoredCircleChallenge → Bool} (row : StoredCircleChallenge) :
    (row.expire selected).userId = row.userId := by
  unfold expire
  split <;> rfl

theorem StoredCircleChallenge.expire_pending {selected : StoredCircleChallenge → Bool} {row : StoredCircleChallenge}
    (pending : (row.expire selected).status = .pending) : row.status = .pending ∧ selected row = false := by
  unfold expire at pending
  split at pending
  · cases pending
  · rename_i kept
    exact ⟨pending, by simpa [pending] using kept⟩

theorem mem_expirePending {selected : StoredCircleChallenge → Bool} {challenge : StoredCircleChallenge} :
    challenge ∈ (s.expirePending selected).challenges ↔ ∃ old ∈ s.challenges, old.expire selected = challenge :=
  List.mem_map

theorem StartedBy.append {userId : ActorId} {id : CircleChallengeId} (started : StartedBy userId id events)
    (later : List (CircleOrg × CircleLabel)) : StartedBy userId id (events ++ later) := by
  obtain ⟨e, member, found⟩ := started
  exact ⟨e, List.mem_append_left _ member, found⟩

namespace CircleSound

theorem closes (sound : CircleSound d events s)
    (fromOld : ∀ challenge ∈ s'.challenges, challenge.status ≠ .pending ∧
      ∃ old ∈ s.challenges, challenge.id = old.id ∧ challenge.userId = old.userId)
    (kept : ∀ old ∈ s.challenges, ∃ challenge ∈ s'.challenges, challenge.id = old.id) :
    CircleSound d (events ++ [(s, label)]) s' := by
  refine ⟨fun challenge member _ _ pending => ((fromOld challenge member).1 pending).elim,
    fun challenge member pending => ((fromOld challenge member).1 pending).elim, fun challenge member => ?_,
    fun e happened supersedes old present => ?_⟩
  · obtain ⟨-, old, present, id, user⟩ := fromOld challenge member
    rw [id, user]
    exact (sound.started old present).append _
  · have found : ∃ challenge ∈ s.challenges, challenge.id = old.id := by
      rcases List.mem_append.mp happened with before | now
      · obtain ⟨challenge, member, same, -⟩ := sound.superseded e before supersedes old present
        exact ⟨challenge, member, same⟩
      · obtain rfl := List.mem_singleton.mp now
        exact ⟨old, present, rfl⟩
    obtain ⟨challenge, member, same⟩ := found
    obtain ⟨later, there, named⟩ := kept challenge member
    exact ⟨later, there, named.trans same, (fromOld later there).1⟩

theorem completed {input : CompleteInput} {now : Time} {challenge challenge' : StoredCircleChallenge}
    {connection row : StoredCircleConnection} (sound : CircleSound d events s) (opened : Opened s input now challenge connection)
    (same : challenge'.id = challenge.id) (user : challenge'.userId = challenge.userId) (closed : challenge'.status ≠ .pending) :
    CircleSound d (events ++ [(s, label)]) ⟨some row, s.challenges.put challenge'⟩ := by
  have present := Table.mem_of_find? opened.found
  have member {other : StoredCircleChallenge} : other ∈ s.challenges.put challenge' ↔ _ := Table.mem_put
  refine sound.closes (fun other listed => ?_) fun old listed => ?_
  · rcases member.mp listed with ⟨old, apart⟩ | ⟨rfl, -⟩
    · refine ⟨fun pending => apart ?_, other, old, rfl, rfl⟩
      rw [sound.one other old challenge present pending opened.pending, same]
    · exact ⟨closed, challenge, present, same, user⟩
  · by_cases self : old.id = challenge.id
    · exact ⟨challenge', member.mpr (.inr ⟨rfl, challenge, present, same.symm⟩), same.trans self.symm⟩
    · exact ⟨old, member.mpr (.inl ⟨listed, fun key => self (key.trans same)⟩), rfl⟩

theorem issued {userId : ActorId} {email : String} {chance : InitializeChance} {challenge : StoredCircleChallenge}
    {row : StoredCircleConnection} {challenges : Table StoredCircleChallenge.id} (sound : CircleSound d events s)
    (inserted : (s.expirePending fun _ => true).challenges.insert? challenge = some challenges)
    (user : challenge.userId = userId) (named : challenge.id = chance.challengeId) (linked : challenge.connectionId = row.id) :
    CircleSound d (events ++ [(s, .initializes userId email chance)]) ⟨some row, challenges⟩ := by
  have member {other : StoredCircleChallenge} : other ∈ challenges ↔ _ := Table.mem_insert? inserted
  have alone {other : StoredCircleChallenge} (listed : other ∈ challenges) (pending : other.status = .pending) :
      other = challenge := by
    rcases member.mp listed with rfl | before
    · rfl
    · obtain ⟨old, -, rfl⟩ := mem_expirePending.mp before
      cases (StoredCircleChallenge.expire_pending pending).2
  have fresh : s.challenges.find? challenge.id = none := by
    refine Table.find?_eq_none.mpr fun old present same => ?_
    refine Table.find?_eq_none.mp (Table.insert?_eq_some inserted).2 _ (mem_expirePending.mpr ⟨old, present, rfl⟩) ?_
    rw [old.expire_id, same]
  have expires (old : StoredCircleChallenge) (present : old ∈ s.challenges) :
      ∃ challenge ∈ challenges, challenge.id = old.id ∧ challenge.status ≠ .pending := by
    refine ⟨_, member.mpr (.inr (mem_expirePending.mpr ⟨old, present, rfl⟩)), old.expire_id, fun pending => ?_⟩
    cases (StoredCircleChallenge.expire_pending pending).2
  refine ⟨fun first listed second listed' pending pending' => (alone listed pending).trans (alone listed' pending').symm,
    fun other listed pending => ⟨row, rfl, by rw [alone listed pending, linked]⟩, fun other listed => ?_,
    fun e happened supersedes old present => ?_⟩
  · rcases member.mp listed with rfl | before
    · exact ⟨_, List.mem_append_right _ (List.mem_singleton.mpr rfl), email, chance, by rw [user], named.symm, fresh⟩
    · obtain ⟨old, present, rfl⟩ := mem_expirePending.mp before
      rw [old.expire_userId, old.expire_id]
      exact (sound.started old present).append _
  · rcases List.mem_append.mp happened with before | now
    · obtain ⟨between, present', same, -⟩ := sound.superseded e before supersedes old present
      exact same ▸ expires between present'
    · obtain rfl := List.mem_singleton.mp now
      exact expires old present

theorem step (sound : CircleSound d events s) : CircleSound d (events ++ [(s, label)]) (perform d s label).1 := by
  have moved : CircleMoved d s label (perform d s label).1 (perform d s label).2 := perform_moved
  have changes (supersedes : Supersedes d s label) (still : (perform d s label).1 = s) : False := supersedes.2 still
  revert moved changes
  generalize (perform d s label).1 = s'
  generalize (perform d s label).2 = answer
  intro moved changes
  cases moved with
  | still =>
    refine ⟨sound.one, sound.linked, fun challenge member => (sound.started challenge member).append _,
      fun e happened supersedes => ?_⟩
    rcases List.mem_append.mp happened with before | now
    · exact sound.superseded e before supersedes
    · obtain rfl := List.mem_singleton.mp now
      exact (changes supersedes rfl).elim
  | issued unconnected inserted user named linked waiting => exact sound.issued inserted user named linked
  | cleared unconnected present disconnected =>
    refine sound.closes (fun challenge listed => ?_) fun old listed => ?_
    · obtain ⟨old, member, rfl⟩ := mem_expirePending.mp listed
      refine ⟨fun pending => ?_, old, member, old.expire_id, old.expire_userId⟩
      obtain ⟨waiting, others⟩ := StoredCircleChallenge.expire_pending pending
      obtain ⟨row, found, linked⟩ := sound.linked old member waiting
      obtain rfl := Option.some.inj (present.symm.trans found)
      simp [linked] at others
    · exact ⟨_, mem_expirePending.mpr ⟨old, listed, rfl⟩, old.expire_id⟩
  | failed unconnected opened same user closed =>
    exact sound.completed opened same user (by rw [closed]; nofun)
  | verified opened => exact sound.completed opened rfl rfl nofun

end CircleSound

theorem circle_sound (run : Run (circleStep d) .empty events s) : CircleSound d events s := by
  have all : Conforms (fun _ _ => True) events := fun _ _ => trivial
  refine run.history (CircleSound d) all ?_ fun events s label s' _ _ sound _ taken => ?_
  · constructor <;> simp [CircleOrg.empty]
  · obtain rfl := Option.some.inj taken
    exact sound.step

/-- What it takes for a connection to become connected: a `complete` of the user who has started the challenge, called before it
expires, that finds the connection waiting at the revision of the challenge, and a login with the stored email -/
structure Completes (d : CircleDeployment) (events : List (CircleOrg × CircleLabel)) (s : CircleOrg) (input : CompleteInput)
    (chance : CompleteChance) (challenge : StoredCircleChallenge) (connection : StoredCircleConnection) : Prop where
  opened : Opened s input chance.now challenge connection
  started : StartedBy input.userId challenge.id events
  emails : ∃ stored login, d.decryptProfile d.orgId connection.revision connection.encryptedProfile = .ok stored ∧
    chance.login = .ok login ∧ Matches stored login

/-- In every state that a run reaches, whatever operation comes next -/
theorem circle_protocol (run : Run (circleStep d) .empty events s) (label : CircleLabel) :
    (∀ challenge ∈ s.challenges, ∀ challenge' ∈ s.challenges, challenge.status = .pending → challenge'.status = .pending →
      challenge = challenge') ∧
    (¬s.isConnected → (perform d s label).1.isConnected → ∃ input chance challenge connection,
      label = .complete input chance ∧ Completes d events s input chance challenge connection) ∧
    (∀ result, (perform d s label).2 = .ok result → result.status = .connected → ∃ input chance challenge connection row,
      label = .complete input chance ∧ Completes d events s input chance challenge connection ∧
        (perform d s label).1.connection = some row ∧ row.status = .connected ∧ row.revision = challenge.connectionRevision) ∧
    (∀ e ∈ events, Supersedes d e.1 e.2 → ∀ old ∈ e.1.challenges, ∀ input chance, label = .complete input chance →
      input.challengeId = old.id → perform d s label = (s, .error challengeNotFound)) := by
  have sound := circle_sound run
  have moved : CircleMoved d s label (perform d s label).1 (perform d s label).2 := perform_moved
  refine ⟨sound.one, fun before after => ?_, fun result answered connected => ?_,
    fun e happened supersedes old present input chance same named => ?_⟩
  · generalize (perform d s label).1 = s' at moved after
    cases moved with
    | still => exact (before after).elim
    | issued unconnected inserted user named linked waiting =>
      obtain ⟨row, same, connected⟩ := after
      obtain rfl := Option.some.inj same
      rw [waiting] at connected
      cases connected
    | cleared unconnected present disconnected | failed unconnected opened same user closed named disconnected =>
      obtain ⟨row, same, connected⟩ := after
      obtain rfl := Option.some.inj same
      rw [disconnected] at connected
      cases connected
    | verified opened read login emails =>
      exact ⟨_, _, _, _, rfl, opened, by
        rw [← opened.user]; exact sound.started _ (Table.mem_of_find? opened.found), _, _, read, login, emails⟩
  · generalize (perform d s label).1 = s' at moved ⊢
    generalize (perform d s label).2 = answer at moved answered
    cases moved with
    | still unconnected | issued unconnected | cleared unconnected | failed unconnected =>
      exact (unconnected result answered connected).elim
    | verified opened read login emails named revision status =>
      exact ⟨_, _, _, _, _, rfl, ⟨opened, by
        rw [← opened.user]; exact sound.started _ (Table.mem_of_find? opened.found), _, _, read, login, emails⟩, rfl, status,
        revision.trans opened.revision⟩
  · subst same
    obtain ⟨challenge, there, id, closed⟩ := sound.superseded e happened supersedes old present
    have found : s.challenges.find? input.challengeId = some challenge := by
      rw [named, ← id]
      exact Table.find?_of_mem there
    simp [perform, complete, openChallenge, found, closed]

end

section Example

def mailDeployment : CircleDeployment where
  orgId := 1
  encryptProfile _ _ profile iv := .ok ⟨profile.email, iv, ""⟩
  decryptProfile _ _ encrypted := .ok ⟨⟨[]⟩, encrypted.ciphertext⟩
  encryptRequest _ _ request iv := .ok ⟨request, iv, ""⟩
  decryptRequest _ _ encrypted := .ok encrypted.ciphertext
  emailHash := id

def asks : CircleLabel := .initializes 1 "Ops@Example.test" ⟨0, .ok ("request", ⟨[]⟩), 0, 7, 1, "iv", "iv", .done⟩

def otp : CompleteInput := ⟨1, 1, 1⟩

def logsIn (verifiedAt : Time) : CompleteChance :=
  ⟨1, .ok ⟨"ops@example.test", some "ops@example.test", "VALID", ⟨[]⟩⟩, verifiedAt, "iv", .done, .done⟩

def CircleLabel.asks : CircleLabel → Bool
  | .initializes _ _ _ => true
  | _ => false

theorem asks_eq_true {label : CircleLabel} (asks : label.asks = true) :
    ∃ userId email chance, label = .initializes userId email chance := by
  cases label with
  | initializes userId email chance => exact ⟨userId, email, chance, rfl⟩
  | complete | disconnect => cases asks

/-- The challenge is the answer of a later initialization too, and can be completed then; and a login that began before the
expiry may end after it. -/
theorem challenge_outlives :
    (¬∀ events s, Run (circleStep mailDeployment) .empty events s → ∀ e ∈ events,
      (∃ userId email chance, e.2 = .initializes userId email chance) → ∀ old ∈ e.1.challenges, ∀ input chance result,
        input.challengeId = old.id → (complete mailDeployment s input chance).2 ≠ .ok result) ∧
    ¬∀ events s, Run (circleStep mailDeployment) .empty events s → ∀ input chance challenge result,
      s.challenges.find? input.challengeId = some challenge → (complete mailDeployment s input chance).2 = .ok result →
        chance.verifiedAt < challenge.expiresAt := by
  constructor
  · intro never
    obtain ⟨events, s, run, again, completed⟩ : ∃ events s, Run (circleStep mailDeployment) .empty events s ∧
        (events.any fun e => e.2.asks && (e.1.challenges.find? 1).isSome) = true ∧
        (complete mailDeployment s otp (logsIn 2)).2.toOption.isSome = true :=
      exists_run_with [asks, asks] (fun events s =>
        (events.any fun e => e.2.asks && (e.1.challenges.find? 1).isSome) = true ∧
          (complete mailDeployment s otp (logsIn 2)).2.toOption.isSome = true) (by decide +kernel)
    obtain ⟨e, happened, found⟩ := List.any_eq_true.mp again
    obtain ⟨asked, there⟩ := Bool.and_eq_true_iff.mp found
    obtain ⟨old, found⟩ := Option.isSome_iff_exists.mp there
    obtain ⟨result, answer⟩ := Option.isSome_iff_exists.mp completed
    exact never events s run e happened (asks_eq_true asked) old (Table.mem_of_find? found) otp (logsIn 2) result
      (Table.key_of_find? found).symm (toOption_eq_some.mp answer)
  · intro before
    obtain ⟨events, s, run, late, completed⟩ : ∃ events s, Run (circleStep mailDeployment) .empty events s ∧
        (s.challenges.find? 1).map StoredCircleChallenge.expiresAt = some CHALLENGE_TTL ∧
        (complete mailDeployment s otp (logsIn CHALLENGE_TTL)).2.toOption.isSome = true :=
      exists_run [asks] _ (by decide +kernel)
    obtain ⟨challenge, found, expires⟩ := Option.map_eq_some_iff.mp late
    obtain ⟨result, answer⟩ := Option.isSome_iff_exists.mp completed
    have early := before events s run otp (logsIn CHALLENGE_TTL) challenge result found (toOption_eq_some.mp answer)
    exact Nat.lt_irrefl _ (expires ▸ early)

/-- A challenge that has replaced another is completed. -/
theorem circle_protocol_replaced : ∃ events s input chance challenge connection,
    Run (circleStep mailDeployment) .empty events s ∧ s.challenges.rows.length = 2 ∧
      Completes mailDeployment events s input chance challenge connection := by
  obtain ⟨events, s, run, two, completed⟩ : ∃ events s, Run (circleStep mailDeployment) .empty events s ∧
      s.challenges.rows.length = 2 ∧
      (perform mailDeployment s (.complete ⟨2, 1, 2⟩ (logsIn 9))).2.toOption.map ConnectionResult.status = some .connected :=
    exists_run [asks, .disconnect 1 ⟨"iv", .done⟩,
      .initializes 2 "ops@example.test" ⟨5, .ok ("again", ⟨[]⟩), 5, 8, 2, "iv", "iv", .done⟩] _ (by decide +kernel)
  obtain ⟨result, answer, connected⟩ := Option.map_eq_some_iff.mp completed
  obtain ⟨input, chance, challenge, connection, row, -, completes, -⟩ :=
    (circle_protocol run (.complete ⟨2, 1, 2⟩ (logsIn 9))).2.2.1 result (toOption_eq_some.mp answer) connected
  exact ⟨events, s, input, chance, challenge, connection, run, two, completes⟩

end Example

end AgentOps.Circle
