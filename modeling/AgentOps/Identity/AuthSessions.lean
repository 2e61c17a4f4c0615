import AgentOps.Identity.Members
import AgentOps.Lib.Transition

namespace AgentOps.Identity
open Lib

/-! # Sign-in and its sessions -/

abbrev SessionId := Nat

structure GoogleProfile where
  sub : String
  email : String
  email_verified : Bool
  name : String
  picture : Option String
  deriving DecidableEq

/-- A row of `users`, as every query of the sign-in reads it -/
structure AuthenticatedUser where
  id : UserId
  email : String
  name : String
  avatar_url : Option String
  deriving DecidableEq

/-- A row of `oauth_accounts` of the provider `google` -/
structure OauthAccountRow where
  id : Nat
  user_id : UserId
  provider_subject : String
  email : String
  email_verified : Bool
  deriving DecidableEq

structure AuthSessionRow where
  id : SessionId
  user_id : UserId
  token_hash : Hash
  expires_at : Time
  revoked_at : Option Time
  deriving DecidableEq

structure SessionContext where
  sessionId : SessionId
  user : AuthenticatedUser
  deriving DecidableEq

/-- `users` has the primary key `id`, and `email` is unique. -/
structure Users where
  byEmail : Table AuthenticatedUser.email
  ids : (byEmail.rows.map AuthenticatedUser.id).Nodup

namespace Users

variable {users users' : Users} {row user : AuthenticatedUser} {email : String} {set : AuthenticatedUser → String × Option String}

theorem ids_put {old : AuthenticatedUser} (found : users.byEmail.find? row.email = some old) (same : row.id = old.id) :
    ((users.byEmail.put row).rows.map AuthenticatedUser.id).Nodup := by
  obtain ⟨before, after, split, replaced⟩ := Table.rows_put found
  have unique := users.ids
  rw [split, List.map_append, List.map_cons, ← same] at unique
  rwa [replaced, List.map_append, List.map_cons]

theorem ids_upsert (missing : users.byEmail.find? row.email = none) (fresh : ∀ user ∈ users.byEmail, user.id ≠ row.id) :
    ((users.byEmail.upsert row).rows.map AuthenticatedUser.id).Nodup := by
  rw [Table.rows_upsert missing, List.map_cons, List.nodup_cons]
  refine ⟨fun taken => ?_, users.ids⟩
  obtain ⟨user, member, same⟩ := List.mem_map.mp taken
  exact fresh user member same

/-- `INSERT INTO users ... ON CONFLICT (email) DO UPDATE SET name = ..., avatar_url = ...` -/
def upsert? (users : Users) (row : AuthenticatedUser) (set : AuthenticatedUser → String × Option String) : Option Users :=
  match found : users.byEmail.find? row.email with
  | some old =>
    some ⟨users.byEmail.put ⟨old.id, row.email, (set old).1, (set old).2⟩, ids_put found rfl⟩
  | none =>
    if fresh : ∀ user ∈ users.byEmail.rows, user.id ≠ row.id then some ⟨users.byEmail.upsert row, ids_upsert found fresh⟩
    else none

/-- `JOIN users u ON u.id = ...` -/
def byId? (users : Users) (id : UserId) : Option AuthenticatedUser := users.byEmail.rows.find? fun user => user.id = id

theorem byId?_of_find? (found : users.byEmail.find? email = some user) : users.byId? user.id = some user := by
  have member := Table.mem_of_find? found
  cases located : users.byId? user.id with
  | none =>
    have missing := List.find?_eq_none.mp located user member
    simp at missing
  | some other =>
    have same : other.id = user.id := by simpa using List.find?_some located
    rw [List.inj_on_of_nodup_map users.ids (List.mem_of_find?_eq_some located) member same]

theorem email_of_id {email' : String} {user' : AuthenticatedUser} (found : users.byEmail.find? email = some user)
    (found' : users.byEmail.find? email' = some user') (same : user.id = user'.id) : email = email' := by
  have located := byId?_of_find? found
  rw [same, byId?_of_find? found'] at located
  obtain rfl := Option.some.inj located
  rw [← Table.key_of_find? found, ← Table.key_of_find? found']

theorem kept (upserted : users.upsert? row set = some users') (found : users.byEmail.find? email = some user) :
    ∃ user', users'.byEmail.find? email = some user' ∧ user'.id = user.id := by
  unfold upsert? at upserted
  split at upserted
  · rename_i old located
    obtain rfl := Option.some.inj upserted
    have now := Table.find?_put (r := ⟨old.id, row.email, (set old).1, (set old).2⟩) found
    refine ⟨_, now, ?_⟩
    split_ifs with same
    · have same : row.email = email := same
      rw [same, found] at located
      rw [Option.some.inj located]
    · rfl
  · rename_i missing
    obtain ⟨fresh, upserted⟩ := Option.dite_none_right_eq_some.mp upserted
    obtain rfl := Option.some.inj upserted
    have other : row.email ≠ email := by
      rintro rfl
      rw [missing] at found
      cases found
    exact ⟨user, by rw [Table.find?_upsert_ne other, found], rfl⟩

end Users

/-- The rows of the sign-in; the three tables have a primary key `id` too. -/
structure AuthDb where
  users : Users
  oauthAccounts : Table OauthAccountRow.provider_subject
  sessions : Table AuthSessionRow.token_hash

def SESSION_TTL_MS : Nat := 1000 * 60 * 60 * 24 * 7

/-- A `Date` in milliseconds as a `timestamptz` -/
def timestamp (date : Nat) : Time := 1000 * date

structure SignInChance where
  userId : UserId
  oauthId : Nat
  sessionId : SessionId
  token : String
  dateNow : Nat
  deriving DecidableEq

structure SignInResponse where
  session_token : String
  expires_at : Nat
  user : AuthenticatedUser
  deriving DecidableEq

structure OrgOwner where
  email : String
  name : String
  deriving DecidableEq

namespace AuthDb

def upsertUser (db : AuthDb) (row : AuthenticatedUser) (set : AuthenticatedUser → String × Option String) :
    Except Failure AuthDb :=
  match db.users.upsert? row set with
  | none => .error (.constraint "users_pkey")
  | some users => .ok { db with users }

/-- `INSERT INTO oauth_accounts ... ON CONFLICT (provider, provider_subject) DO UPDATE` -/
def upsertOauthAccount (db : AuthDb) (row : OauthAccountRow) : Except Failure AuthDb :=
  match db.oauthAccounts.find? row.provider_subject with
  | some old => .ok { db with oauthAccounts := db.oauthAccounts.upsert { row with id := old.id } }
  | none =>
    if db.oauthAccounts.rows.any (·.id = row.id) then .error (.constraint "oauth_accounts_pkey")
    else .ok { db with oauthAccounts := db.oauthAccounts.upsert row }

def upsertGoogleUser (db : AuthDb) (profile : GoogleProfile) (chance : SignInChance) :
    Except Failure (AuthDb × AuthenticatedUser) := do
  let email := lower profile.email
  let db ← db.upsertUser ⟨chance.userId, email, profile.name, profile.picture⟩ fun _ => (profile.name, profile.picture)
  match db.users.byEmail.find? email with
  | none => .error (.thrown "user_upsert_failed")
  | some user =>
    let db ← db.upsertOauthAccount ⟨chance.oauthId, user.id, profile.sub, email, profile.email_verified⟩
    .ok (db, user)

def createSession (hash : String → Hash) (db : AuthDb) (userId : UserId) (chance : SignInChance) : Except Failure AuthDb :=
  let row : AuthSessionRow :=
    ⟨chance.sessionId, userId, hash chance.token, timestamp (chance.dateNow + SESSION_TTL_MS), none⟩
  if db.sessions.rows.any (·.id = row.id) then .error (.constraint "auth_sessions_pkey")
  else if (db.users.byId? userId).isNone then .error (.constraint "auth_sessions_user_id_fkey")
  else match db.sessions.insert? row with
    | none => .error (.constraint "auth_sessions_token_hash_key")
    | some sessions => .ok { db with sessions }

/-- `POST /v1/auth/google/exchange`, from the profile on, in one transaction -/
def exchange (hash : String → Hash) (db : AuthDb) (profile : GoogleProfile) (chance : SignInChance) :
    Except Failure (AuthDb × SignInResponse) := do
  let (db, user) ← db.upsertGoogleUser profile chance
  let db ← createSession hash db user.id chance
  .ok (db, ⟨chance.token, chance.dateNow + SESSION_TTL_MS, user⟩)

def resolveSession (hash : String → Hash) (db : AuthDb) (token : String) (now : Time) : Option SessionContext := do
  let session ← db.sessions.find? (hash token)
  guard (session.revoked_at = none ∧ now < session.expires_at)
  let user ← db.users.byId? session.user_id
  some ⟨session.id, user⟩

def revokeSession (hash : String → Hash) (db : AuthDb) (token : String) (now : Time) : AuthDb × Bool :=
  match db.sessions.find? (hash token) with
  | some session =>
    if session.revoked_at = none then ({ db with sessions := db.sessions.put { session with revoked_at := some now } }, true)
    else (db, false)
  | none => (db, false)

/-- The account that `createOrg` makes an owner -/
def upsertOwner (db : AuthDb) (orgId : String) (owner : Option OrgOwner) (userId : UserId) : Except Failure AuthDb :=
  let email := (owner.map fun owner => lower owner.email).getD (orgId ++ "@local.agentops")
  let name := (owner.map OrgOwner.name).getD "Local operator"
  db.upsertUser ⟨userId, email, name, none⟩ fun old => (name, old.avatar_url)

/-- The account that `addMember` makes a member -/
def upsertMember (db : AuthDb) (input : AddMemberInput) (userId : UserId) : Except Failure AuthDb :=
  db.upsertUser ⟨userId, memberEmail input, memberName input, none⟩ fun old =>
    (if memberName input ≠ "" then memberName input else old.name, old.avatar_url)

end AuthDb

/-- A transaction that commits; one that rolls back leaves no trace. Each keeps the locks of the rows that it reads and
writes until then, so it is one step. -/
inductive AuthEvent where
  | exchange (profile : GoogleProfile) (chance : SignInChance)
  | logout (token : String) (now : Time)
  | createOrg (orgId : String) (owner : Option OrgOwner) (userId : UserId)
  | addMember (input : AddMemberInput) (userId : UserId)
  deriving DecidableEq

namespace AuthDb

def step (hash : String → Hash) (db : AuthDb) : AuthEvent → Option AuthDb
  | .exchange profile chance => (db.exchange hash profile chance).toOption.map Prod.fst
  | .logout token now => some (db.revokeSession hash token now).1
  | .createOrg orgId owner userId => (db.upsertOwner orgId owner userId).toOption
  | .addMember input userId => (db.upsertMember input userId).toOption

def revokes (hash : String → Hash) (tokenHash : Hash) : AuthEvent → Bool
  | .logout token _ => hash token = tokenHash
  | _ => false

variable {hash : String → Hash} {db db' s : AuthDb} {event : AuthEvent} {profile : GoogleProfile} {chance : SignInChance}
  {response : SignInResponse} {row : AuthenticatedUser} {set : AuthenticatedUser → String × Option String}
  {session : AuthSessionRow} {user : AuthenticatedUser} {tokenHash : Hash} {email token : String} {now : Time}
  {events before after : List (AuthDb × AuthEvent)}

theorem upsertUser_ok (upserted : db.upsertUser row set = .ok db') :
    db.users.upsert? row set = some db'.users ∧ db'.sessions = db.sessions := by
  unfold upsertUser at upserted
  split at upserted
  · cases upserted
  · rename_i users written
    obtain rfl := Except.ok.inj upserted
    exact ⟨written, rfl⟩

theorem upsertOauthAccount_ok {row : OauthAccountRow} (upserted : db.upsertOauthAccount row = .ok db') :
    db'.users = db.users ∧ db'.sessions = db.sessions := by
  unfold upsertOauthAccount at upserted
  split at upserted
  · obtain rfl := Except.ok.inj upserted
    exact ⟨rfl, rfl⟩
  · split at upserted
    · cases upserted
    · obtain rfl := Except.ok.inj upserted
      exact ⟨rfl, rfl⟩

theorem upsertGoogleUser_ok (upserted : db.upsertGoogleUser profile chance = .ok (db', user)) :
    (∃ row set, db.users.upsert? row set = some db'.users) ∧ db'.sessions = db.sessions ∧
      db'.users.byEmail.find? (lower profile.email) = some user := by
  obtain ⟨db₁, written, upserted⟩ := bind_eq_ok.mp upserted
  obtain ⟨users, sessions⟩ := upsertUser_ok written
  split at upserted
  · cases upserted
  · rename_i user' found
    obtain ⟨db₂, linked, upserted⟩ := bind_eq_ok.mp upserted
    obtain ⟨users', sessions'⟩ := upsertOauthAccount_ok linked
    obtain ⟨rfl, rfl⟩ := Prod.mk.inj (Except.ok.inj upserted)
    exact ⟨⟨_, _, by rw [users']; exact users⟩, sessions'.trans sessions, by rw [users']; exact found⟩

theorem createSession_ok {userId : UserId} (created : createSession hash db userId chance = .ok db') :
    db'.users = db.users ∧ db.sessions.insert? ⟨chance.sessionId, userId, hash chance.token,
      timestamp (chance.dateNow + SESSION_TTL_MS), none⟩ = some db'.sessions := by
  simp only [createSession] at created
  split_ifs at created
  split at created
  · cases created
  · rename_i sessions inserted
    obtain rfl := Except.ok.inj created
    exact ⟨rfl, inserted⟩

structure SignedIn (hash : String → Hash) (db : AuthDb) (profile : GoogleProfile) (chance : SignInChance) (db' : AuthDb)
    (response : SignInResponse) : Prop where
  upserted : ∃ row set, db.users.upsert? row set = some db'.users
  account : db'.users.byEmail.find? (lower profile.email) = some response.user
  session : db.sessions.insert? ⟨chance.sessionId, response.user.id, hash chance.token, timestamp response.expires_at, none⟩ =
    some db'.sessions

theorem exchange_ok (exchanged : db.exchange hash profile chance = .ok (db', response)) :
    SignedIn hash db profile chance db' response := by
  obtain ⟨⟨db₁, user⟩, written, exchanged⟩ := bind_eq_ok.mp exchanged
  obtain ⟨db₂, created, exchanged⟩ := bind_eq_ok.mp exchanged
  obtain ⟨rfl, rfl⟩ := Prod.mk.inj (Except.ok.inj exchanged)
  obtain ⟨upserted, sessions, account⟩ := upsertGoogleUser_ok written
  obtain ⟨users, inserted⟩ := createSession_ok created
  rw [← users] at upserted account
  rw [sessions] at inserted
  exact ⟨upserted, account, inserted⟩

theorem exchange_of_step (taken : step hash db (.exchange profile chance) = some db') :
    ∃ response, db.exchange hash profile chance = .ok (db', response) := by
  obtain ⟨⟨after, response⟩, exchanged, rfl⟩ := Option.map_eq_some_iff.mp taken
  exact ⟨response, toOption_eq_some.mp exchanged⟩

theorem users_revokeSession : (db.revokeSession hash token now).1.users = db.users := by
  unfold revokeSession
  split
  · split_ifs <;> rfl
  · rfl

theorem find?_revokeSession (other : hash token ≠ tokenHash) :
    (db.revokeSession hash token now).1.sessions.find? tokenHash = db.sessions.find? tokenHash := by
  unfold revokeSession
  split
  · rename_i session found
    split_ifs
    · refine Table.find?_put_ne ?_
      rwa [← Table.key_of_find? found] at other
    · rfl
  · rfl

theorem not_live_revokeSession (found : (db.revokeSession hash token now).1.sessions.find? (hash token) = some session) :
    session.revoked_at ≠ none := by
  unfold revokeSession at found
  split at found
  · rename_i old located
    split_ifs at found with live
    · have keyed := Table.key_of_find? located
      rw [← keyed] at found located
      have closed := Table.find?_put_self (r := { old with revoked_at := some now }) located
      rw [← Option.some.inj (closed.symm.trans found)]
      exact Option.some_ne_none now
    · rw [located] at found
      rwa [← Option.some.inj found]
  · rename_i missing
    rw [missing] at found
    cases found

theorem step_users (taken : step hash db event = some db') :
    db'.users = db.users ∨ ∃ row set, db.users.upsert? row set = some db'.users := by
  cases event with
  | exchange profile chance =>
    obtain ⟨response, exchanged⟩ := exchange_of_step taken
    exact .inr (exchange_ok exchanged).upserted
  | logout token now =>
    obtain rfl := Option.some.inj taken
    exact .inl users_revokeSession
  | createOrg orgId owner userId => exact .inr ⟨_, _, (upsertUser_ok (toOption_eq_some.mp taken)).1⟩
  | addMember input userId => exact .inr ⟨_, _, (upsertUser_ok (toOption_eq_some.mp taken)).1⟩

theorem account_kept (taken : step hash db event = some db') (found : db.users.byEmail.find? email = some user) :
    ∃ user', db'.users.byEmail.find? email = some user' ∧ user'.id = user.id := by
  rcases step_users taken with same | ⟨row, set, upserted⟩
  · exact ⟨user, by rw [same, found], rfl⟩
  · exact Users.kept upserted found

theorem session_kept (taken : step hash db event = some db') (found : db.sessions.find? tokenHash = some session)
    (spared : revokes hash tokenHash event = false) : db'.sessions.find? tokenHash = some session := by
  cases event with
  | exchange profile chance =>
    obtain ⟨response, exchanged⟩ := exchange_of_step taken
    exact Table.find?_insert?_of_find? (exchange_ok exchanged).session found
  | logout token now =>
    obtain rfl := Option.some.inj taken
    rw [find?_revokeSession (of_decide_eq_false spared), found]
  | createOrg orgId owner userId => rw [(upsertUser_ok (toOption_eq_some.mp taken)).2, found]
  | addMember input userId => rw [(upsertUser_ok (toOption_eq_some.mp taken)).2, found]

theorem live_before (taken : step hash db event = some db') (found : db'.sessions.find? tokenHash = some session)
    (live : session.revoked_at = none) :
    (db.sessions.find? tokenHash = some session ∧ revokes hash tokenHash event = false) ∨
      ∃ profile chance, event = .exchange profile chance ∧ hash chance.token = tokenHash := by
  cases event with
  | exchange profile chance =>
    obtain ⟨response, exchanged⟩ := exchange_of_step taken
    by_cases own : hash chance.token = tokenHash
    · exact .inr ⟨profile, chance, rfl, own⟩
    · rw [Table.find?_insert?_ne (exchange_ok exchanged).session own] at found
      exact .inl ⟨found, rfl⟩
  | logout token now =>
    obtain rfl := Option.some.inj taken
    by_cases own : hash token = tokenHash
    · subst own
      exact absurd live (not_live_revokeSession found)
    · rw [find?_revokeSession own] at found
      exact .inl ⟨found, decide_eq_false own⟩
  | createOrg orgId owner userId =>
    rw [(upsertUser_ok (toOption_eq_some.mp taken)).2] at found
    exact .inl ⟨found, rfl⟩
  | addMember input userId =>
    rw [(upsertUser_ok (toOption_eq_some.mp taken)).2] at found
    exact .inl ⟨found, rfl⟩

theorem sign_in_of_live {start : AuthDb} (unused : start.sessions = .empty) (run : Run (step hash) start events s)
    (found : s.sessions.find? tokenHash = some session) (live : session.revoked_at = none) :
    ∃ before db profile chance after, events = before ++ (db, .exchange profile chance) :: after ∧
      hash chance.token = tokenHash ∧ ∀ e ∈ after, revokes hash tokenHash e.2 = false := by
  induction run with
  | start =>
    rw [unused] at found
    cases found
  | @next events db s event run taken ih =>
    rcases live_before taken found live with ⟨earlier, spared⟩ | ⟨profile, chance, rfl, own⟩
    · obtain ⟨before, db₁, profile, chance, after, rfl, own, quiet⟩ := ih earlier
      refine ⟨before, db₁, profile, chance, after ++ [(db, event)], by simp, own, fun e member => ?_⟩
      rcases List.mem_append.mp member with since | last
      · exact quiet e since
      · obtain rfl := List.mem_singleton.mp last
        exact spared
    · exact ⟨events, db, profile, chance, [], rfl, own, by simp⟩

theorem account_of_sign_in {start : AuthDb}
    (run : Run (step hash) start (before ++ (db, .exchange profile chance) :: after) s) :
    ∃ db' response user, db.exchange hash profile chance = .ok (db', response) ∧
      s.users.byEmail.find? (lower profile.email) = some user ∧ user.id = response.user.id := by
  obtain ⟨db', -, taken, rest⟩ := run.split
  obtain ⟨response, exchanged⟩ := exchange_of_step taken
  obtain ⟨user, found, same⟩ := rest.always
    (fun t => ∃ user, t.users.byEmail.find? (lower profile.email) = some user ∧ user.id = response.user.id)
    ⟨response.user, (exchange_ok exchanged).account, rfl⟩ fun t event t' holds taken => by
      obtain ⟨user, found, same⟩ := holds
      obtain ⟨user', found', same'⟩ := account_kept taken found
      exact ⟨user', found', same'.trans same⟩
  exact ⟨db', response, user, exchanged, found, same⟩

theorem account_of_member {start db' : AuthDb} (run : Run (step hash) start events s)
    (member : (db, .exchange profile chance) ∈ events) (exchanged : db.exchange hash profile chance = .ok (db', response)) :
    ∃ user, s.users.byEmail.find? (lower profile.email) = some user ∧ user.id = response.user.id := by
  obtain ⟨before, after, rfl⟩ := List.append_of_mem member
  obtain ⟨db₁, response₁, user, exchanged₁, found, same⟩ := account_of_sign_in run
  rw [exchanged] at exchanged₁
  obtain ⟨rfl, rfl⟩ := Prod.mk.inj (Except.ok.inj exchanged₁)
  exact ⟨user, found, same⟩

theorem session_of_sign_in {start db' : AuthDb} (run : Run (step hash) start (before ++ (db, .exchange profile chance) :: after) s)
    (exchanged : db.exchange hash profile chance = .ok (db', response))
    (quiet : ∀ e ∈ after, revokes hash (hash chance.token) e.2 = false) : s.sessions.find? (hash chance.token) =
      some ⟨chance.sessionId, response.user.id, hash chance.token, timestamp response.expires_at, none⟩ := by
  obtain ⟨db₁, -, taken, rest⟩ := run.split
  obtain ⟨response', exchanged'⟩ := exchange_of_step taken
  rw [exchanged] at exchanged'
  obtain ⟨rfl, rfl⟩ := Prod.mk.inj (Except.ok.inj exchanged')
  have spares : Conforms (fun _ event => revokes hash (hash chance.token) event = false) after := quiet
  exact rest.invariant (fun t => t.sessions.find? (hash chance.token) = some _) spares
    (Table.find?_insert?_self (exchange_ok exchanged).session)
    fun t event t' found spared taken => session_kept taken found spared

theorem resolveSession_eq_some {context : SessionContext} : s.resolveSession hash token now = some context ↔
    ∃ session, s.sessions.find? (hash token) = some session ∧ session.revoked_at = none ∧ now < session.expires_at ∧
      s.users.byId? session.user_id = some context.user ∧ context.sessionId = session.id := by
  unfold resolveSession
  simp only [Option.bind_eq_bind, Option.bind_eq_some_iff, Option.guard_eq_some', Option.some.injEq]
  constructor
  · rintro ⟨session, found, -, ⟨live, fresh⟩, user, owned, rfl⟩
    exact ⟨session, found, live, fresh, owned, rfl⟩
  · rintro ⟨session, found, live, fresh, owned, same⟩
    exact ⟨session, found, (), ⟨live, fresh⟩, context.user, owned, by rw [← same]⟩

/-- A token resolves exactly when a committed sign-in drew one of its hash, no logout of one came after, and the seven
days are not over, and it resolves to the account that the sign-in answered with. -/
theorem session_resolves_iff {users : Users} {oauthAccounts : Table OauthAccountRow.provider_subject} {context : SessionContext}
    (run : Run (step hash) ⟨users, oauthAccounts, .empty⟩ events s) :
    s.resolveSession hash token now = some context ↔ ∃ before db profile chance after db' response,
      events = before ++ (db, .exchange profile chance) :: after ∧ db.exchange hash profile chance = .ok (db', response) ∧
      hash chance.token = hash token ∧ (∀ e ∈ after, revokes hash (hash token) e.2 = false) ∧
      now < timestamp response.expires_at ∧ context.sessionId = chance.sessionId ∧ context.user.id = response.user.id ∧
      s.users.byEmail.find? (lower profile.email) = some context.user := by
  rw [resolveSession_eq_some]
  constructor
  · rintro ⟨session, found, live, fresh, owned, same⟩
    obtain ⟨before, db, profile, chance, after, rfl, own, quiet⟩ := sign_in_of_live rfl run found live
    obtain ⟨db', response, user, exchanged, account, answered⟩ := account_of_sign_in run
    rw [← own] at quiet found
    have row := session_of_sign_in run exchanged quiet
    obtain rfl := Option.some.inj (found.symm.trans row)
    rw [← answered, Users.byId?_of_find? account] at owned
    obtain rfl := Option.some.inj owned
    rw [own] at quiet
    exact ⟨before, db, profile, chance, after, db', response, rfl, exchanged, own, quiet, fresh, same, answered, account⟩
  · rintro ⟨before, db, profile, chance, after, db', response, rfl, exchanged, own, quiet, fresh, same, answered, account⟩
    rw [← own] at quiet ⊢
    refine ⟨_, session_of_sign_in run exchanged quiet, rfl, fresh, ?_, same⟩
    rw [← answered]
    exact Users.byId?_of_find? account

def untouched : AuthDb := ⟨⟨.empty, List.nodup_nil⟩, .empty, .empty⟩

def ada : GoogleProfile := ⟨"sub_1", "Ada@Example.com", true, "Ada", none⟩

def adaLater : GoogleProfile := ⟨"sub_2", "ada@example.com", true, "Ada L.", none⟩

def signIns : List AuthEvent :=
  [.exchange ada ⟨1, 1, 1, "sess_a", 5⟩, .addMember ⟨" ada@example.com ", some "Countess", .viewer⟩ 2,
    .exchange adaLater ⟨3, 2, 2, "sess_b", 7⟩, .logout "sess_a" 9]

theorem session_resolves_second : ∃ events s, Run (step id) untouched events s ∧ ∃ before db profile chance after,
    events = before ++ (db, .exchange profile chance) :: after ∧ chance.token = "sess_b" ∧
    s.users.byEmail.find? (lower profile.email) = some ⟨1, "ada@example.com", "Ada L.", none⟩ := by
  obtain ⟨events, s, run, resolved⟩ : ∃ events s, Run (step id) untouched events s ∧
      s.resolveSession id "sess_b" 8 = some ⟨2, 1, "ada@example.com", "Ada L.", none⟩ :=
    exists_run signIns (fun s : AuthDb => s.resolveSession id "sess_b" 8 = some ⟨2, 1, "ada@example.com", "Ada L.", none⟩)
      (by decide +kernel)
  obtain ⟨before, db, profile, chance, after, -, -, split, -, own, -, -, -, -, account⟩ := (session_resolves_iff run).mp resolved
  exact ⟨events, s, run, before, db, profile, chance, after, split, own, account⟩

/-- Two sign-ins are of one account exactly when their emails differ in letter case alone, whatever their Google subjects. -/
theorem same_account_iff {start db₁ db₁' db₂ db₂' : AuthDb} {profile₁ profile₂ : GoogleProfile} {chance₁ chance₂ : SignInChance}
    {response₁ response₂ : SignInResponse} (run : Run (step hash) start events s)
    (member₁ : (db₁, .exchange profile₁ chance₁) ∈ events) (member₂ : (db₂, .exchange profile₂ chance₂) ∈ events)
    (exchanged₁ : db₁.exchange hash profile₁ chance₁ = .ok (db₁', response₁))
    (exchanged₂ : db₂.exchange hash profile₂ chance₂ = .ok (db₂', response₂)) :
    response₁.user.id = response₂.user.id ↔ lower profile₁.email = lower profile₂.email := by
  obtain ⟨user₁, found₁, same₁⟩ := account_of_member run member₁ exchanged₁
  obtain ⟨user₂, found₂, same₂⟩ := account_of_member run member₂ exchanged₂
  rw [← same₁, ← same₂]
  constructor
  · exact Users.email_of_id found₁ found₂
  · intro same
    rw [same, found₂] at found₁
    rw [Option.some.inj found₁]

theorem same_account_subjects : ∃ events s, Run (step id) untouched events s ∧
    ∃ (db₁ db₁' db₂ db₂' : AuthDb) (response₁ response₂ : SignInResponse),
    db₁.exchange id ada ⟨1, 1, 1, "sess_a", 5⟩ = .ok (db₁', response₁) ∧
    db₂.exchange id adaLater ⟨3, 2, 2, "sess_b", 7⟩ = .ok (db₂', response₂) ∧ response₁.user.id = response₂.user.id := by
  obtain ⟨events, s, run, taken⟩ : ∃ events s, Run (step id) untouched events s ∧ events.map Prod.snd = signIns :=
    exists_run_with signIns (fun events _ => events.map Prod.snd = signIns) (by decide +kernel)
  have signedIn : ∀ profile chance, .exchange profile chance ∈ signIns → ∃ db db' response,
      (db, .exchange profile chance) ∈ events ∧ db.exchange id profile chance = .ok (db', response) := by
    intro profile chance listed
    rw [← taken] at listed
    obtain ⟨⟨db, -⟩, member, rfl⟩ := List.mem_map.mp listed
    obtain ⟨-, -, db', -, -, taken, -⟩ := run.of_mem member
    obtain ⟨response, exchanged⟩ := exchange_of_step taken
    exact ⟨db, db', response, member, exchanged⟩
  obtain ⟨db₁, db₁', response₁, member₁, exchanged₁⟩ := signedIn ada ⟨1, 1, 1, "sess_a", 5⟩ (by decide)
  obtain ⟨db₂, db₂', response₂, member₂, exchanged₂⟩ := signedIn adaLater ⟨3, 2, 2, "sess_b", 7⟩ (by decide)
  exact ⟨events, s, run, db₁, db₁', db₂, db₂', response₁, response₂, exchanged₁, exchanged₂,
    (same_account_iff run member₁ member₂ exchanged₁ exchanged₂).mpr (by decide +kernel)⟩

end AuthDb
end AgentOps.Identity
