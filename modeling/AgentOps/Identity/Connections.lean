import AgentOps.Identity.Agents

namespace AgentOps.Identity
open Lib

/-! # Connections and their secrets -/

abbrev CredentialId := Nat

inductive ConnectionKind where
  | agent_credential
  | mcp_local
  | mcp_remote
  | mcp_http
  | api_key
  | sdk
  | cli
  | proxy
  | manual_observe
  deriving DecidableEq

inductive ConnectionStatus where
  | active
  | revoked
  deriving DecidableEq

structure ConnectionRow where
  id : ConnectionId
  org_id : OrgId
  agent_id : AgentId
  created_by : ActorId
  kind : ConnectionKind
  name : String
  status : ConnectionStatus
  secret_last4 : Option String
  secret_revealed_at : Option Time
  last_tested_at : Option Time
  last_used_at : Option Time
  revoked_at : Option Time

structure CredentialRow where
  id : CredentialId
  org_id : OrgId
  connection_id : ConnectionId
  secret_hash : Hash
  status : ConnectionStatus
  revoked_at : Option Time

structure ConnectionDb extends AgentDb where
  connections : Table ConnectionRow.id
  credentials : Table CredentialRow.id
  /-- The secrets that committed calls have issued, the latest first; no column holds them. -/
  issued : List (ConnectionId × String)

structure Revocation where
  ids : List CredentialId
  now : Time

def Revocation.write (revocation : Revocation) (row : CredentialRow) : CredentialRow :=
  if row.id ∈ revocation.ids then { row with status := .revoked, revoked_at := row.revoked_at.or (some revocation.now) } else row

@[simp] theorem Revocation.write_id (revocation : Revocation) (row : CredentialRow) : (revocation.write row).id = row.id := by
  unfold Revocation.write
  split <;> rfl

namespace ConnectionDb

def connection? (db : ConnectionDb) (orgId : OrgId) (connectionId : ConnectionId) : Option ConnectionRow :=
  (db.connections.find? connectionId).filter fun row => row.org_id = orgId

/-- `WHERE org_id = $1 AND connection_id = $2 AND status = 'active'` -/
def activeCredentials (db : ConnectionDb) (orgId : OrgId) (connectionId : ConnectionId) : List CredentialRow :=
  db.credentials.rows.filter fun row => row.org_id = orgId && row.connection_id = connectionId && row.status = .active

def revocation (db : ConnectionDb) (orgId : OrgId) (connectionId : ConnectionId) (now : Time) : Revocation :=
  ⟨(db.activeCredentials orgId connectionId).map CredentialRow.id, now⟩

def revoke (db : ConnectionDb) (revocation : Revocation) : ConnectionDb :=
  { db with credentials := db.credentials.rewrite revocation.write revocation.write_id }

def issue (db : ConnectionDb) (credential : CredentialRow) (secret : String) : Option ConnectionDb :=
  (db.credentials.insert? credential).map fun credentials =>
    { db with credentials, issued := (credential.connection_id, secret) :: db.issued }

def lastIssued (db : ConnectionDb) (connectionId : ConnectionId) : Option String :=
  (db.issued.find? fun entry => entry.1 = connectionId).map Prod.snd

/-- `connection_credentials_hash_idx`, and the primary key -/
def refuses (db : ConnectionDb) (credential : CredentialRow) : Option Failure :=
  if (db.credentials.find? credential.id).isSome then some (.constraint "connection_credentials_pkey")
  else if db.credentials.rows.any fun row => row.secret_hash = credential.secret_hash then
    some (.constraint "connection_credentials_hash_idx")
  else none

end ConnectionDb

structure CreateConnectionInput where
  kind : ConnectionKind
  name : String

inductive ConnectionRequest where
  | createConnection (agentId : AgentId) (input : CreateConnectionInput)
  | rotateConnection (connectionId : ConnectionId)
  | revokeConnection (connectionId : ConnectionId)
  | authenticateConnection (token : String)
  /-- `setAgentStatus`, and the other operations on agents -/
  | agent (request : AgentRequest)

inductive ConnectionAnswer where
  | secret (row : ConnectionRow) (secret : Option String)
  | connection (row : ConnectionRow)
  | auth (result : Option ConnectionAuthResult)

inductive ConnectionStage where
  | started
  | agentRead (agent : AgentRow)
  | inserted (row : ConnectionRow) (secret : Option String)
  | created (row : ConnectionRow) (secret : String) (credential : CredentialRow)
  | locked (existing : ConnectionRow)
  | cleared (existing : ConnectionRow) (revocation : Revocation)
  | credited (existing : ConnectionRow) (revocation : Revocation) (secret : String) (credential : CredentialRow)
  | rotated (row : ConnectionRow) (revocation : Revocation) (secret : String) (credential : CredentialRow)
  | revoking (row : ConnectionRow)
  | revoked (row : ConnectionRow) (revocation : Revocation)
  | authenticated (result : ConnectionAuthResult)
  | used (result : ConnectionAuthResult) (row : ConnectionRow)
  | agent (stage : AgentStage)
  | finished (answer : Except Failure ConnectionAnswer)

structure ConnectionCall where
  operator : ActorId
  orgId : OrgId
  request : ConnectionRequest
  stage : ConnectionStage

structure ConnectionChance extends AgentChance where
  /-- `issueConnectionSecret()` -/
  secret : String

inductive ConnectionLock where
  | connection (id : ConnectionId)
  | credential (id : CredentialId)
  | hash (secret_hash : Hash)
  | agent (lock : AgentLock)
  deriving DecidableEq

def connectionNotFound : Failure := notFound "Connection was not found."

/-- `secret.slice(-4)` -/
def last4 (secret : String) : String := String.ofList (secret.toList.drop (secret.length - 4))

section Operations

variable (hash : String → Hash)

/-- `INSERT INTO connection_credentials ... 'active'` -/
def credentialOf (row : ConnectionRow) (secret : String) (id : CredentialId) : CredentialRow :=
  ⟨id, row.org_id, row.id, hash secret, .active, none⟩

def createConnection (db : ConnectionDb) (call : ConnectionCall) (agentId : AgentId) (input : CreateConnectionInput)
    (chance : ConnectionChance) : Option ConnectionStage :=
  match call.stage with
  | .started =>
    match db.agent? call.orgId agentId with
    | none => some (.finished (.error agentNotFound))
    | some agent =>
      if agent.status = .deactivated ∨ agent.status = .retired then
        some (.finished (.error (conflict "agent_inactive" "Inactive agents cannot receive new connections.")))
      else some (.agentRead agent)
  | .agentRead _ =>
    let secret := if input.kind = .manual_observe then none else some chance.secret
    if (db.connections.find? chance.id).isSome then some (.finished (.error (.constraint "connections_pkey")))
    else some (.inserted {
      id := chance.id
      org_id := call.orgId
      agent_id := agentId
      created_by := call.operator
      kind := input.kind
      name := input.name
      status := .active
      secret_last4 := secret.map last4
      secret_revealed_at := some chance.now
      last_tested_at := some chance.now
      last_used_at := none
      revoked_at := none } secret)
  | .inserted row (some secret) =>
    let credential := credentialOf hash row secret chance.id
    match db.refuses credential with
    | some failure => some (.finished (.error failure))
    | none => some (.created row secret credential)
  | _ => none

def rotateConnection (db : ConnectionDb) (call : ConnectionCall) (connectionId : ConnectionId) (chance : ConnectionChance) :
    Option ConnectionStage :=
  match call.stage with
  | .started =>
    match (db.connection? call.orgId connectionId).filter fun row => row.status = .active with
    | none => some (.finished (.error connectionNotFound))
    | some existing =>
      if existing.kind = .manual_observe then
        some (.finished (.error (badRequest "observe_only_connection" "Observe-only connections do not have secrets.")))
      else some (.locked existing)
  | .locked existing => some (.cleared existing (db.revocation call.orgId connectionId chance.now))
  | .cleared existing revocation =>
    let credential := credentialOf hash existing chance.secret chance.id
    match db.refuses credential with
    | some failure => some (.finished (.error failure))
    | none => some (.credited existing revocation chance.secret credential)
  | .credited _ revocation secret credential =>
    match db.connection? call.orgId connectionId with
    | none => some (.finished (.error connectionNotFound))
    | some row => some (.rotated { row with
        secret_last4 := some (last4 secret), secret_revealed_at := some chance.now, last_tested_at := some chance.now }
        revocation secret credential)
  | _ => none

def revokeConnection (db : ConnectionDb) (call : ConnectionCall) (connectionId : ConnectionId) (chance : ConnectionChance) :
    Option ConnectionStage :=
  match call.stage with
  | .started =>
    match db.connection? call.orgId connectionId with
    | none => some (.finished (.error connectionNotFound))
    | some row => some (.revoking { row with status := .revoked, revoked_at := row.revoked_at.or (some chance.now) })
  | .revoking row => some (.revoked row (db.revocation call.orgId connectionId chance.now))
  | _ => none

def authenticates (db : ConnectionDb) (token : String) : Option ConnectionAuthResult :=
  db.credentials.rows.findSome? fun cc =>
    if cc.secret_hash = hash token ∧ cc.status = .active then do
      let c ← (db.connections.find? cc.connection_id).filter fun c => c.org_id = cc.org_id ∧ c.status = .active
      let _ ← (db.agent? c.org_id c.agent_id).filter fun a => a.status = .active
      some ⟨c.org_id, c.agent_id, c.id⟩
    else none

def authenticateConnection (db : ConnectionDb) (call : ConnectionCall) (token : String) (chance : ConnectionChance) :
    Option ConnectionStage :=
  match call.stage with
  | .started =>
    match authenticates hash db token with
    | none => some (.finished (.ok (.auth none)))
    | some result => some (.authenticated result)
  | .authenticated result =>
    match db.connections.find? result.connection_id with
    | none => some (.finished (.ok (.auth (some result))))
    | some row => some (.used result { row with
        last_used_at := some chance.now, last_tested_at := row.last_tested_at.or (some chance.now) })
  | _ => none

def connectionStatement (db : ConnectionDb) (call : ConnectionCall) (chance : ConnectionChance) : Option ConnectionStage :=
  match call.request with
  | .createConnection agentId input => createConnection hash db call agentId input chance
  | .rotateConnection connectionId => rotateConnection hash db call connectionId chance
  | .revokeConnection connectionId => revokeConnection db call connectionId chance
  | .authenticateConnection token => authenticateConnection hash db call token chance
  | .agent request =>
    match call.stage with
    | .started => (agentStatement db.toAgentDb ⟨call.operator, call.orgId, request, .started⟩ chance.toAgentChance).map .agent
    | .agent stage => (agentStatement db.toAgentDb ⟨call.operator, call.orgId, request, stage⟩ chance.toAgentChance).map .agent
    | _ => none

end Operations

def connectionCommit (db : ConnectionDb) : ConnectionStage → Option (ConnectionDb × ConnectionStage)
  | .inserted row none => (db.connections.insert? row).map fun connections =>
    ({ db with connections }, .finished (.ok (.secret row none)))
  | .created row secret credential => (db.connections.insert? row).bind fun connections =>
    (({ db with connections } : ConnectionDb).issue credential secret).map fun db =>
      (db, .finished (.ok (.secret row (some secret))))
  | .rotated row revocation secret credential => ((db.revoke revocation).issue credential secret).map fun db =>
    ({ db with connections := db.connections.put row }, .finished (.ok (.secret row (some secret))))
  | .revoked row revocation =>
    some ({ db.revoke revocation with connections := db.connections.put row }, .finished (.ok (.connection row)))
  | .used result row => some ({ db with connections := db.connections.put row }, .finished (.ok (.auth (some result))))
  | .agent stage => (agentCommit db.toAgentDb stage).map fun (agents, stage) => ({ db with toAgentDb := agents }, .agent stage)
  | _ => none

def ConnectionStage.locks : ConnectionStage → List ConnectionLock
  | .inserted row _ | .locked row | .revoking row | .used _ row => [.connection row.id]
  | .created row _ credential => [.connection row.id, .credential credential.id, .hash credential.secret_hash]
  | .cleared row revocation | .revoked row revocation => .connection row.id :: revocation.ids.map .credential
  | .credited row revocation _ credential | .rotated row revocation _ credential =>
    [.connection row.id, .credential credential.id, .hash credential.secret_hash] ++ revocation.ids.map .credential
  | .agent stage => stage.locks.map .agent
  | _ => []

theorem connectionCommit_free {db db' : ConnectionDb} {stage stage' : ConnectionStage}
    (committed : connectionCommit db stage = some (db', stage')) : stage'.locks = [] := by
  unfold connectionCommit at committed
  split at committed
  · obtain ⟨_, -, same⟩ := Option.map_eq_some_iff.mp committed
    obtain ⟨-, rfl⟩ := Prod.mk.inj same
    rfl
  · obtain ⟨_, -, issued⟩ := Option.bind_eq_some_iff.mp committed
    obtain ⟨_, -, same⟩ := Option.map_eq_some_iff.mp issued
    obtain ⟨-, rfl⟩ := Prod.mk.inj same
    rfl
  · obtain ⟨_, -, same⟩ := Option.map_eq_some_iff.mp committed
    obtain ⟨-, rfl⟩ := Prod.mk.inj same
    rfl
  · obtain ⟨-, rfl⟩ := Prod.mk.inj (Option.some.inj committed)
    rfl
  · obtain ⟨-, rfl⟩ := Prod.mk.inj (Option.some.inj committed)
    rfl
  · obtain ⟨_, written, same⟩ := Option.map_eq_some_iff.mp committed
    obtain ⟨-, rfl⟩ := Prod.mk.inj same
    rw [ConnectionStage.locks, agentCommit_free written, List.map_nil]
  · cases committed

def connectionTransactions (hash : String → Hash) :
    Transactions ConnectionDb ConnectionCall ConnectionChance ConnectionLock where
  opens call := match call.stage with | .started => true | _ => false
  statement db call chance := (connectionStatement hash db call chance).map fun stage => { call with stage }
  commit db call := (connectionCommit db call.stage).map fun (db, stage) => (db, { call with stage })
  locks call := call.stage.locks
  opens_free := by
    rintro ⟨operator, orgId, request, stage⟩ opens
    cases stage <;> first | rfl | cases opens
  commit_free := by
    rintro db call db' call' committed
    obtain ⟨⟨_, stage'⟩, written, same⟩ := Option.map_eq_some_iff.mp committed
    obtain ⟨rfl, rfl⟩ := Prod.mk.inj same
    exact connectionCommit_free written

end AgentOps.Identity
