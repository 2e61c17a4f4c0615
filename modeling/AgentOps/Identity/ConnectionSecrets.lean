import AgentOps.Identity.Connections

namespace AgentOps.Identity
open Lib

variable {hash : String → Hash} {db db' : ConnectionDb} {call other : ConnectionCall} {stage : ConnectionStage}
  {chance : ConnectionChance} {orgId : OrgId} {c c' : ConnectionId} {row base : ConnectionRow} {credential : CredentialRow}
  {revocation : Revocation} {secret token : String}

/-! # The secrets of a connection -/

structure Secured (hash : String → Hash) (db : ConnectionDb) (c : ConnectionId) : Prop where
  placed : ∀ cred ∈ db.credentials, cred.connection_id = c →
    ∃ row, db.connections.find? c = some row ∧ row.org_id = cred.org_id
  single : ∀ cred ∈ db.credentials, ∀ cred' ∈ db.credentials, cred.connection_id = c → cred'.connection_id = c →
    cred.status = .active → cred'.status = .active → cred = cred'
  latest : ∀ cred ∈ db.credentials, cred.connection_id = c → cred.status = .active →
    ∃ secret, db.lastIssued c = some secret ∧ cred.secret_hash = hash secret

def SecretsKept (hash : String → Hash) (db : ConnectionDb) : Prop := ∀ c, Secured hash db c

theorem connection?_eq_some : db.connection? orgId c = some row ↔ db.connections.find? c = some row ∧ row.org_id = orgId := by
  simp [ConnectionDb.connection?, Option.filter_eq_some_iff]

/-! ## Databases that agree on a connection -/

structure SameAt (db db' : ConnectionDb) (c : ConnectionId) : Prop where
  connection : db'.connections.find? c = db.connections.find? c
  credentials : ∀ cred, cred.connection_id = c → (cred ∈ db'.credentials ↔ cred ∈ db.credentials)
  issued : db'.lastIssued c = db.lastIssued c

theorem SameAt.trans {db₁ db₂ db₃ : ConnectionDb} (first : SameAt db₁ db₂ c) (second : SameAt db₂ db₃ c) :
    SameAt db₁ db₃ c where
  connection := second.connection.trans first.connection
  credentials cred mine := (second.credentials cred mine).trans (first.credentials cred mine)
  issued := second.issued.trans first.issued

theorem Secured.same (secured : Secured hash db c) (same : SameAt db db' c) : Secured hash db' c := by
  refine ⟨fun cred member mine => ?_, fun cred member cred' member' mine mine' => ?_, fun cred member mine => ?_⟩
  · rw [same.connection]
    exact secured.placed cred ((same.credentials cred mine).mp member) mine
  · exact secured.single cred ((same.credentials cred mine).mp member) cred' ((same.credentials cred' mine').mp member') mine mine'
  · rw [same.issued]
    exact secured.latest cred ((same.credentials cred mine).mp member) mine

structure Covers (db : ConnectionDb) (c : ConnectionId) (revocation : Revocation) : Prop where
  all : ∀ cred ∈ db.credentials, cred.connection_id = c → cred.status = .active → cred.id ∈ revocation.ids
  own : ∀ id ∈ revocation.ids, ∃ cred ∈ db.credentials, cred.id = id ∧ cred.connection_id = c

theorem Covers.same (covers : Covers db c revocation) (same : SameAt db db' c) : Covers db' c revocation := by
  refine ⟨fun cred member mine => covers.all cred ((same.credentials cred mine).mp member) mine, fun id taken => ?_⟩
  obtain ⟨cred, member, named, mine⟩ := covers.own id taken
  exact ⟨cred, (same.credentials cred mine).mpr member, named, mine⟩

theorem covers_revocation (secured : Secured hash db c) (found : db.connections.find? c = some row)
    (inOrg : row.org_id = orgId) (now : Time) : Covers db c (db.revocation orgId c now) := by
  have mem (id : CredentialId) : id ∈ (db.revocation orgId c now).ids ↔
      ∃ cred ∈ db.credentials, (cred.org_id = orgId ∧ cred.connection_id = c ∧ cred.status = .active) ∧ cred.id = id := by
    simp [ConnectionDb.revocation, ConnectionDb.activeCredentials, Table.mem_def, and_assoc]
  refine ⟨fun cred member mine active => ?_, fun id taken => ?_⟩
  · obtain ⟨row', located, sameOrg⟩ := secured.placed cred member mine
    obtain rfl := Option.some.inj (found.symm.trans located)
    exact (mem _).mpr ⟨cred, member, ⟨sameOrg.symm.trans inOrg, mine, active⟩, rfl⟩
  · obtain ⟨cred, member, ⟨-, mine, -⟩, named⟩ := (mem id).mp taken
    exact ⟨cred, member, named, mine⟩

def Rewrites (db : ConnectionDb) (row : ConnectionRow) : Prop :=
  ∃ base, db.connections.find? row.id = some base ∧ base.org_id = row.org_id ∧ (base.status = .revoked → row.status = .revoked)

theorem Rewrites.same (rewrites : Rewrites db row) (same : SameAt db db' row.id) : Rewrites db' row := by
  unfold Rewrites
  rw [same.connection]
  exact rewrites

/-! ## What a call knows -/

structure Credits (hash : String → Hash) (row : ConnectionRow) (secret : String) (credential : CredentialRow) : Prop where
  org : credential.org_id = row.org_id
  connection : credential.connection_id = row.id
  hashed : credential.secret_hash = hash secret

theorem credentialOf_credits (row : ConnectionRow) (secret : String) (id : CredentialId) :
    Credits hash row secret (credentialOf hash row secret id) := ⟨rfl, rfl, rfl⟩

def ConnectionKnows (hash : String → Hash) (db : ConnectionDb) (call : ConnectionCall) : Prop :=
  match call.stage with
  | .inserted row _ => db.connections.find? row.id = none
  | .created row secret credential => db.connections.find? row.id = none ∧ Credits hash row secret credential
  | .locked existing => call.request = .rotateConnection existing.id ∧ existing.org_id = call.orgId ∧
      db.connections.find? existing.id = some existing
  | .cleared existing revocation => call.request = .rotateConnection existing.id ∧ existing.org_id = call.orgId ∧
      Covers db existing.id revocation
  | .credited existing revocation secret credential => call.request = .rotateConnection existing.id ∧
      existing.org_id = call.orgId ∧ Covers db existing.id revocation ∧ Credits hash existing secret credential
  | .rotated row revocation secret credential => Rewrites db row ∧ Covers db row.id revocation ∧
      Credits hash row secret credential
  | .revoking row => call.request = .revokeConnection row.id ∧ row.org_id = call.orgId ∧ row.status = .revoked ∧ Rewrites db row
  | .revoked row revocation => row.status = .revoked ∧ Rewrites db row ∧ Covers db row.id revocation
  | .used _ row => Rewrites db row
  | _ => True

theorem createConnection_knows {agentId : AgentId} {input : CreateConnectionInput} (knows : ConnectionKnows hash db call)
    (moved : createConnection hash db call agentId input chance = some stage) : ConnectionKnows hash db { call with stage } := by
  unfold createConnection at moved
  unfold ConnectionKnows at knows
  split at moved
  · split at moved
    · obtain rfl := Option.some.inj moved
      trivial
    · split at moved <;> obtain rfl := Option.some.inj moved <;> trivial
  · simp only at moved
    split at moved <;> obtain rfl := Option.some.inj moved
    · trivial
    · rename_i fresh
      exact Option.not_isSome_iff_eq_none.mp fresh
  · rename_i stands
    rw [stands] at knows
    simp only at moved
    split at moved <;> obtain rfl := Option.some.inj moved
    · trivial
    · exact ⟨knows, credentialOf_credits ..⟩
  · cases moved

theorem rotateConnection_knows (asked : call.request = .rotateConnection c) (kept : SecretsKept hash db)
    (knows : ConnectionKnows hash db call) (moved : rotateConnection hash db call c chance = some stage) :
    ConnectionKnows hash db { call with stage } := by
  unfold rotateConnection at moved
  unfold ConnectionKnows at knows
  split at moved
  · split at moved
    · obtain rfl := Option.some.inj moved
      trivial
    · rename_i existing found
      split at moved <;> obtain rfl := Option.some.inj moved
      · trivial
      · obtain ⟨located, inOrg⟩ := connection?_eq_some.mp (Option.filter_eq_some_iff.mp found).1
        obtain rfl := Table.key_of_find? located
        exact ⟨asked, inOrg, located⟩
  · rename_i existing stands
    rw [stands] at knows
    obtain ⟨same, inOrg, found⟩ := knows
    obtain rfl := ConnectionRequest.rotateConnection.inj (asked.symm.trans same)
    obtain rfl := Option.some.inj moved
    exact ⟨asked, inOrg, covers_revocation (kept _) found inOrg _⟩
  · rename_i stands
    rw [stands] at knows
    obtain ⟨same, inOrg, covers⟩ := knows
    simp only at moved
    split at moved <;> obtain rfl := Option.some.inj moved
    · trivial
    · exact ⟨same, inOrg, covers, credentialOf_credits ..⟩
  · rename_i stands
    rw [stands] at knows
    obtain ⟨same, inOrg, covers, credits⟩ := knows
    obtain rfl := ConnectionRequest.rotateConnection.inj (asked.symm.trans same)
    split at moved <;> obtain rfl := Option.some.inj moved
    · trivial
    · rename_i row found
      obtain ⟨located, inOrg'⟩ := connection?_eq_some.mp found
      have named : row.id = _ := Table.key_of_find? located
      refine ⟨⟨row, named ▸ located, rfl, id⟩, ?_, ?_⟩
      · rw [← named] at covers
        exact covers
      · exact ⟨credits.org.trans (inOrg.trans inOrg'.symm), credits.connection.trans named.symm, credits.hashed⟩
  · cases moved

theorem revokeConnection_knows (asked : call.request = .revokeConnection c) (kept : SecretsKept hash db)
    (knows : ConnectionKnows hash db call) (moved : revokeConnection db call c chance = some stage) :
    ConnectionKnows hash db { call with stage } := by
  unfold revokeConnection at moved
  unfold ConnectionKnows at knows
  split at moved
  · split at moved <;> obtain rfl := Option.some.inj moved
    · trivial
    · rename_i row found
      obtain ⟨located, inOrg⟩ := connection?_eq_some.mp found
      obtain rfl := Table.key_of_find? located
      exact ⟨asked, inOrg, rfl, row, located, rfl, fun _ => rfl⟩
  · rename_i row stands
    rw [stands] at knows
    obtain ⟨same, inOrg, ended, rewrites⟩ := knows
    obtain rfl := ConnectionRequest.revokeConnection.inj (asked.symm.trans same)
    obtain rfl := Option.some.inj moved
    have ⟨base, found, sameOrg, _⟩ := rewrites
    exact ⟨ended, rewrites, covers_revocation (kept _) found (sameOrg.trans inOrg) _⟩
  · cases moved

theorem authenticateConnection_knows (moved : authenticateConnection hash db call token chance = some stage) :
    ConnectionKnows hash db { call with stage } := by
  unfold authenticateConnection at moved
  split at moved
  · split at moved <;> obtain rfl := Option.some.inj moved <;> trivial
  · split at moved <;> obtain rfl := Option.some.inj moved
    · trivial
    · rename_i row found
      exact ⟨row, Table.key_of_find? found ▸ found, rfl, id⟩
  · cases moved

theorem connectionStatement_knows (kept : SecretsKept hash db) (knows : ConnectionKnows hash db call)
    (moved : connectionStatement hash db call chance = some stage) : ConnectionKnows hash db { call with stage } := by
  unfold connectionStatement at moved
  split at moved
  · exact createConnection_knows knows moved
  · rename_i asked
    exact rotateConnection_knows asked kept knows moved
  · rename_i asked
    exact revokeConnection_knows asked kept knows moved
  · exact authenticateConnection_knows moved
  · split at moved
    · obtain ⟨_, -, rfl⟩ := Option.map_eq_some_iff.mp moved
      trivial
    · obtain ⟨_, -, rfl⟩ := Option.map_eq_some_iff.mp moved
      trivial
    · cases moved

/-! ## Commits -/

inductive ConnectionCommitted (db : ConnectionDb) (call : ConnectionCall) : ConnectionDb → Prop where
  | observed {row : ConnectionRow} {connections : Table ConnectionRow.id} (stands : call.stage = .inserted row none)
      (inserted : db.connections.insert? row = some connections) : ConnectionCommitted db call { db with connections }
  | created {row : ConnectionRow} {secret : String} {credential : CredentialRow} {connections : Table ConnectionRow.id}
      {db' : ConnectionDb} (stands : call.stage = .created row secret credential)
      (inserted : db.connections.insert? row = some connections)
      (issued : ({ db with connections } : ConnectionDb).issue credential secret = some db') : ConnectionCommitted db call db'
  | rotated {row : ConnectionRow} {revocation : Revocation} {secret : String} {credential : CredentialRow}
      {db' : ConnectionDb} (stands : call.stage = .rotated row revocation secret credential)
      (issued : (db.revoke revocation).issue credential secret = some db') :
      ConnectionCommitted db call { db' with connections := db'.connections.put row }
  | revoked {row : ConnectionRow} {revocation : Revocation} (stands : call.stage = .revoked row revocation) :
      ConnectionCommitted db call { db.revoke revocation with connections := db.connections.put row }
  | used {result : ConnectionAuthResult} {row : ConnectionRow} (stands : call.stage = .used result row) :
      ConnectionCommitted db call { db with connections := db.connections.put row }
  | agent {stage : AgentStage} {agents : AgentDb} (stands : call.stage = .agent stage) :
      ConnectionCommitted db call { db with toAgentDb := agents }

theorem connectionCommit_cases {call' : ConnectionCall}
    (committed : (connectionTransactions hash).commit db call = some (db', call')) :
    ConnectionCommitted db call db' ∧ ConnectionKnows hash db' call' := by
  obtain ⟨⟨_, stage⟩, written, same⟩ := Option.map_eq_some_iff.mp committed
  obtain ⟨rfl, rfl⟩ := Prod.mk.inj same
  unfold connectionCommit at written
  split at written
  · rename_i stands
    obtain ⟨_, inserted, same⟩ := Option.map_eq_some_iff.mp written
    obtain ⟨rfl, rfl⟩ := Prod.mk.inj same
    exact ⟨.observed stands inserted, trivial⟩
  · rename_i stands
    obtain ⟨_, inserted, written⟩ := Option.bind_eq_some_iff.mp written
    obtain ⟨_, issued, same⟩ := Option.map_eq_some_iff.mp written
    obtain ⟨rfl, rfl⟩ := Prod.mk.inj same
    exact ⟨.created stands inserted issued, trivial⟩
  · rename_i stands
    obtain ⟨_, issued, same⟩ := Option.map_eq_some_iff.mp written
    obtain ⟨rfl, rfl⟩ := Prod.mk.inj same
    exact ⟨.rotated stands issued, trivial⟩
  · rename_i stands
    obtain ⟨rfl, rfl⟩ := Prod.mk.inj (Option.some.inj written)
    exact ⟨.revoked stands, trivial⟩
  · rename_i stands
    obtain ⟨rfl, rfl⟩ := Prod.mk.inj (Option.some.inj written)
    exact ⟨.used stands, trivial⟩
  · rename_i stands
    obtain ⟨_, -, same⟩ := Option.map_eq_some_iff.mp written
    obtain ⟨rfl, rfl⟩ := Prod.mk.inj same
    exact ⟨.agent stands, trivial⟩
  · cases written

theorem issue_cases (issued : db.issue credential secret = some db') : ∃ credentials,
    db.credentials.insert? credential = some credentials ∧
      db' = { db with credentials, issued := (credential.connection_id, secret) :: db.issued } := by
  obtain ⟨credentials, inserted, rfl⟩ := Option.map_eq_some_iff.mp issued
  exact ⟨credentials, inserted, rfl⟩

theorem lastIssued_issue (issued : db.issue credential secret = some db') (c : ConnectionId) :
    db'.lastIssued c = if credential.connection_id = c then some secret else db.lastIssued c := by
  obtain ⟨credentials, -, rfl⟩ := issue_cases issued
  by_cases mine : credential.connection_id = c <;> simp [ConnectionDb.lastIssued, mine]

theorem mem_issue (issued : db.issue credential secret = some db') {cred : CredentialRow} :
    cred ∈ db'.credentials ↔ cred = credential ∨ cred ∈ db.credentials := by
  obtain ⟨credentials, inserted, rfl⟩ := issue_cases issued
  exact Table.mem_insert? inserted

theorem connections_issue (issued : db.issue credential secret = some db') : db'.connections = db.connections := by
  obtain ⟨credentials, -, rfl⟩ := issue_cases issued
  rfl

theorem sameAt_issue (issued : db.issue credential secret = some db') (other : credential.connection_id ≠ c) :
    SameAt db db' c := by
  refine ⟨by rw [connections_issue issued], fun cred mine => ?_, by rw [lastIssued_issue issued, if_neg other]⟩
  rw [mem_issue issued, or_iff_right]
  rintro rfl
  exact other mine

theorem sameAt_connections {connections : Table ConnectionRow.id} (same : connections.find? c = db.connections.find? c) :
    SameAt db { db with connections } c := ⟨same, fun _ _ => Iff.rfl, rfl⟩

@[simp] theorem Revocation.write_connection (revocation : Revocation) (cred : CredentialRow) :
    (revocation.write cred).connection_id = cred.connection_id := by
  unfold Revocation.write
  split <;> rfl

@[simp] theorem Revocation.write_org (revocation : Revocation) (cred : CredentialRow) :
    (revocation.write cred).org_id = cred.org_id := by
  unfold Revocation.write
  split <;> rfl

theorem mem_revoke {cred : CredentialRow} :
    cred ∈ (db.revoke revocation).credentials ↔ ∃ before ∈ db.credentials, revocation.write before = cred := by
  rw [ConnectionDb.revoke, Table.mem_rewrite]

theorem sameAt_revoke (covers : Covers db c' revocation) (other : c' ≠ c) : SameAt db (db.revoke revocation) c := by
  have unwritten (cred : CredentialRow) (member : cred ∈ db.credentials) (mine : cred.connection_id = c) :
      revocation.write cred = cred := by
    refine if_neg fun taken => other ?_
    obtain ⟨cred', member', named, his⟩ := covers.own _ taken
    rw [← his, ← mine, Table.eq_of_key member' member named]
  refine ⟨rfl, fun cred mine => mem_revoke.trans ⟨?_, fun member => ⟨cred, member, unwritten cred member mine⟩⟩, rfl⟩
  rintro ⟨before, member, rfl⟩
  rw [unwritten before member (by simpa using mine)]
  exact member

theorem ConnectionCommitted.same (committed : ConnectionCommitted db call db') (knows : ConnectionKnows hash db call)
    (unlocked : ConnectionLock.connection c ∉ call.stage.locks) : SameAt db db' c := by
  unfold ConnectionKnows at knows
  cases committed with
  | @observed row connections stands inserted =>
    refine sameAt_connections (Table.find?_insert?_ne inserted fun mine => unlocked ?_)
    simp [stands, ConnectionStage.locks, mine]
  | @created row secret credential connections db' stands inserted issued =>
    simp only [stands] at knows
    have other : row.id ≠ c := fun mine => unlocked (by simp [stands, ConnectionStage.locks, mine])
    exact (sameAt_connections (Table.find?_insert?_ne inserted other)).trans
      (sameAt_issue issued (knows.2.connection ▸ other))
  | @rotated row revocation secret credential db' stands issued =>
    simp only [stands] at knows
    obtain ⟨-, covers, credits⟩ := knows
    have other : row.id ≠ c := fun mine => unlocked (by simp [stands, ConnectionStage.locks, mine])
    exact ((sameAt_revoke covers other).trans (sameAt_issue issued (credits.connection ▸ other))).trans
      (sameAt_connections (Table.find?_put_ne other))
  | @revoked row revocation stands =>
    simp only [stands] at knows
    have other : row.id ≠ c := fun mine => unlocked (by simp [stands, ConnectionStage.locks, mine])
    exact (sameAt_revoke knows.2.2 other).trans (sameAt_connections (Table.find?_put_ne other))
  | @used result row stands =>
    refine sameAt_connections (Table.find?_put_ne fun mine => unlocked ?_)
    simp [stands, ConnectionStage.locks, mine]
  | agent => exact ⟨rfl, fun _ _ => Iff.rfl, rfl⟩

theorem ConnectionKnows.others (knows : ConnectionKnows hash db other) (mine : ConnectionKnows hash db call)
    (committed : ConnectionCommitted db call db') (apart : (connectionTransactions hash).Apart call other) :
    ConnectionKnows hash db' other := by
  have same {c : ConnectionId} (held : ConnectionLock.connection c ∈ other.stage.locks) : SameAt db db' c :=
    committed.same mine fun both => apart _ both held
  unfold ConnectionKnows at knows ⊢
  cases stands : other.stage with
  | inserted row =>
    simp only [stands] at knows ⊢
    rw [(same (by simp [stands, ConnectionStage.locks])).connection]
    exact knows
  | created row =>
    simp only [stands] at knows ⊢
    rw [(same (by simp [stands, ConnectionStage.locks])).connection]
    exact knows
  | locked existing =>
    simp only [stands] at knows ⊢
    rw [(same (by simp [stands, ConnectionStage.locks])).connection]
    exact knows
  | cleared existing =>
    simp only [stands] at knows ⊢
    obtain ⟨asked, inOrg, covers⟩ := knows
    exact ⟨asked, inOrg, covers.same (same (by simp [stands, ConnectionStage.locks]))⟩
  | credited existing =>
    simp only [stands] at knows ⊢
    obtain ⟨asked, inOrg, covers, credits⟩ := knows
    exact ⟨asked, inOrg, covers.same (same (by simp [stands, ConnectionStage.locks])), credits⟩
  | rotated row =>
    simp only [stands] at knows ⊢
    have still : SameAt db db' row.id := same (by simp [stands, ConnectionStage.locks])
    exact ⟨knows.1.same still, knows.2.1.same still, knows.2.2⟩
  | revoking row =>
    simp only [stands] at knows ⊢
    obtain ⟨asked, inOrg, ended, rewrites⟩ := knows
    exact ⟨asked, inOrg, ended, rewrites.same (same (by simp [stands, ConnectionStage.locks]))⟩
  | revoked row =>
    simp only [stands] at knows ⊢
    have still : SameAt db db' row.id := same (by simp [stands, ConnectionStage.locks])
    exact ⟨knows.1, knows.2.1.same still, knows.2.2.same still⟩
  | used _ row =>
    simp only [stands] at knows ⊢
    exact knows.same (same (by simp [stands, ConnectionStage.locks]))
  | _ => trivial

/-! ## The connection that a commit writes -/

theorem Secured.none (secured : Secured hash db c) (missing : db.connections.find? c = none) {cred : CredentialRow}
    (member : cred ∈ db.credentials) : cred.connection_id ≠ c := by
  intro mine
  obtain ⟨_, found, -⟩ := secured.placed cred member mine
  exact nomatch missing.symm.trans found

theorem secured_of_only (issued : db'.lastIssued c = some secret) (hashed : credential.secret_hash = hash secret)
    (placed : ∀ cred ∈ db'.credentials, cred.connection_id = c →
      ∃ row, db'.connections.find? c = some row ∧ row.org_id = cred.org_id)
    (only : ∀ cred ∈ db'.credentials, cred.connection_id = c → cred.status = .active → cred = credential) :
    Secured hash db' c := by
  refine ⟨placed, fun cred member cred' member' mine mine' active active' => ?_, fun cred member mine active => ?_⟩
  · rw [only cred member mine active, only cred' member' mine' active']
  · rw [only cred member mine active]
    exact ⟨secret, issued, hashed⟩

theorem secured_created {connections : Table ConnectionRow.id} (secured : Secured hash db row.id)
    (missing : db.connections.find? row.id = none) (credits : Credits hash row secret credential)
    (inserted : db.connections.insert? row = some connections)
    (issued : ({ db with connections } : ConnectionDb).issue credential secret = some db') : Secured hash db' row.id := by
  have only (cred : CredentialRow) (member : cred ∈ db'.credentials) (mine : cred.connection_id = row.id) :
      cred = credential := by
    rcases (mem_issue issued).mp member with same | before
    · exact same
    · exact (secured.none missing before mine).elim
  refine secured_of_only ?_ credits.hashed (fun cred member mine => ?_) fun cred member mine _ => only cred member mine
  · rw [lastIssued_issue issued, if_pos credits.connection]
  · rw [connections_issue issued, only cred member mine]
    exact ⟨row, Table.find?_insert?_self inserted, credits.org.symm⟩

theorem placed_put (secured : Secured hash db row.id) (rewrites : Rewrites db row) {cred : CredentialRow}
    (member : cred ∈ (db.revoke revocation).credentials) (mine : cred.connection_id = row.id) :
    ∃ row', (db.connections.put row).find? row.id = some row' ∧ row'.org_id = cred.org_id := by
  obtain ⟨before, earlier, rfl⟩ := mem_revoke.mp member
  rw [Revocation.write_connection] at mine
  obtain ⟨base, found, inOrg, -⟩ := rewrites
  obtain ⟨_, located, sameOrg⟩ := secured.placed before earlier mine
  obtain rfl := Option.some.inj (found.symm.trans located)
  exact ⟨row, Table.find?_put_self found, by rw [Revocation.write_org, ← sameOrg, inOrg]⟩

theorem revoke_inactive (covers : Covers db c revocation) {cred : CredentialRow}
    (member : cred ∈ (db.revoke revocation).credentials) (mine : cred.connection_id = c) : cred.status ≠ .active := by
  obtain ⟨before, earlier, rfl⟩ := mem_revoke.mp member
  rw [Revocation.write_connection] at mine
  unfold Revocation.write
  split
  · simp
  · rename_i untouched
    exact fun active => untouched (covers.all before earlier mine active)

theorem secured_rotated (secured : Secured hash db row.id) (rewrites : Rewrites db row) (covers : Covers db row.id revocation)
    (credits : Credits hash row secret credential) (issued : (db.revoke revocation).issue credential secret = some db') :
    Secured hash { db' with connections := db'.connections.put row } row.id := by
  refine secured_of_only (?_ : db'.lastIssued row.id = some secret) credits.hashed (fun cred member mine => ?_)
    fun cred member mine active => ?_
  · rw [lastIssued_issue issued, if_pos credits.connection]
  · rw [connections_issue issued]
    rcases (mem_issue issued).mp member with rfl | before
    · obtain ⟨base, found, -⟩ := rewrites
      exact ⟨row, Table.find?_put_self found, credits.org.symm⟩
    · exact placed_put secured rewrites before mine
  · rcases (mem_issue issued).mp member with same | before
    · exact same
    · exact (revoke_inactive covers before mine active).elim

theorem secured_revoked (secured : Secured hash db row.id) (rewrites : Rewrites db row) (covers : Covers db row.id revocation) :
    Secured hash { db.revoke revocation with connections := db.connections.put row } row.id where
  placed _ member mine := placed_put secured rewrites member mine
  single _ member _ _ mine _ active _ := (revoke_inactive covers member mine active).elim
  latest _ member mine active := (revoke_inactive covers member mine active).elim

theorem secured_used (secured : Secured hash db row.id) (rewrites : Rewrites db row) :
    Secured hash { db with connections := db.connections.put row } row.id := by
  refine ⟨fun cred member mine => ?_, secured.single, secured.latest⟩
  obtain ⟨base, found, inOrg, -⟩ := rewrites
  obtain ⟨_, located, sameOrg⟩ := secured.placed cred member mine
  obtain rfl := Option.some.inj (found.symm.trans located)
  exact ⟨row, Table.find?_put_self found, inOrg.symm.trans sameOrg⟩

theorem secured_observed {connections : Table ConnectionRow.id} (secured : Secured hash db row.id)
    (missing : db.connections.find? row.id = none) : Secured hash { db with connections } row.id where
  placed _ member mine := (secured.none missing member mine).elim
  single _ member _ _ mine := (secured.none missing member mine).elim
  latest _ member mine := (secured.none missing member mine).elim

theorem ConnectionCommitted.kept (committed : ConnectionCommitted db call db') (kept : SecretsKept hash db)
    (knows : ConnectionKnows hash db call) : SecretsKept hash db' := by
  intro c
  by_cases held : ConnectionLock.connection c ∈ call.stage.locks
  · unfold ConnectionKnows at knows
    cases committed with
    | @observed row connections stands inserted =>
      simp only [stands] at knows
      obtain rfl : c = row.id := by simpa [stands, ConnectionStage.locks] using held
      exact secured_observed (kept _) knows
    | @created row secret credential connections db' stands inserted issued =>
      simp only [stands] at knows
      obtain rfl : c = row.id := by simpa [stands, ConnectionStage.locks] using held
      exact secured_created (kept _) knows.1 knows.2 inserted issued
    | @rotated row revocation secret credential db' stands issued =>
      simp only [stands] at knows
      obtain rfl : c = row.id := by simpa [stands, ConnectionStage.locks] using held
      exact secured_rotated (kept _) knows.1 knows.2.1 knows.2.2 issued
    | @revoked row revocation stands =>
      simp only [stands] at knows
      obtain rfl : c = row.id := by simpa [stands, ConnectionStage.locks] using held
      exact secured_revoked (kept _) knows.2.1 knows.2.2
    | @used result row stands =>
      simp only [stands] at knows
      obtain rfl : c = row.id := by simpa [stands, ConnectionStage.locks] using held
      exact secured_used (kept _) knows
    | agent stands => simp [stands, ConnectionStage.locks] at held
  · exact (kept c).same (committed.same knows held)

theorem connection_keeps :
    (connectionTransactions hash).Keeps (fun _ _ => True) (SecretsKept hash) (ConnectionKnows hash) where
  opened {db call} _ opens := by
    obtain ⟨operator, orgId, request, stage⟩ := call
    cases stage <;> trivial
  statement kept knows moved := by
    obtain ⟨stage, taken, rfl⟩ := Option.map_eq_some_iff.mp moved
    exact connectionStatement_knows kept knows taken
  committed kept knows _ committed := by
    obtain ⟨written, ended⟩ := connectionCommit_cases committed
    exact ⟨written.kept kept knows, ended⟩
  others _ mine knows _ apart committed := knows.others mine (connectionCommit_cases committed).1 apart

/-! ## Revoked connections -/

def Revoked (db : ConnectionDb) (c : ConnectionId) : Prop := ∃ row, db.connections.find? c = some row ∧ row.status = .revoked

theorem Rewrites.revoked (rewrites : Rewrites db row) (revoked : Revoked db c) :
    Revoked { db with connections := db.connections.put row } c := by
  obtain ⟨before, found, ended⟩ := revoked
  refine ⟨if row.id = c then row else before, Table.find?_put found, ?_⟩
  split
  · rename_i same
    obtain ⟨base, located, -, stays⟩ := rewrites
    rw [same, found] at located
    exact stays (Option.some.inj located ▸ ended)
  · exact ended

theorem ConnectionCommitted.still_revoked (committed : ConnectionCommitted db call db') (knows : ConnectionKnows hash db call)
    (revoked : Revoked db c) : Revoked db' c := by
  unfold ConnectionKnows at knows
  cases committed with
  | @observed row connections stands inserted =>
    obtain ⟨before, found, ended⟩ := revoked
    exact ⟨before, Table.find?_insert?_of_find? inserted found, ended⟩
  | @created row secret credential connections db' stands inserted issued =>
    obtain ⟨before, found, ended⟩ := revoked
    refine ⟨before, ?_, ended⟩
    rw [connections_issue issued]
    exact Table.find?_insert?_of_find? inserted found
  | @rotated row revocation secret credential db' stands issued =>
    simp only [stands] at knows
    simp only [connections_issue issued]
    exact knows.1.revoked revoked
  | @revoked row revocation stands =>
    simp only [stands] at knows
    exact knows.2.1.revoked revoked
  | @used result row stands =>
    simp only [stands] at knows
    exact knows.revoked revoked
  | agent => exact revoked

theorem ConnectionCommitted.now_revoked (committed : ConnectionCommitted db call db') (knows : ConnectionKnows hash db call)
    (stands : call.stage = .revoked row revocation) : Revoked db' row.id := by
  cases committed with
  | revoked stands' =>
    obtain ⟨rfl, rfl⟩ := ConnectionStage.revoked.inj (stands.symm.trans stands')
    simp only [ConnectionKnows, stands] at knows
    obtain ⟨ended, ⟨base, found, -⟩, -⟩ := knows
    exact ⟨row, Table.find?_put_self found, ended⟩
  | observed stands' | created stands' | rotated stands' | used stands' | agent stands' =>
    exact nomatch stands.symm.trans stands'

/-! ## Authentication -/

variable {result : ConnectionAuthResult}

theorem authenticates_cases (authenticated : authenticates hash db token = some result) :
    ∃ cred ∈ db.credentials, cred.secret_hash = hash token ∧ cred.status = .active ∧
      cred.connection_id = result.connection_id ∧
      (∃ row, db.connections.find? result.connection_id = some row ∧ row.status = .active) ∧
      ∃ agent, db.agent? result.org_id result.agent_id = some agent ∧ agent.status = .active := by
  obtain ⟨cred, member, matched⟩ := List.exists_of_findSome?_eq_some authenticated
  split at matched
  · rename_i hashed
    obtain ⟨row, found, matched⟩ := Option.bind_eq_some_iff.mp matched
    obtain ⟨agent, located, same⟩ := Option.bind_eq_some_iff.mp matched
    obtain rfl := Option.some.inj same
    simp only [Option.filter_eq_some_iff, decide_eq_true_eq] at found located
    obtain ⟨found, -, alive⟩ := found
    have named : row.id = cred.connection_id := Table.key_of_find? found
    exact ⟨cred, member, hashed.1, hashed.2, named.symm, ⟨row, named ▸ found, alive⟩, agent, located⟩
  · cases matched

structure Vouched (db : ConnectionDb) (token : String) (result : ConnectionAuthResult) : Prop where
  latest : db.lastIssued result.connection_id = some token
  connection : ∃ row, db.connections.find? result.connection_id = some row ∧ row.status = .active
  agent : ∃ agent, db.agent? result.org_id result.agent_id = some agent ∧ agent.status = .active

theorem authenticates_vouched (injective : Function.Injective hash) (kept : SecretsKept hash db)
    (authenticated : authenticates hash db token = some result) : Vouched db token result := by
  obtain ⟨cred, member, hashed, active, mine, connection, agent⟩ := authenticates_cases authenticated
  obtain ⟨secret, issued, own⟩ := (kept _).latest cred member mine active
  obtain rfl := injective (hashed.symm.trans own)
  exact ⟨issued, connection, agent⟩

/-- A statement of `authenticateConnection` that finds a connection for the token -/
def Authenticates (hash : String → Hash) (s : Sessions ConnectionDb ConnectionCall)
    (label : TransactionLabel ConnectionCall ConnectionChance) (token : String) (result : ConnectionAuthResult) : Prop :=
  ∃ id chance session, label = .statement id chance ∧ s.sessions.find? id = some session ∧
    session.phase.request = .authenticateConnection token ∧ session.phase.stage = .started ∧
    authenticates hash s.db token = some result

def Revokes (hash : String → Hash) (s : Sessions ConnectionDb ConnectionCall)
    (label : TransactionLabel ConnectionCall ConnectionChance) (c : ConnectionId) : Prop :=
  ∃ call db' row revocation, (connectionTransactions hash).Commits s label call db' ∧
    call.stage = .revoked row revocation ∧ row.id = c

variable {s₀ s s' : Sessions ConnectionDb ConnectionCall} {label : TransactionLabel ConnectionCall ConnectionChance}
  {events : List (Sessions ConnectionDb ConnectionCall × TransactionLabel ConnectionCall ConnectionChance)}

theorem step_revoked (sound : (connectionTransactions hash).Sound (SecretsKept hash) (ConnectionKnows hash) s)
    (taken : (connectionTransactions hash).step s label = some s') (revoked : Revoked s.db c ∨ Revokes hash s label c) :
    Revoked s'.db c := by
  by_cases commits : ∃ id, label = .commit id
  · obtain ⟨id, rfl⟩ := commits
    obtain ⟨session, db, phase, found, committed, rfl⟩ := Transactions.step_commit taken
    have knows := sound.knows session (Table.mem_of_find? found)
    have written := (connectionCommit_cases committed).1
    rcases revoked with before | ⟨call, db', row, revocation, ⟨id', session', _, same, found', rfl, _⟩, stands, rfl⟩
    · exact written.still_revoked knows before
    · obtain rfl := TransactionLabel.commit.inj same
      obtain rfl := Option.some.inj (found.symm.trans found')
      exact written.now_revoked knows stands
  · have same := Transactions.step_db taken fun id is => commits ⟨id, is⟩
    rcases revoked with before | ⟨_, _, _, _, ⟨id, _, _, is, -⟩, -⟩
    · rw [same]
      exact before
    · exact (commits ⟨id, is⟩).elim

theorem revoked_after (run : Run (connectionTransactions hash).step s₀ events s) (idle : s₀.sessions = .empty)
    (kept : SecretsKept hash s₀.db) : ∀ e ∈ events, Revokes hash e.1 e.2 c → Revoked s.db c := by
  induction run with
  | start => simp
  | @next events s s' label before taken ih =>
    have sound := connection_keeps.run before idle kept fun _ _ _ _ _ => trivial
    intro e member revokes
    rcases List.mem_append.mp member with earlier | last
    · exact step_revoked sound taken (.inl (ih e earlier revokes))
    · obtain rfl := List.mem_singleton.mp last
      exact step_revoked sound taken (.inr revokes)

def ConnectionStage.found? : ConnectionStage → Option ConnectionAuthResult
  | .authenticated result | .used result _ => some result
  | .finished (.ok (.auth result)) => result
  | _ => none

theorem authenticateConnection_found (moved : authenticateConnection hash db call token chance = some stage)
    (found : stage.found? = some result) :
    call.stage.found? = some result ∨ call.stage = .started ∧ authenticates hash db token = some result := by
  unfold authenticateConnection at moved
  split at moved
  · rename_i stands
    split at moved <;> obtain rfl := Option.some.inj moved
    · cases found
    · rename_i matched
      exact .inr ⟨stands, matched.trans found⟩
  · rename_i stands
    rw [stands]
    split at moved <;> obtain rfl := Option.some.inj moved <;> exact .inl found
  · cases moved

theorem connectionCommit_found {stage' : ConnectionStage} (committed : connectionCommit db stage = some (db', stage'))
    (found : stage'.found? = some result) : stage.found? = some result := by
  unfold connectionCommit at committed
  split at committed
  · obtain ⟨_, -, same⟩ := Option.map_eq_some_iff.mp committed
    obtain ⟨-, rfl⟩ := Prod.mk.inj same
    cases found
  · obtain ⟨_, -, issued⟩ := Option.bind_eq_some_iff.mp committed
    obtain ⟨_, -, same⟩ := Option.map_eq_some_iff.mp issued
    obtain ⟨-, rfl⟩ := Prod.mk.inj same
    cases found
  · obtain ⟨_, -, same⟩ := Option.map_eq_some_iff.mp committed
    obtain ⟨-, rfl⟩ := Prod.mk.inj same
    cases found
  · obtain ⟨-, rfl⟩ := Prod.mk.inj (Option.some.inj committed)
    cases found
  · obtain ⟨-, rfl⟩ := Prod.mk.inj (Option.some.inj committed)
    exact found
  · obtain ⟨_, -, same⟩ := Option.map_eq_some_iff.mp committed
    obtain ⟨-, rfl⟩ := Prod.mk.inj same
    cases found
  · cases committed

theorem found_before (taken : (connectionTransactions hash).step s label = some s') {session : Session ConnectionCall}
    (member : session ∈ s'.sessions) (asks : session.phase.request = .authenticateConnection token)
    (found : session.phase.stage.found? = some result) :
    (∃ earlier ∈ s.sessions, earlier.phase.request = .authenticateConnection token ∧
      earlier.phase.stage.found? = some result) ∨ Authenticates hash s label token result := by
  cases label with
  | opened id phase =>
    simp only [Transactions.step, Option.ite_none_right_eq_some, Option.map_eq_some_iff] at taken
    obtain ⟨opens, sessions, inserted, rfl⟩ := taken
    rcases (Table.mem_insert? inserted).mp member with rfl | before
    · obtain ⟨operator, orgId, request, stage⟩ := phase
      cases stage <;> first | cases found; done | cases opens
    · exact .inl ⟨session, before, asks, found⟩
  | statement id chance =>
    obtain ⟨before, phase, located, moved, -, rfl⟩ := Transactions.step_statement taken
    rcases Transactions.mem_moved located member with rfl | ⟨other, -⟩
    · obtain ⟨stage, stated, rfl⟩ := Option.map_eq_some_iff.mp moved
      simp only at asks found
      rw [connectionStatement, asks] at stated
      rcases authenticateConnection_found stated found with had | ⟨stands, matched⟩
      · exact .inl ⟨before, Table.mem_of_find? located, asks, had⟩
      · exact .inr ⟨id, chance, before, rfl, located, asks, stands, matched⟩
    · exact .inl ⟨session, other, asks, found⟩
  | commit id =>
    obtain ⟨before, db, phase, located, committed, rfl⟩ := Transactions.step_commit taken
    rcases Transactions.mem_moved located member with rfl | ⟨other, -⟩
    · obtain ⟨⟨_, stage⟩, written, same⟩ := Option.map_eq_some_iff.mp committed
      obtain ⟨rfl, rfl⟩ := Prod.mk.inj same
      exact .inl ⟨before, Table.mem_of_find? located, asks, connectionCommit_found written found⟩
    · exact .inl ⟨session, other, asks, found⟩
  | rollback id =>
    obtain rfl := Option.some.inj taken
    exact .inl ⟨session, (Table.mem_remove.mp member).1, asks, found⟩

theorem found_authenticates (run : Run (connectionTransactions hash).step s₀ events s) (idle : s₀.sessions = .empty) :
    ∀ session ∈ s.sessions, session.phase.request = .authenticateConnection token →
      session.phase.stage.found? = some result → ∃ e ∈ events, Authenticates hash e.1 e.2 token result := by
  induction run with
  | start => simp [idle]
  | @next events s s' label before taken ih =>
    intro session member asks found
    rcases found_before taken member asks found with ⟨earlier, was, asked, had⟩ | authenticates
    · obtain ⟨e, inside, authenticates⟩ := ih earlier was asked had
      exact ⟨e, List.mem_append_left _ inside, authenticates⟩
    · exact ⟨(s, label), by simp, authenticates⟩

/-- Two active credentials of a connection are one. -/
def OneActive (db : ConnectionDb) : Prop :=
  ∀ cred ∈ db.credentials, ∀ cred' ∈ db.credentials, cred.connection_id = cred'.connection_id →
    cred.status = .active → cred'.status = .active → cred = cred'

theorem connection_secrets (injective : Function.Injective hash) (run : Run (connectionTransactions hash).step s₀ events s)
    (idle : s₀.sessions = .empty) (kept : SecretsKept hash s₀.db) : OneActive s.db ∧
      (∀ session ∈ s.sessions, ∀ token result, session.phase.request = .authenticateConnection token →
        session.phase.stage = .finished (.ok (.auth (some result))) →
          ∃ e ∈ events, Authenticates hash e.1 e.2 token result) ∧
      ∀ before e after token result, events = before ++ e :: after → Authenticates hash e.1 e.2 token result →
        Vouched e.1.db token result ∧ ∀ earlier ∈ before, ¬Revokes hash earlier.1 earlier.2 result.connection_id := by
  refine ⟨?_, fun session member token result asks ends => ?_, ?_⟩
  · have sound := connection_keeps.run run idle kept fun _ _ _ _ _ => trivial
    exact fun cred member cred' member' same => (sound.inv _).single cred member cred' member' rfl same.symm
  · exact found_authenticates run idle session member asks (by rw [ends]; rfl)
  · rintro before e after token result rfl ⟨_, _, _, -, -, -, -, authenticated⟩
    obtain ⟨_, first, -, -⟩ := run.split
    have sound := connection_keeps.run first idle kept fun _ _ _ _ _ => trivial
    have vouched := authenticates_vouched injective sound.inv authenticated
    refine ⟨vouched, fun earlier member revokes => ?_⟩
    obtain ⟨row, found, ended⟩ := revoked_after first idle kept earlier member revokes
    obtain ⟨_, found', alive⟩ := vouched.connection
    obtain rfl := Option.some.inj (found.symm.trans found')
    exact nomatch ended.symm.trans alive

section Example

def connectionDesk : Sessions ConnectionDb ConnectionCall where
  db := {
    orgs := .singleton ⟨1, some 1⟩
    teams := .singleton ⟨1, 1, "Default", "", true, none⟩
    agents := .singleton ⟨1, 1, 1, none, "agent", .active, "", [], none, [], 1⟩
    connections := .empty
    credentials := .empty
    issued := [] }
  sessions := .empty

def runs (id : Nat) (request : ConnectionRequest) (secrets : List String) (ends : Bool) :
    List (TransactionLabel ConnectionCall ConnectionChance) :=
  .opened id ⟨1, 1, request, .started⟩ :: secrets.map (fun secret => .statement id ⟨⟨id, 0, 0⟩, secret⟩) ++
    if ends then [.commit id] else []

def lifetime : List (TransactionLabel ConnectionCall ConnectionChance) :=
  runs 1 (.createConnection 1 ⟨.sdk, "sdk"⟩) ["", "conn_a", ""] true ++
  runs 2 (.authenticateConnection "conn_a") ["", ""] true ++ runs 3 (.rotateConnection 1) ["", "", "conn_b", ""] true ++
  runs 4 (.authenticateConnection "conn_b") ["", ""] true ++ runs 5 (.authenticateConnection "conn_a") [""] false ++
  runs 6 (.revokeConnection 1) ["", ""] true ++ runs 7 (.authenticateConnection "conn_b") [""] false

def answerOf (s : Sessions ConnectionDb ConnectionCall) (id : Nat) : Option (Option ConnectionId) :=
  (s.sessions.find? id).bind fun session => match session.phase.stage with
    | .finished (.ok (.auth result)) => some (result.map ConnectionAuthResult.connection_id)
    | _ => none

/-- A connection is authenticated by its secret until that is rotated, and by the next one until it is revoked. -/
theorem connection_secrets_in_turn : ∃ events s, Run (connectionTransactions id).step connectionDesk events s ∧
    [2, 4, 5, 7].map (answerOf s) = [some (some 1), some (some 1), some none, some none] ∧ OneActive s.db ∧
    (∀ session ∈ s.sessions, ∀ token result, session.phase.request = .authenticateConnection token →
      session.phase.stage = .finished (.ok (.auth (some result))) → ∃ e ∈ events, Authenticates id e.1 e.2 token result) ∧
    ∀ before e after token result, events = before ++ e :: after → Authenticates id e.1 e.2 token result →
      Vouched e.1.db token result ∧ ∀ earlier ∈ before, ¬Revokes id earlier.1 earlier.2 result.connection_id := by
  obtain ⟨events, s, run, answers⟩ : ∃ events s, Run (connectionTransactions id).step connectionDesk events s ∧
      [2, 4, 5, 7].map (answerOf s) = [some (some 1), some (some 1), some none, some none] := exists_run lifetime _ rfl
  have kept : SecretsKept id connectionDesk.db := fun _ => ⟨by rintro _ ⟨⟩, by rintro _ ⟨⟩, by rintro _ ⟨⟩⟩
  exact ⟨events, s, run, answers, connection_secrets Function.injective_id run rfl kept⟩

end Example

end AgentOps.Identity
