import AgentOps.Identity.AgentReferences

namespace AgentOps.Identity
open Lib

variable {db db' : AgentDb} {call : AgentCall} {orgId : OrgId} {teamId : TeamId} {parentAgentId : Option AgentId}
  {row base : AgentRow} {team : TeamRow}

/-! # Archived teams and their agents -/

def Archived (db : AgentDb) (teamId : TeamId) : Prop := ∃ team, db.teams.find? teamId = some team ∧ team.archived_at ≠ none

instance (db : AgentDb) : DecidablePred (Archived db) := fun teamId =>
  decidable_of_iff ((db.teams.find? teamId).any fun team => team.archived_at ≠ none) (by simp [Archived, Option.any_eq_true])

def ArchivedIdle (db : AgentDb) : Prop := ∀ row ∈ db.agents, row.status = .active → ¬Archived db row.team_id

instance : DecidablePred ArchivedIdle := fun db =>
  inferInstanceAs (Decidable (∀ row ∈ db.agents.rows, row.status = .active → ¬Archived db row.team_id))

/-- What an operation checks of the team, or its sibling would, holds when it commits. -/
def TeamOpen (db : AgentDb) (call : AgentCall) : Prop :=
  match call.stage with
  | .created row => ensureTeamInOrg db row.org_id row.team_id = .ok ()
  | .updated row | .statusSet row => row.status = .active → ensureTeamInOrg db row.org_id row.team_id = .ok ()
  | .archived team => db.hasActiveAgents team.org_id team.id = false
  | _ => True

theorem Refers.open_iff (refers : Refers db orgId teamId parentAgentId) :
    ensureTeamInOrg db orgId teamId = .ok () ↔ ¬Archived db teamId := by
  obtain ⟨team, found⟩ := refers.team
  have located := (team?_eq_some.mp found).1
  simp [ensureTeamInOrg_ok, found, Archived, located]

theorem idle_written_iff {agents : Table AgentRow.id} (idle : ArchivedIdle db)
    (refers : Refers db row.org_id row.team_id row.parent_agent_id)
    (written : row ∈ agents) (others : ∀ other ∈ agents, other = row ∨ other ∈ db.agents) :
    ArchivedIdle { db with agents } ↔ (row.status = .active → ensureTeamInOrg db row.org_id row.team_id = .ok ()) := by
  rw [refers.open_iff]
  constructor
  · intro idle' active
    exact idle' row written active
  · intro allowed other member active
    rcases others other member with rfl | member
    · exact allowed active
    · exact idle other member active

theorem idle_put_iff (idle : ArchivedIdle db) (refers : Refers db row.org_id row.team_id row.parent_agent_id)
    (found : db.agents.find? row.id = some base) : ArchivedIdle { db with agents := db.agents.put row } ↔
      (row.status = .active → ensureTeamInOrg db row.org_id row.team_id = .ok ()) := by
  refine idle_written_iff idle refers (Table.mem_of_find? (Table.find?_put_self found)) fun other member => ?_
  rcases Table.mem_put.mp member with ⟨member, -⟩ | ⟨same, -⟩
  · exact .inr member
  · exact .inl same

theorem hasActiveAgents_iff (refs : References db) {before : TeamRow} (found : db.teams.find? team.id = some before)
    (inOrg : before.org_id = team.org_id) :
    db.hasActiveAgents team.org_id team.id = true ↔ ∃ row ∈ db.agents, row.team_id = team.id ∧ row.status = .active := by
  simp only [AgentDb.hasActiveAgents, List.any_eq_true, Bool.and_eq_true, decide_eq_true_eq, ← Table.mem_def]
  constructor
  · rintro ⟨row, member, ⟨-, inTeam⟩, active⟩
    exact ⟨row, member, inTeam, active⟩
  · rintro ⟨row, member, inTeam, active⟩
    obtain ⟨team', located⟩ := (refs row member).team
    obtain ⟨located, mine⟩ := team?_eq_some.mp located
    rw [inTeam, found] at located
    obtain rfl := Option.some.inj located
    exact ⟨row, member, ⟨mine.symm.trans inOrg, inTeam⟩, active⟩

theorem idle_archived_iff (refs : References db) (idle : ArchivedIdle db) {before : TeamRow}
    (found : db.teams.find? team.id = some before) (inOrg : before.org_id = team.org_id) (archives : team.archived_at ≠ none) :
    ArchivedIdle { db with teams := db.teams.put team } ↔ db.hasActiveAgents team.org_id team.id = false := by
  rw [← Bool.not_eq_true, hasActiveAgents_iff refs found inOrg]
  constructor
  · rintro idle' ⟨row, member, inTeam, active⟩
    exact idle' row member active ⟨team, inTeam ▸ Table.find?_put_self found, archives⟩
  · rintro none row member active ⟨team', located, archived⟩
    by_cases same : team.id = row.team_id
    · exact none ⟨row, member, same.symm, active⟩
    · rw [Table.find?_put_ne same] at located
      exact idle row member active ⟨team', located, archived⟩

theorem AgentCommitted.idle_iff (committed : AgentCommitted db call db') (refs : References db) (knows : AgentKnows db call)
    (idle : ArchivedIdle db) : ArchivedIdle db' ↔ TeamOpen db call := by
  unfold AgentKnows at knows
  unfold TeamOpen
  cases committed with
  | @archived team stands =>
    simp only [stands] at knows ⊢
    obtain ⟨archives, before, found, inOrg⟩ := knows
    exact idle_archived_iff refs idle found inOrg archives
  | @created row agents stands inserted =>
    simp only [stands] at knows ⊢
    obtain ⟨active, refers⟩ := knows
    rw [idle_written_iff idle refers ((Table.mem_insert? inserted).mpr (.inl rfl)) fun other => (Table.mem_insert? inserted).mp]
    exact forall_prop_of_true active
  | @updated row stands =>
    simp only [stands] at knows ⊢
    obtain ⟨refers, base, found, -⟩ := knows
    exact idle_put_iff idle refers found
  | @statusSet row stands =>
    simp only [stands] at knows ⊢
    obtain ⟨base, found, same⟩ := knows
    refine idle_put_iff idle ?_ found
    rw [same]
    exact refs base (Table.mem_of_find? found)

variable {s₀ s : Sessions AgentDb AgentCall}
  {events : List (Sessions AgentDb AgentCall × TransactionLabel AgentCall AgentChance)}

theorem archived_idle_throughout_iff (run : Run agentTransactions.step s₀ events s) (idle : s₀.sessions = .empty)
    (refs : References s₀.db) (initial : ArchivedIdle s₀.db) :
    (∀ state ∈ states events s, ArchivedIdle state.db) ↔ Conforms (agentTransactions.CommitsMeet TeamOpen) events :=
  agent_keeps.throughout_iff run idle refs ArchivedIdle initial fun _ _ _ _ refs knows idle committed =>
    (agentCommit_cases committed).1.idle_iff refs knows idle

section Example

def pausedSquad : Sessions AgentDb AgentCall where
  db := {
    orgs := .singleton ⟨1, some 1⟩
    teams := ⟨[⟨1, 1, "Default", "", true, none⟩, ⟨2, 1, "Squad", "", false, none⟩], by decide⟩
    agents := .singleton ⟨1, 1, 2, none, "agent", .paused, "", [], none, [], 1⟩ }
  sessions := .empty

def asks (id : Nat) (request : AgentRequest) : TransactionLabel AgentCall AgentChance := .opened id ⟨1, 1, request, .started⟩

def statementsOf (id n : Nat) : List (TransactionLabel AgentCall AgentChance) := List.replicate n (.statement id ⟨7, 0, 0⟩)

def archives (id : Nat) : List (TransactionLabel AgentCall AgentChance) :=
  asks id (.archiveTeam 2) :: statementsOf id 3 ++ [.commit id]

def joinsSquad : AgentRequest := .createAgent ⟨"newcomer", some 2, none, none, none, none, none⟩

/-- An agent is activated after its team is archived, and another is created in the team while it is being archived. -/
theorem archived_with_active :
    (∃ events s, Run agentTransactions.step pausedSquad events s ∧ ¬ArchivedIdle s.db ∧
      (s.db.agents.find? 1).map AgentRow.status = some .active ∧ Archived s.db 2) ∧
    ∃ events s, Run agentTransactions.step pausedSquad events s ∧ ¬ArchivedIdle s.db ∧
      (s.db.agents.find? 7).map AgentRow.status = some .active ∧ Archived s.db 2 := by
  constructor
  · exact exists_run (archives 1 ++ asks 2 (.setAgentStatus 1 .active) :: statementsOf 2 2 ++ [.commit 2]) _ rfl
  · exact exists_run (asks 2 joinsSquad :: statementsOf 2 3 ++ archives 1 ++ statementsOf 2 1 ++ [.commit 2]) _ rfl

def teamOpenCheck (db : AgentDb) (call : AgentCall) : Bool :=
  match call.stage with
  | .created row | .updated row | .statusSet row => (ensureTeamInOrg db row.org_id row.team_id).toBool
  | .archived team => !db.hasActiveAgents team.org_id team.id
  | _ => true

theorem teamOpen_of_check (db : AgentDb) (call : AgentCall) (passes : teamOpenCheck db call = true) : TeamOpen db call := by
  have ok {check : Except Failure Unit} (passes : check.toBool = true) : check = .ok () := by
    cases check with
    | error => cases passes
    | ok => rfl
  unfold teamOpenCheck at passes
  unfold TeamOpen
  split at passes
  · exact ok passes
  · exact fun _ => ok passes
  · exact fun _ => ok passes
  · simpa using passes
  · trivial

theorem pausedSquad_references : References pausedSquad.db := by
  intro row member
  obtain rfl := List.mem_singleton.mp member
  exact ⟨⟨_, rfl⟩, fun _ above => nomatch above⟩

/-- The agent is activated, and then its team cannot be archived. -/
theorem archived_idle_in_turn : ∃ events s, Run agentTransactions.step pausedSquad events s ∧
    (s.db.agents.find? 1).map AgentRow.status = some .active ∧ ¬Archived s.db 2 ∧
    ∀ state ∈ states events s, ArchivedIdle state.db := by
  obtain ⟨events, s, run, checked, reached⟩ : ∃ events s, Run agentTransactions.step pausedSquad events s ∧
      Conforms (agentTransactions.CommitsMeet TeamOpen) events ∧
      (s.db.agents.find? 1).map AgentRow.status = some .active ∧ ¬Archived s.db 2 :=
    exists_conforming_run
      (asks 2 (.setAgentStatus 1 .active) :: statementsOf 2 2 ++ .commit 2 :: asks 1 (.archiveTeam 2) :: statementsOf 1 2)
      (fun s label => (agentTransactions.committing s label).all fun c => teamOpenCheck s.db c.1) _
      (fun _ _ => Transactions.commitsMeet_of_check teamOpen_of_check) rfl
  refine ⟨events, s, run, reached.1, reached.2, ?_⟩
  exact (archived_idle_throughout_iff run rfl pausedSquad_references (by decide)).mpr checked

end Example

end AgentOps.Identity
