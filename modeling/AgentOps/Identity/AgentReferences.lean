import AgentOps.Identity.Agents

namespace AgentOps.Identity
open Lib

variable {db db' : AgentDb} {call other : AgentCall} {stage : AgentStage} {chance : AgentChance} {orgId : OrgId}
  {agentId : AgentId} {teamId : TeamId} {parentAgentId : Option AgentId} {row : AgentRow} {team : TeamRow}

/-! # References of agents, and what a call knows of them -/

theorem agent?_eq_some : db.agent? orgId agentId = some row ↔ db.agents.find? agentId = some row ∧ row.org_id = orgId := by
  simp [AgentDb.agent?, Option.filter_eq_some_iff]

theorem team?_eq_some : db.team? orgId teamId = some team ↔ db.teams.find? teamId = some team ∧ team.org_id = orgId := by
  simp [AgentDb.team?, Option.filter_eq_some_iff]

structure Refers (db : AgentDb) (orgId : OrgId) (teamId : TeamId) (parentAgentId : Option AgentId) : Prop where
  team : ∃ team, db.team? orgId teamId = some team
  parent : ∀ p, parentAgentId = some p → ∃ row, db.agent? orgId p = some row

def References (db : AgentDb) : Prop := ∀ row ∈ db.agents, Refers db row.org_id row.team_id row.parent_agent_id

structure Extends (db db' : AgentDb) : Prop where
  teams : ∀ {orgId teamId team}, db.team? orgId teamId = some team → ∃ team', db'.team? orgId teamId = some team'
  agents : ∀ {orgId agentId row}, db.agent? orgId agentId = some row → ∃ row', db'.agent? orgId agentId = some row'

theorem Refers.extend (refers : Refers db orgId teamId parentAgentId) (grows : Extends db db') :
    Refers db' orgId teamId parentAgentId := by
  refine ⟨?_, fun p above => ?_⟩
  · obtain ⟨_, found⟩ := refers.team
    exact grows.teams found
  · obtain ⟨_, found⟩ := refers.parent p above
    exact grows.agents found

theorem ensureTeamInOrg_ok : ensureTeamInOrg db orgId teamId = .ok () ↔
    ∃ team, db.team? orgId teamId = some team ∧ team.archived_at = none := by
  unfold ensureTeamInOrg
  cases db.team? orgId teamId <;> simp

theorem ensureParentInOrg_ok (ok : ensureParentInOrg db orgId parentAgentId = .ok ()) {p : AgentId}
    (above : parentAgentId = some p) : ∃ row, db.agent? orgId p = some row := by
  subst above
  simp only [ensureParentInOrg] at ok
  split at ok
  · rename_i found
    exact Option.isSome_iff_exists.mp found
  · cases ok

def AgentKnows (db : AgentDb) (call : AgentCall) : Prop :=
  match call.stage with
  | .teamChecked teamId => ∃ team, db.team? call.orgId teamId = some team
  | .parentChecked teamId => ∃ input, call.request = .createAgent input ∧ Refers db call.orgId teamId input.parent_agent_id
  | .moved existing => ∃ agentId input, call.request = .updateAgent agentId input ∧
      ∃ team, db.team? call.orgId (input.teamId existing) = some team
  | .parented existing | .walked existing => ∃ agentId input, call.request = .updateAgent agentId input ∧
      Refers db call.orgId (input.teamId existing) (input.parentAgentId existing)
  | .archived team => team.archived_at ≠ none ∧ ∃ base, db.teams.find? team.id = some base ∧ base.org_id = team.org_id
  | .created row => row.status = .active ∧ Refers db row.org_id row.team_id row.parent_agent_id
  | .updated row => Refers db row.org_id row.team_id row.parent_agent_id ∧
      ∃ base, db.agents.find? row.id = some base ∧ base.org_id = row.org_id ∧ base.status = row.status
  | .statusSet row => ∃ base, db.agents.find? row.id = some base ∧ row = { base with status := row.status }
  | _ => True

theorem AgentStage.after_knows {check : Except Failure Unit} (passes : check = .ok () → AgentKnows db { call with stage }) :
    AgentKnows db { call with stage := stage.after check } := by
  cases checked : check with
  | error failure => trivial
  | ok => exact passes checked

theorem archiveTeam_knows (moved : archiveTeam db call teamId chance = some stage) : AgentKnows db { call with stage } := by
  unfold archiveTeam at moved
  split at moved
  · split at moved
    · obtain rfl := Option.some.inj moved
      trivial
    · split at moved <;> obtain rfl := Option.some.inj moved <;> trivial
  · split at moved <;> obtain rfl := Option.some.inj moved <;> trivial
  · split at moved <;> obtain rfl := Option.some.inj moved
    · trivial
    · rename_i row found
      obtain ⟨located, -⟩ := team?_eq_some.mp found
      rw [← Table.key_of_find? located] at located
      exact ⟨by simp, row, located, rfl⟩
  · cases moved

theorem createAgent_knows {input : CreateAgentInput} (asked : call.request = .createAgent input)
    (knows : AgentKnows db call) (moved : createAgent db call input chance = some stage) :
    AgentKnows db { call with stage } := by
  unfold createAgent at moved
  unfold AgentKnows at knows
  split at moved
  · split at moved
    · obtain rfl := Option.some.inj moved
      trivial
    · split at moved <;> obtain rfl := Option.some.inj moved <;> trivial
  · obtain rfl := Option.some.inj moved
    refine AgentStage.after_knows fun passes => ?_
    obtain ⟨team, found, -⟩ := ensureTeamInOrg_ok.mp passes
    exact ⟨team, found⟩
  · rename_i stands
    rw [stands] at knows
    obtain rfl := Option.some.inj moved
    exact AgentStage.after_knows fun passes => ⟨input, asked, knows, fun p => ensureParentInOrg_ok passes⟩
  · rename_i stands
    rw [stands] at knows
    obtain ⟨input', same, refers⟩ := knows
    obtain rfl := AgentRequest.createAgent.inj (asked.symm.trans same)
    split at moved <;> obtain rfl := Option.some.inj moved
    · trivial
    · exact ⟨rfl, refers⟩
  · cases moved

theorem updateAgent_knows {input : UpdateAgentInput} (asked : call.request = .updateAgent agentId input)
    (knows : AgentKnows db call) (moved : updateAgent db call agentId input chance = some stage) :
    AgentKnows db { call with stage } := by
  have mine {agentId' : AgentId} {input' : UpdateAgentInput} (same : call.request = .updateAgent agentId' input') :
      input' = input := (AgentRequest.updateAgent.inj (same.symm.trans asked)).2
  unfold updateAgent at moved
  unfold AgentKnows at knows
  split at moved
  · split at moved <;> obtain rfl := Option.some.inj moved <;> trivial
  · obtain rfl := Option.some.inj moved
    refine AgentStage.after_knows fun passes => ⟨agentId, input, asked, ?_⟩
    obtain ⟨team, found, -⟩ := ensureTeamInOrg_ok.mp passes
    exact ⟨team, found⟩
  · rename_i stands
    rw [stands] at knows
    obtain ⟨_, _, same, inTeam⟩ := knows
    obtain rfl := mine same
    obtain rfl := Option.some.inj moved
    exact AgentStage.after_knows fun passes => ⟨agentId, _, asked, inTeam, fun p => ensureParentInOrg_ok passes⟩
  · rename_i stands
    rw [stands] at knows
    obtain ⟨cycle, -, rfl⟩ := Option.map_eq_some_iff.mp moved
    cases cycle
    · exact knows
    · trivial
  · rename_i stands
    rw [stands] at knows
    obtain ⟨_, _, same, refers⟩ := knows
    obtain rfl := mine same
    split at moved <;> obtain rfl := Option.some.inj moved
    · trivial
    · rename_i row found
      obtain ⟨located, inOrg⟩ := agent?_eq_some.mp found
      rw [← Table.key_of_find? located] at located
      refine ⟨?_, row, located, rfl, rfl⟩
      rw [← inOrg] at refers
      exact refers
  · cases moved

theorem setAgentStatus_knows {status : AgentStatus} (moved : setAgentStatus db call agentId status = some stage) :
    AgentKnows db { call with stage } := by
  unfold setAgentStatus at moved
  split at moved
  · split at moved <;> obtain rfl := Option.some.inj moved <;> trivial
  · split at moved <;> obtain rfl := Option.some.inj moved
    · trivial
    · rename_i row found
      obtain ⟨located, -⟩ := agent?_eq_some.mp found
      rw [← Table.key_of_find? located] at located
      exact ⟨row, located, rfl⟩
  · cases moved

theorem agentStatement_knows (knows : AgentKnows db call) (moved : agentStatement db call chance = some stage) :
    AgentKnows db { call with stage } := by
  unfold agentStatement at moved
  split at moved
  · exact archiveTeam_knows moved
  · rename_i asked
    exact createAgent_knows asked knows moved
  · rename_i asked
    exact updateAgent_knows asked knows moved
  · exact setAgentStatus_knows moved

inductive AgentCommitted (db : AgentDb) (call : AgentCall) : AgentDb → Prop where
  | archived {team : TeamRow} (stands : call.stage = .archived team) :
      AgentCommitted db call { db with teams := db.teams.put team }
  | created {row : AgentRow} {agents : Table AgentRow.id} (stands : call.stage = .created row)
      (inserted : db.agents.insert? row = some agents) : AgentCommitted db call { db with agents }
  | updated {row : AgentRow} (stands : call.stage = .updated row) :
      AgentCommitted db call { db with agents := db.agents.put row }
  | statusSet {row : AgentRow} (stands : call.stage = .statusSet row) :
      AgentCommitted db call { db with agents := db.agents.put row }

theorem agentCommit_cases {call' : AgentCall} (committed : agentTransactions.commit db call = some (db', call')) :
    AgentCommitted db call db' ∧ ∃ answer, call' = { call with stage := .finished answer } := by
  obtain ⟨⟨_, stage⟩, written, same⟩ := Option.map_eq_some_iff.mp committed
  obtain ⟨rfl, rfl⟩ := Prod.mk.inj same
  unfold agentCommit at written
  split at written
  · rename_i stands
    obtain ⟨rfl, rfl⟩ := Prod.mk.inj (Option.some.inj written)
    exact ⟨.archived stands, _, rfl⟩
  · rename_i stands
    obtain ⟨agents, inserted, same⟩ := Option.map_eq_some_iff.mp written
    obtain ⟨rfl, rfl⟩ := Prod.mk.inj same
    exact ⟨.created stands inserted, _, rfl⟩
  · rename_i stands
    obtain ⟨rfl, rfl⟩ := Prod.mk.inj (Option.some.inj written)
    exact ⟨.updated stands, _, rfl⟩
  · rename_i stands
    obtain ⟨rfl, rfl⟩ := Prod.mk.inj (Option.some.inj written)
    exact ⟨.statusSet stands, _, rfl⟩
  · cases written

theorem extends_put {base : AgentRow} (found : db.agents.find? row.id = some base) (inOrg : base.org_id = row.org_id) :
    Extends db { db with agents := db.agents.put row } := by
  refine ⟨fun found => ⟨_, found⟩, fun {orgId agentId before} located => ?_⟩
  obtain ⟨located, mine⟩ := agent?_eq_some.mp located
  rw [AgentDb.agent?, Table.find?_put located]
  by_cases same : row.id = agentId
  · obtain rfl := Option.some.inj ((same ▸ found).symm.trans located)
    exact ⟨row, by simp [same, ← inOrg, mine]⟩
  · exact ⟨before, by simp [same, mine]⟩

theorem AgentCommitted.grows (committed : AgentCommitted db call db') (knows : AgentKnows db call) : Extends db db' := by
  unfold AgentKnows at knows
  cases committed with
  | @archived team stands =>
    simp only [stands] at knows
    obtain ⟨-, base, found, inOrg⟩ := knows
    refine ⟨fun {orgId teamId before} located => ?_, fun found => ⟨_, found⟩⟩
    obtain ⟨located, mine⟩ := team?_eq_some.mp located
    rw [AgentDb.team?, Table.find?_put located]
    by_cases same : team.id = teamId
    · obtain rfl := Option.some.inj ((same ▸ found).symm.trans located)
      exact ⟨team, by simp [same, ← inOrg, mine]⟩
    · exact ⟨before, by simp [same, mine]⟩
  | @created row agents stands inserted =>
    refine ⟨fun found => ⟨_, found⟩, fun {orgId agentId before} located => ⟨before, ?_⟩⟩
    obtain ⟨located, mine⟩ := agent?_eq_some.mp located
    exact agent?_eq_some.mpr ⟨Table.find?_insert?_of_find? inserted located, mine⟩
  | @updated row stands =>
    simp only [stands] at knows
    obtain ⟨-, base, found, inOrg, -⟩ := knows
    exact extends_put found inOrg
  | @statusSet row stands =>
    simp only [stands] at knows
    obtain ⟨base, found, same⟩ := knows
    exact extends_put found (by rw [same])

theorem AgentCommitted.find?_ne (committed : AgentCommitted db call db') {id : AgentId}
    (unlocked : AgentLock.agent id ∉ call.stage.locks) : db'.agents.find? id = db.agents.find? id := by
  cases committed with
  | archived => rfl
  | @created row agents stands inserted =>
    refine Table.find?_insert?_ne inserted fun same => unlocked ?_
    simp [stands, AgentStage.locks, same]
  | @updated row stands | @statusSet row stands =>
    refine Table.find?_put_ne fun same => unlocked ?_
    simp [stands, AgentStage.locks, same]

theorem AgentCommitted.team_ne (committed : AgentCommitted db call db') {id : TeamId}
    (unlocked : AgentLock.team id ∉ call.stage.locks) : db'.teams.find? id = db.teams.find? id := by
  cases committed with
  | @archived team stands =>
    refine Table.find?_put_ne fun same => unlocked ?_
    simp [stands, AgentStage.locks, same]
  | created | updated | statusSet => rfl

theorem AgentKnows.others (knows : AgentKnows db other) (committed : AgentCommitted db call db') (grows : Extends db db')
    (apart : agentTransactions.Apart call other) : AgentKnows db' other := by
  have same {id : AgentId} (held : AgentLock.agent id ∈ other.stage.locks) : db'.agents.find? id = db.agents.find? id :=
    committed.find?_ne fun both => apart _ both held
  unfold AgentKnows at knows ⊢
  cases stands : other.stage with
  | teamChecked =>
    simp only [stands] at knows ⊢
    obtain ⟨_, found⟩ := knows
    exact grows.teams found
  | parentChecked =>
    simp only [stands] at knows ⊢
    obtain ⟨input, asked, refers⟩ := knows
    exact ⟨input, asked, refers.extend grows⟩
  | moved =>
    simp only [stands] at knows ⊢
    obtain ⟨agentId, input, asked, _, found⟩ := knows
    exact ⟨agentId, input, asked, grows.teams found⟩
  | parented | walked =>
    simp only [stands] at knows ⊢
    obtain ⟨agentId, input, asked, refers⟩ := knows
    exact ⟨agentId, input, asked, refers.extend grows⟩
  | archived team =>
    simp only [stands] at knows ⊢
    have held : AgentLock.team team.id ∈ other.stage.locks := by simp [stands, AgentStage.locks]
    rw [committed.team_ne fun both => apart _ both held]
    exact knows
  | created row =>
    simp only [stands] at knows ⊢
    exact ⟨knows.1, knows.2.extend grows⟩
  | updated row =>
    simp only [stands] at knows ⊢
    rw [same (by simp [stands, AgentStage.locks])]
    exact ⟨knows.1.extend grows, knows.2⟩
  | statusSet row =>
    simp only [stands] at knows ⊢
    rw [same (by simp [stands, AgentStage.locks])]
    exact knows
  | _ => trivial

theorem AgentCommitted.refers (committed : AgentCommitted db call db') (knows : AgentKnows db call) (refs : References db) :
    ∀ row ∈ db'.agents, Refers db row.org_id row.team_id row.parent_agent_id := by
  unfold AgentKnows at knows
  intro other member
  cases committed with
  | archived => exact refs other member
  | @created row agents stands inserted =>
    simp only [stands] at knows
    rcases (Table.mem_insert? inserted).mp member with rfl | member
    · exact knows.2
    · exact refs other member
  | @updated row stands =>
    simp only [stands] at knows
    rcases Table.mem_put.mp member with ⟨member, -⟩ | ⟨rfl, -⟩
    · exact refs other member
    · exact knows.1
  | @statusSet row stands =>
    simp only [stands] at knows
    obtain ⟨base, found, same⟩ := knows
    rcases Table.mem_put.mp member with ⟨member, -⟩ | ⟨rfl, -⟩
    · exact refs other member
    · rw [same]
      exact refs base (Table.mem_of_find? found)

theorem agent_keeps : agentTransactions.Keeps (fun _ _ => True) References AgentKnows where
  opened {db call} _ opens := by
    obtain ⟨operator, orgId, request, stage⟩ := call
    cases stage <;> trivial
  statement _ knows moved := by
    obtain ⟨stage, taken, rfl⟩ := Option.map_eq_some_iff.mp moved
    exact agentStatement_knows knows taken
  committed refs knows _ committed := by
    obtain ⟨written, answer, rfl⟩ := agentCommit_cases committed
    exact ⟨fun row member => (written.refers knows refs row member).extend (written.grows knows), trivial⟩
  others _ mine knows _ apart committed := by
    obtain ⟨written, -⟩ := agentCommit_cases committed
    exact knows.others written (written.grows mine) apart

end AgentOps.Identity
