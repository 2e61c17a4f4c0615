import AgentOps.Identity.Errors
import AgentOps.Identity.Ids
import AgentOps.Lib.Json
import AgentOps.Lib.ReadCommitted
import AgentOps.Lib.Text

namespace AgentOps.Identity
open Lib

/-! # Agents and teams -/

abbrev TeamId := Nat

inductive AgentStatus where
  | active
  | paused
  | deactivated
  | retired
  | suspended
  deriving DecidableEq

structure OrgRow where
  id : OrgId
  default_team_id : Option TeamId

structure TeamRow where
  id : TeamId
  org_id : OrgId
  name : String
  description : String
  is_default : Bool
  archived_at : Option Time

structure AgentRow where
  id : AgentId
  org_id : OrgId
  team_id : TeamId
  parent_agent_id : Option AgentId
  name : String
  status : AgentStatus
  description : String
  labels : List String
  default_environment : Option String
  metadata : JsonObject
  created_by_member_id : ActorId

structure AgentDb where
  orgs : Table OrgRow.id
  teams : Table TeamRow.id
  agents : Table AgentRow.id

def AgentDb.team? (db : AgentDb) (orgId : OrgId) (teamId : TeamId) : Option TeamRow :=
  (db.teams.find? teamId).filter fun row => row.org_id = orgId

def AgentDb.agent? (db : AgentDb) (orgId : OrgId) (agentId : AgentId) : Option AgentRow :=
  (db.agents.find? agentId).filter fun row => row.org_id = orgId

def agentNotFound : Failure := notFound "Agent was not found."

def teamNotFound : Failure := notFound "Team was not found."

def getDefaultTeamId (db : AgentDb) (orgId : OrgId) : Except Failure TeamId :=
  match (db.orgs.find? orgId).bind OrgRow.default_team_id with
  | none => .error (notFound "Org was not found.")
  | some teamId => .ok teamId

def ensureTeamInOrg (db : AgentDb) (orgId : OrgId) (teamId : TeamId) : Except Failure Unit :=
  match db.team? orgId teamId with
  | some row => if row.archived_at = none then .ok () else .error teamNotFound
  | none => .error teamNotFound

def ensureParentInOrg (db : AgentDb) (orgId : OrgId) : Option AgentId → Except Failure Unit
  | none => .ok ()
  | some parentAgentId => if (db.agent? orgId parentAgentId).isSome then .ok () else .error agentNotFound

/-- The recursive query walks up until it meets the agent, or the references end. The fuel bounds how far it is run. -/
def wouldCreateParentCycle (db : AgentDb) (orgId : OrgId) (agentId : AgentId) : Nat → Option AgentId → Option Bool
  | _, none => some false
  | 0, some _ => none
  | fuel + 1, some parentAgentId =>
    match db.agent? orgId parentAgentId with
    | none => some false
    | some row => if row.id = agentId then some true else wouldCreateParentCycle db orgId agentId fuel row.parent_agent_id

/-- `SELECT 1 FROM agents WHERE org_id = $1 AND team_id = $2 AND status = 'active' LIMIT 1` -/
def AgentDb.hasActiveAgents (db : AgentDb) (orgId : OrgId) (teamId : TeamId) : Bool :=
  db.agents.rows.any fun row => row.org_id = orgId && row.team_id = teamId && row.status = .active

def cleanLabels (labels : Option (List String)) : List String :=
  -- The set keeps the first of equal labels.
  ((((labels.getD []).map trim).filter fun label => label ≠ "").take 24).reverse.dedup.reverse

structure CreateAgentInput where
  name : String
  team_id : Option TeamId
  parent_agent_id : Option AgentId
  description : Option String
  labels : Option (List String)
  default_environment : Option String
  metadata : Option JsonObject

/-- `some none` is a field that is given as `null`. -/
structure UpdateAgentInput where
  name : Option String
  team_id : Option TeamId
  parent_agent_id : Option (Option AgentId)
  description : Option String
  labels : Option (List String)
  default_environment : Option (Option String)
  metadata : Option JsonObject

inductive AgentRequest where
  | archiveTeam (teamId : TeamId)
  | createAgent (input : CreateAgentInput)
  | updateAgent (agentId : AgentId) (input : UpdateAgentInput)
  | setAgentStatus (agentId : AgentId) (status : AgentStatus)

inductive AgentAnswer where
  | team (row : TeamRow)
  | agent (row : AgentRow)

inductive AgentStage where
  | started
  | teamRead (team : TeamRow)
  | teamIdle (team : TeamRow)
  | archived (row : TeamRow)
  | teamChosen (teamId : TeamId)
  | teamChecked (teamId : TeamId)
  | parentChecked (teamId : TeamId)
  | created (row : AgentRow)
  | agentRead (existing : AgentRow)
  | moved (existing : AgentRow)
  | parented (existing : AgentRow)
  | walked (existing : AgentRow)
  | updated (row : AgentRow)
  | statusSet (row : AgentRow)
  | finished (answer : Except Failure AgentAnswer)

structure AgentCall where
  operator : ActorId
  orgId : OrgId
  request : AgentRequest
  stage : AgentStage

structure AgentChance where
  id : Nat
  now : Time
  fuel : Nat

inductive AgentLock where
  | team (id : TeamId)
  | agent (id : AgentId)
  deriving DecidableEq

def AgentStage.after (stage : AgentStage) : Except Failure Unit → AgentStage
  | .ok () => stage
  | .error failure => .finished (.error failure)

def archiveTeam (db : AgentDb) (call : AgentCall) (teamId : TeamId) (chance : AgentChance) : Option AgentStage :=
  match call.stage with
  | .started =>
    match db.team? call.orgId teamId with
    | none => some (.finished (.error teamNotFound))
    | some existing =>
      if existing.is_default then some (.finished (.error (conflict "default_team" "Default team cannot be archived.")))
      else some (.teamRead existing)
  | .teamRead existing =>
    if db.hasActiveAgents call.orgId teamId then
      some (.finished (.error (conflict "team_has_active_agents" "Team has active agents.")))
    else some (.teamIdle existing)
  | .teamIdle _ =>
    match db.team? call.orgId teamId with
    | none => some (.finished (.error teamNotFound))
    | some row => some (.archived { row with archived_at := row.archived_at.or (some chance.now) })
  | _ => none

def createAgent (db : AgentDb) (call : AgentCall) (input : CreateAgentInput) (chance : AgentChance) : Option AgentStage :=
  match call.stage with
  | .started =>
    match input.team_id with
    | some teamId => some (.teamChosen teamId)
    | none =>
      match getDefaultTeamId db call.orgId with
      | .error failure => some (.finished (.error failure))
      | .ok teamId => some (.teamChosen teamId)
  | .teamChosen teamId => some ((AgentStage.teamChecked teamId).after (ensureTeamInOrg db call.orgId teamId))
  | .teamChecked teamId =>
    some ((AgentStage.parentChecked teamId).after (ensureParentInOrg db call.orgId input.parent_agent_id))
  | .parentChecked teamId =>
    if (db.agents.find? chance.id).isSome then some (.finished (.error (.constraint "agents_pkey")))
    else some (.created {
      id := chance.id
      org_id := call.orgId
      team_id := teamId
      parent_agent_id := input.parent_agent_id
      name := input.name
      status := .active
      description := input.description.getD ""
      labels := cleanLabels input.labels
      default_environment := input.default_environment
      metadata := input.metadata.getD []
      created_by_member_id := call.operator })
  | _ => none

def UpdateAgentInput.teamId (input : UpdateAgentInput) (existing : AgentRow) : TeamId := input.team_id.getD existing.team_id

def UpdateAgentInput.parentAgentId (input : UpdateAgentInput) (existing : AgentRow) : Option AgentId :=
  input.parent_agent_id.getD existing.parent_agent_id

/-- What the update writes over a row: fields that the input leaves out are written back as they were read. -/
def UpdateAgentInput.write (input : UpdateAgentInput) (existing row : AgentRow) : AgentRow :=
  { row with
    team_id := input.teamId existing
    parent_agent_id := input.parentAgentId existing
    name := input.name.getD existing.name
    description := input.description.getD existing.description
    labels := if input.labels = none then existing.labels else cleanLabels input.labels
    default_environment := input.default_environment.getD existing.default_environment
    metadata := input.metadata.getD existing.metadata }

def updateAgent (db : AgentDb) (call : AgentCall) (agentId : AgentId) (input : UpdateAgentInput) (chance : AgentChance) :
    Option AgentStage :=
  match call.stage with
  | .started =>
    match db.agent? call.orgId agentId with
    | none => some (.finished (.error agentNotFound))
    | some existing => some (.agentRead existing)
  | .agentRead existing => some ((AgentStage.moved existing).after (ensureTeamInOrg db call.orgId (input.teamId existing)))
  | .moved existing =>
    some ((AgentStage.parented existing).after (ensureParentInOrg db call.orgId (input.parentAgentId existing)))
  | .parented existing =>
    -- A query that does not end leaves the call where it is.
    (wouldCreateParentCycle db call.orgId agentId chance.fuel (input.parentAgentId existing)).map fun cycle =>
      if cycle then .finished (.error (conflict "parent_cycle" "Parent assignment would create a cycle.")) else .walked existing
  | .walked existing =>
    match db.agent? call.orgId agentId with
    | none => some (.finished (.error agentNotFound))
    | some row => some (.updated (input.write existing row))
  | _ => none

def setAgentStatus (db : AgentDb) (call : AgentCall) (agentId : AgentId) (status : AgentStatus) : Option AgentStage :=
  match call.stage with
  | .started =>
    match db.agent? call.orgId agentId with
    | none => some (.finished (.error agentNotFound))
    | some existing => some (.agentRead existing)
  | .agentRead _ =>
    match db.agent? call.orgId agentId with
    | none => some (.finished (.error agentNotFound))
    | some row => some (.statusSet { row with status })
  | _ => none

def agentStatement (db : AgentDb) (call : AgentCall) (chance : AgentChance) : Option AgentStage :=
  match call.request with
  | .archiveTeam teamId => archiveTeam db call teamId chance
  | .createAgent input => createAgent db call input chance
  | .updateAgent agentId input => updateAgent db call agentId input chance
  | .setAgentStatus agentId status => setAgentStatus db call agentId status

def agentCommit (db : AgentDb) : AgentStage → Option (AgentDb × AgentStage)
  | .archived row => some ({ db with teams := db.teams.put row }, .finished (.ok (.team row)))
  | .created row => (db.agents.insert? row).map fun agents => ({ db with agents }, .finished (.ok (.agent row)))
  | .updated row | .statusSet row => some ({ db with agents := db.agents.put row }, .finished (.ok (.agent row)))
  | _ => none

def AgentStage.locks : AgentStage → List AgentLock
  | .archived row => [.team row.id]
  | .created row | .updated row | .statusSet row => [.agent row.id]
  | _ => []

theorem agentCommit_free {db db' : AgentDb} {stage stage' : AgentStage} (committed : agentCommit db stage = some (db', stage')) :
    stage'.locks = [] := by
  cases stage <;> simp only [agentCommit, reduceCtorEq, Option.some.injEq, Prod.mk.injEq, Option.map_eq_some_iff] at committed
  case created =>
    obtain ⟨_, -, -, rfl⟩ := committed
    rfl
  all_goals
    obtain ⟨-, rfl⟩ := committed
    rfl

def agentTransactions : Transactions AgentDb AgentCall AgentChance AgentLock where
  opens call := match call.stage with | .started => true | _ => false
  statement db call chance := (agentStatement db call chance).map fun stage => { call with stage }
  commit db call := (agentCommit db call.stage).map fun (db, stage) => (db, { call with stage })
  locks call := call.stage.locks
  opens_free := by
    rintro ⟨operator, orgId, request, stage⟩ opens
    cases stage <;> first | rfl | cases opens
  commit_free := by
    rintro db call db' call' committed
    obtain ⟨⟨_, stage'⟩, written, same⟩ := Option.map_eq_some_iff.mp committed
    obtain ⟨rfl, rfl⟩ := Prod.mk.inj same
    exact agentCommit_free written

end AgentOps.Identity
