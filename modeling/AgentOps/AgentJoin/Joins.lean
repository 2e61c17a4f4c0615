import AgentOps.Identity.Agents
import AgentOps.Lib.CodeUnits
import AgentOps.Lib.Outcome
import AgentOps.Lib.Table

namespace AgentOps.AgentJoin
open Lib Identity

/-! # Agents that join, with an invite or openly -/

abbrev InviteId := Nat
abbrev JoinId := Nat

structure AgentJoinInvite where
  id : InviteId
  org_id : OrgId
  created_by_member_id : Option ActorId
  token_hash : Hash
  max_uses : Nat
  use_count : Nat
  expires_at : Option Time
  revoked_at : Option Time

inductive JoinMode where
  | invite
  | openJoin

inductive JoinActor where
  | member (id : ActorId)
  /-- `system_join_${orgId}` -/
  | systemJoin (orgId : OrgId)

structure OpenJoinConfig where
  enabled : Bool
  orgId : Option OrgId
  maxPerFingerprintPerHour : Nat
  maxPerOrgPerDay : Nat

structure JoinDeployment where
  hashToken : String → Hash
  defaultMcpUrl : String
  config : OpenJoinConfig

structure AgentJoinResult where
  agent_id : AgentId
  org_id : OrgId
  connection_id : ConnectionId
  mcp_url : String
  credential : String
  payment_access : String
  join_mode : JoinMode

structure OpenJoinEvent where
  id : Nat
  org_id : OrgId
  agent_id : AgentId
  client_fingerprint : String
  created_at : Time

structure Provision where
  orgId : OrgId
  operator : JoinActor
  name : String
  joinMode : JoinMode

def joinOperator (orgId : OrgId) (memberId : Option ActorId) : JoinActor :=
  match memberId with
  | some id => .member id
  | none => .systemJoin orgId

def Provision.agentInput (provision : Provision) : CreateAgentInput :=
  let (description, label, mode) := match provision.joinMode with
    | .openJoin => ("Open-join autonomous agent", "open-join", "open")
    | .invite => ("Invite-join autonomous agent", "invite-join", "invite")
  { name := provision.name
    team_id := none
    parent_agent_id := none
    description := some description
    labels := some [label]
    default_environment := none
    metadata := some [("setup_mode", .string "mcp"), ("joined_via", .string mode),
      ("payment_access_default", .string "disabled")] }

/-- `name-${Date.now().toString(36)}` -/
def stampedName (start : String) (now : Time) : String := start ++ String.ofList (Nat.toDigits 36 (now / 1000))

def joinName (agent_name : Option String) (start : String) (now : Time) : String :=
  match agent_name.map trim with
  | none | some "" => stampedName start now
  | some name => name

def Provision.result (provision : Provision) (defaultMcpUrl : String) (agent : AgentId) (connection : ConnectionId)
    (secret : String) : AgentJoinResult where
  agent_id := agent
  org_id := provision.orgId
  connection_id := connection
  mcp_url := defaultMcpUrl
  credential := secret
  payment_access := "disabled"
  join_mode := provision.joinMode

inductive RedemptionStage where
  | begun
  | selected (row : AgentJoinInvite)
  | taking (row : AgentJoinInvite)
  | provisioning (provision : Provision) (agent : Option AgentId)
  | handingBack (agent : Option AgentId) (error : Failure)
  | joined (result : AgentJoinResult)
  | failed (error : Failure)
  | kept (error : Failure)

structure Redemption where
  id : JoinId
  token : String
  agent_name : Option String
  begunOn : AgentJoinInvite
  begunAt : Time
  stage : RedemptionStage

structure Reading where
  events : List OpenJoinEvent
  time : Time

inductive RegistrationStage where
  | begun
  | orgFound (orgId : OrgId)
  | hourCounted (orgId : OrgId) (hour : Reading)
  | provisioning (hour day : Reading) (provision : Provision) (agent : Option AgentId)
  | recording (provision : Provision) (result : AgentJoinResult)
  | joined (result : AgentJoinResult)
  | failed (error : Failure)

structure Registration where
  id : JoinId
  agent_name : Option String
  fingerprint : String
  stage : RegistrationStage

inductive JoinCaller where
  | redemption (id : JoinId)
  | registration (id : JoinId)
  deriving DecidableEq

/-- An agent as `createAgent` has been asked for it -/
structure JoinedAgent where
  id : AgentId
  org_id : OrgId
  input : CreateAgentInput
  operator : JoinActor
  caller : JoinCaller
  fingerprint : Option String
  created_at : Time

structure JoinedConnection where
  id : ConnectionId
  agent_id : AgentId
  name : String
  secret : String

structure JoinWorld where
  now : Time
  invite : AgentJoinInvite
  lock : Option JoinId
  redemptions : Table Redemption.id
  registrations : Table Registration.id
  agents : List JoinedAgent
  connections : List JoinedConnection
  events : List OpenJoinEvent

inductive JoinLabel where
  | tick (passed : Time)
  | revokes (orgId : OrgId) (inviteId : InviteId)
  | redeems (id : JoinId) (token : String) (agent_name : Option String)
  | selects (id : JoinId)
  | checks (id : JoinId)
  | takes (id : JoinId) (outcome : Outcome Failure)
  | handsBack (id : JoinId) (outcome : Outcome Failure)
  | registers (id : JoinId) (agent_name client_fingerprint : Option String)
  | findsOrg (id : JoinId) (found : Bool)
  | countsHour (id : JoinId)
  | countsDay (id : JoinId)
  | records (id : JoinId) (event : Nat) (outcome : Outcome Failure)
  | creates (caller : JoinCaller) (agent : AgentId) (outcome : Outcome Failure)
  | connects (caller : JoinCaller) (connection : ConnectionId) (secret : String) (outcome : Outcome Failure)
  | interrupted (caller : JoinCaller) (error : Failure)

namespace JoinWorld

def redeemed (s : JoinWorld) (call : Redemption) (stage : RedemptionStage) : JoinWorld :=
  { s with redemptions := s.redemptions.put { call with stage } }

def registered (s : JoinWorld) (call : Registration) (stage : RegistrationStage) : JoinWorld :=
  { s with registrations := s.registrations.put { call with stage } }

def unlocked (s : JoinWorld) (id : JoinId) : JoinWorld := { s with lock := if s.lock = some id then none else s.lock }

def createAgent (s : JoinWorld) (agent : JoinedAgent) (outcome : Outcome Failure) : Option JoinWorld :=
  if !outcome.commits then some s
  else if agent.id ∈ s.agents.map JoinedAgent.id then none
  else some { s with agents := agent :: s.agents }

def createConnection (s : JoinWorld) (connection : JoinedConnection) (outcome : Outcome Failure) : JoinWorld :=
  if outcome.commits then { s with connections := connection :: s.connections } else s

end JoinWorld

def inviteInvalid : IdentityError := ⟨"join_invite_invalid", 401, "Join invite token is invalid."⟩

def AgentJoinInvite.expired (row : AgentJoinInvite) (now : Time) : Bool := row.expires_at.any fun expires_at => expires_at ≤ now

def checkInvite (row : AgentJoinInvite) (now : Time) : Except IdentityError Unit :=
  if row.revoked_at.isSome then .error ⟨"join_invite_revoked", 410, "Join invite was revoked."⟩
  else if row.expired now then .error ⟨"join_invite_expired", 410, "Join invite has expired."⟩
  else if row.max_uses ≤ row.use_count then .error ⟨"join_invite_exhausted", 410, "Join invite has no remaining uses."⟩
  else .ok ()

def revokeAgentJoinInvite (s : JoinWorld) (orgId : OrgId) (inviteId : InviteId) : JoinWorld :=
  if s.invite.id = inviteId ∧ s.invite.org_id = orgId ∧ s.invite.revoked_at.isNone then
    { s with invite.revoked_at := some s.now }
  else s

def hour : Time := 60 * 60 * 1000000

def day : Time := 24 * hour

def joinFingerprint (client_fingerprint : Option String) : String :=
  String.ofList (sliceUnits 128 (client_fingerprint.getD "anonymous").toList)

def firstStage (token : String) : RedemptionStage :=
  if textLength (trim token) < 16 then .failed inviteInvalid else .begun

theorem firstStage_cases (token : String) : firstStage token = .begun ∨ firstStage token = .failed inviteInvalid := by
  unfold firstStage
  split
  · exact .inr rfl
  · exact .inl rfl

/-- `created_at > now() - interval`, in the events that a query reads -/
def Reading.since (reading : Reading) (interval : Time) (counted : OpenJoinEvent → Bool) : Nat :=
  (reading.events.filter fun event => counted event && reading.time < event.created_at + interval).length

section

variable (d : JoinDeployment)

def redemptionStep (s : JoinWorld) (call : Redemption) : JoinLabel → Option JoinWorld
  | .selects _ =>
    match call.stage with
    | .begun =>
      if d.hashToken (trim call.token) ≠ s.invite.token_hash then some (s.redeemed call (.failed inviteInvalid))
      else if s.lock.isSome then none
      else some ({ s with lock := some call.id }.redeemed call (.selected s.invite))
    | _ => none
  | .checks _ =>
    match call.stage with
    | .selected row =>
      match checkInvite row s.now with
      | .error error => some ((s.unlocked call.id).redeemed call (.failed error))
      | .ok () => some (s.redeemed call (.taking row))
    | _ => none
  | .takes _ outcome =>
    match call.stage with
    | .taking row =>
      let taken := { s.unlocked call.id with invite.use_count := s.invite.use_count + 1 }
      match outcome with
      | .failed error => some ((s.unlocked call.id).redeemed call (.failed error))
      | .lost error => some (taken.redeemed call (.kept error))
      | .done =>
        let provision := ⟨row.org_id, joinOperator row.org_id row.created_by_member_id,
          joinName call.agent_name "joined-agent-" s.now, .invite⟩
        some (taken.redeemed call (.provisioning provision none))
    | _ => none
  | .creates _ agent outcome =>
    match call.stage with
    | .provisioning provision none =>
      (s.createAgent ⟨agent, provision.orgId, provision.agentInput, provision.operator, .redemption call.id, none, s.now⟩
        outcome).map fun s' =>
          match outcome with
          | .failed error => s'.redeemed call (.handingBack none error)
          | .lost error => s'.redeemed call (.handingBack (some agent) error)
          | .done => s'.redeemed call (.provisioning provision (some agent))
    | _ => none
  | .connects _ connection secret outcome =>
    match call.stage with
    | .provisioning provision (some agent) =>
      let s' := s.createConnection ⟨connection, agent, provision.name ++ " MCP", secret⟩ outcome
      match outcome.error? with
      | some error => some (s'.redeemed call (.handingBack (some agent) error))
      | none => some (s'.redeemed call (.joined (provision.result d.defaultMcpUrl agent connection secret)))
    | _ => none
  | .handsBack _ outcome =>
    match call.stage with
    | .handingBack _ error =>
      if s.lock.isSome then none
      else if outcome.commits then
        some ({ s with invite.use_count := s.invite.use_count - 1 }.redeemed call (.failed (outcome.error?.getD error)))
      else some (s.redeemed call (.kept (outcome.error?.getD error)))
    | _ => none
  | .interrupted _ error =>
    match call.stage with
    | .begun | .selected _ | .taking _ => some ((s.unlocked call.id).redeemed call (.failed error))
    | _ => none
  | _ => none

def registrationStep (s : JoinWorld) (call : Registration) : JoinLabel → Option JoinWorld
  | .findsOrg _ found =>
    match call.stage with
    | .begun =>
      match d.config.enabled, d.config.orgId with
      | true, some orgId =>
        some (s.registered call (if found then .orgFound orgId else
          .failed (.identity ⟨"open_join_org_missing", 500, "Open-join org is not configured correctly."⟩)))
      | _, _ =>
        some (s.registered call (.failed (.identity ⟨"open_join_disabled", 403,
          "Open agent join is disabled. Use an invite token or ask an operator for a credential."⟩)))
    | _ => none
  | .countsHour _ =>
    match call.stage with
    | .orgFound orgId =>
      let reading : Reading := ⟨s.events, s.now⟩
      if d.config.maxPerFingerprintPerHour ≤ reading.since hour fun event => event.client_fingerprint = call.fingerprint then
        some (s.registered call (.failed (.identity ⟨"open_join_rate_limited", 429,
          "Open join rate limit exceeded for this client."⟩)))
      else some (s.registered call (.hourCounted orgId reading))
    | _ => none
  | .countsDay _ =>
    match call.stage with
    | .hourCounted orgId hourReading =>
      let reading : Reading := ⟨s.events, s.now⟩
      if d.config.maxPerOrgPerDay ≤ reading.since day fun event => event.org_id = orgId then
        some (s.registered call (.failed (.identity ⟨"open_join_org_capped", 429, "Open join daily org cap reached."⟩)))
      else
        let provision := ⟨orgId, joinOperator orgId none, joinName call.agent_name "open-agent-" s.now, .openJoin⟩
        some (s.registered call (.provisioning hourReading reading provision none))
    | _ => none
  | .creates _ agent outcome =>
    match call.stage with
    | .provisioning hourReading dayReading provision none =>
      (s.createAgent ⟨agent, provision.orgId, provision.agentInput, provision.operator, .registration call.id,
        some call.fingerprint, s.now⟩ outcome).map fun s' =>
          match outcome.error? with
          | some error => s'.registered call (.failed error)
          | none => s'.registered call (.provisioning hourReading dayReading provision (some agent))
    | _ => none
  | .connects _ connection secret outcome =>
    match call.stage with
    | .provisioning _ _ provision (some agent) =>
      let s' := s.createConnection ⟨connection, agent, provision.name ++ " MCP", secret⟩ outcome
      match outcome.error? with
      | some error => some (s'.registered call (.failed error))
      | none => some (s'.registered call (.recording provision (provision.result d.defaultMcpUrl agent connection secret)))
    | _ => none
  | .records _ event outcome =>
    match call.stage with
    | .recording provision result =>
      let s' := if outcome.commits then
        { s with events := ⟨event, provision.orgId, result.agent_id, call.fingerprint, s.now⟩ :: s.events } else s
      match outcome.error? with
      | some error => some (s'.registered call (.failed error))
      | none => some (s'.registered call (.joined result))
    | _ => none
  | .interrupted _ error =>
    match call.stage with
    | .begun | .orgFound _ | .hourCounted _ _ => some (s.registered call (.failed error))
    | _ => none
  | _ => none

def callerStep (s : JoinWorld) (label : JoinLabel) : JoinCaller → Option JoinWorld
  | .redemption id => (s.redemptions.find? id).bind fun call => redemptionStep d s call label
  | .registration id => (s.registrations.find? id).bind fun call => registrationStep d s call label

def joinStep (s : JoinWorld) : JoinLabel → Option JoinWorld
  | .tick passed => some { s with now := s.now + passed }
  | .revokes orgId inviteId => if s.lock.isSome then none else some (revokeAgentJoinInvite s orgId inviteId)
  | .redeems id token agent_name =>
    (s.redemptions.insert? ⟨id, token, agent_name, s.invite, s.now, firstStage token⟩).map fun redemptions => { s with redemptions }
  | .registers id agent_name client_fingerprint =>
    (s.registrations.insert? ⟨id, agent_name, joinFingerprint client_fingerprint, .begun⟩).map fun registrations => { s with registrations }
  | .selects id => callerStep d s (.selects id) (.redemption id)
  | .checks id => callerStep d s (.checks id) (.redemption id)
  | .takes id outcome => callerStep d s (.takes id outcome) (.redemption id)
  | .handsBack id outcome => callerStep d s (.handsBack id outcome) (.redemption id)
  | .findsOrg id found => callerStep d s (.findsOrg id found) (.registration id)
  | .countsHour id => callerStep d s (.countsHour id) (.registration id)
  | .countsDay id => callerStep d s (.countsDay id) (.registration id)
  | .records id event outcome => callerStep d s (.records id event outcome) (.registration id)
  | .creates caller agent outcome => callerStep d s (.creates caller agent outcome) caller
  | .connects caller connection secret outcome => callerStep d s (.connects caller connection secret outcome) caller
  | .interrupted caller error => callerStep d s (.interrupted caller error) caller

end

/-- After `createAgentJoinInvite`, with its row -/
def JoinWorld.initial (now : Time) (row : AgentJoinInvite) : JoinWorld where
  now
  invite := { row with use_count := 0, revoked_at := none }
  lock := none
  redemptions := .empty
  registrations := .empty
  agents := []
  connections := []
  events := []

end AgentOps.AgentJoin
