import AgentOps.FleetRun.StepPayments
import AgentOps.Payments.Runtime

namespace AgentOps.EmergencyStop
open Lib Identity Payments FleetRun

/-! # The emergency stop, and the rails on which an agent's money moves -/

inductive Stop where
  | frozen
  | agent
  | access
  deriving DecidableEq

def Stop.inForce (db : Db) (orgId : OrgId) (agentId : AgentId) : Stop → Bool
  | .frozen => (db.orgs.find? orgId).any fun row => row.frozen
  | .agent => (db.agents.find? agentId).any fun row => row.status = .paused ∨ row.status = .suspended
  | .access => (db.accounts.find? (orgId, agentId)).any fun row => row.status ≠ .active ∨ row.payment_access = false

def stopsOn (db : Db) (orgId : OrgId) (agentId : AgentId) : List Stop :=
  [.frozen, .agent, .access].filter fun stop => stop.inForce db orgId agentId

/-- The last join of `authenticateConnection`; a credential or a connection that is not active is one that a call never
presents. -/
def authenticateConnection (db : Db) (auth : ConnectionAuthResult) : Except Failure Unit :=
  if authenticated db auth && (db.agents.find? auth.agent_id).any fun row => row.status = .active then .ok ()
  else .error (IdentityError.mk "invalid_connection" 401 "Connection credential is invalid.")

/-- The second statement of `authenticateRuntimeConnection` -/
def ensureNotFrozen (db : Db) (auth : ConnectionAuthResult) : Except Failure Unit :=
  if (db.orgs.find? auth.org_id).any fun row => row.frozen then
    .error (IdentityError.mk "org_frozen" 403 "This workspace is frozen. No actions can proceed.")
  else .ok ()

def resolveClientAgentAuth (db : Db) (auth : ConnectionAuthResult) : Except Failure Unit :=
  match (db.agents.find? auth.agent_id).filter fun row => row.org_id = auth.org_id with
  | none => .error (IdentityError.mk "agent_not_found" 404 "Client agent was not found in this org.")
  | some row =>
    if row.status = .deactivated ∨ row.status = .retired then
      .error (conflict "agent_inactive" "Client agent is inactive.")
    else if !authenticated db auth then
      .error (badRequest "connection_required"
        "Client agent needs an active credential before marketplace x402 hire. Issue one on Credentials.")
    else .ok ()

inductive Entry where
  | runtime
  | marketplace (operator : ActorId)
  deriving DecidableEq

/-- The stops that an entry does not look for -/
def Entry.unchecked : Entry → List Stop
  | .runtime => [.access]
  | .marketplace _ => [.frozen, .agent, .access]

structure IntraFleetRequest where
  payeeAgentId : AgentId
  mode : PaymentMode
  chain : PaymentChain
  url : String
  deriving DecidableEq

inductive Rail where
  | x402 (idempotencyKey : String) (requestHash : Hash)
  | intraFleet (request : IntraFleetRequest)
  deriving DecidableEq

def Entry.approver (auth : ConnectionAuthResult) : Entry → Approver
  | .runtime => .connection auth.connection_id
  | .marketplace operator => .operator operator

def IntraFleetRequest.pays (request : IntraFleetRequest) (auth : ConnectionAuthResult) (entry : Entry) :
    PayIntraFleetInput where
  orgId := auth.org_id
  payerAgentId := auth.agent_id
  payeeAgentId := request.payeeAgentId
  mode := request.mode
  chain := request.chain
  url := request.url
  approvedBy := entry.approver auth
  connectionId := some auth.connection_id

inductive RailStage where
  | begun
  | authenticated
  | x402
  | paying (input : PayIntraFleetInput) (stage : PayStage)
  | refused (failure : Failure)
  | stopped

structure RailCall where
  id : CallId
  auth : ConnectionAuthResult
  entry : Entry
  rail : Rail
  stage : RailStage
  began : Db

/-- An `agent_wallet.topup` job -/
structure TopUpJob where
  orgId : OrgId
  agentId : AgentId
  mode : PaymentMode
  chain : PaymentChain
  amountUsdc : Nat
  deriving DecidableEq

inductive TopUpStage where
  | treasury
  | wallet (source : Address)
  | transfer (source destination : Address)
  | ended (outcome : Except Failure Unit)

structure TopUpCall where
  id : Nat
  job : TopUpJob
  stage : TopUpStage
  began : Db

structure Send where
  orgId : OrgId
  agentId : AgentId
  began : Db

structure StopWorld where
  payments : State
  fleet : FleetWorld
  rails : Table RailCall.id
  topUps : Table TopUpCall.id
  begunAt : Nat → Db
  sends : List Send

inductive StopLabel where
  | payments (label : Payments.Label)
  | fleet (label : FleetLabel)
  | begun (id : CallId) (auth : ConnectionAuthResult) (entry : Entry) (rail : Rail)
  | statement (id : CallId) (answer : PayAnswer)
  | stopped (id : CallId)
  | topUp (id : Nat) (job : TopUpJob)
  | topUpStatement (id : Nat) (executed : Except Failure Hash)

def paySends : PayStage → Bool
  | .drawing _ _ | .funding _ (.gasTransfer _ _) | .funding _ (.draw _ _) | .funding _ (.transfer _ _) => true
  | _ => false

def enter (hashes : Hashes) (s : StopWorld) (call : RailCall) : Option StopWorld :=
  match call.rail with
  | .x402 idempotencyKey requestHash =>
    (step hashes s.payments (.payRuntimeX402 call.id call.auth idempotencyKey requestHash)).map fun payments =>
      { s with payments, rails := s.rails.put { call with stage := .x402 } }
  | .intraFleet request =>
    some { s with rails := s.rails.put { call with stage := .paying (request.pays call.auth call.entry) .wallet } }

/-- A statement of a call on a rail, but for those of `payRuntimeX402` -/
def railStatement (hashes : Hashes) (s : StopWorld) (answer : PayAnswer) (call : RailCall) : Option StopWorld :=
  let goesOn stage := { s with rails := s.rails.put { call with stage } }
  match call.stage with
  | .begun =>
    match call.entry with
    | .runtime =>
      match authenticateConnection s.payments.db call.auth with
      | .error failure => some (goesOn (.refused failure))
      | .ok () => some (goesOn .authenticated)
    | .marketplace _ =>
      match resolveClientAgentAuth s.payments.db call.auth with
      | .error failure => some (goesOn (.refused failure))
      | .ok () => enter hashes s call
  | .authenticated =>
    match ensureNotFrozen s.payments.db call.auth with
    | .error failure => some (goesOn (.refused failure))
    | .ok () => enter hashes s call
  | .paying input stage =>
    (payStatement s.fleet.db.pay input answer stage).map fun (pay, stage') =>
      { s with
        fleet := { s.fleet with db := { s.fleet.db with pay } }
        rails := s.rails.put { call with stage := .paying input stage' }
        sends := if paySends stage then ⟨call.auth.org_id, input.payerAgentId, call.began⟩ :: s.sends else s.sends }
  | .x402 | .refused _ | .stopped => none

/-- A statement of `processAgentWalletTopUpJob` -/
def topUpStatement (s : StopWorld) (executed : Except Failure Hash) (call : TopUpCall) : Option StopWorld :=
  let network := (call.job.mode, call.job.chain)
  let goesOn stage := { s with topUps := s.topUps.put { call with stage } }
  match call.stage with
  | .treasury =>
    match treasuryAddress? s.fleet.db.pay.delegations call.job.orgId network with
    | none => some (goesOn (.ended (.error (.thrown "circle_wallet_missing"))))
    | some source => some (goesOn (.wallet source))
  | .wallet source =>
    match agentAddress? s.fleet.db.pay.delegations call.job.agentId network with
    | none => some (goesOn (.ended (.error (.thrown "agent_wallet_not_found"))))
    | some destination => some (goesOn (.transfer source destination))
  | .transfer _ _ =>
    some { goesOn (.ended (executed.map fun _ => ())) with
      sends := ⟨call.job.orgId, call.job.agentId, call.began⟩ :: s.sends }
  | .ended _ => none

def paymentSends (s : StopWorld) : Payments.Label → List Send
  | .call id .callProvider =>
    (s.rails.find? id).toList.map fun call => ⟨call.auth.org_id, call.auth.agent_id, call.began⟩
  | .fundEscrowJob id _ _ =>
    (s.payments.db.escrowJobs.find? id).toList.map fun job => ⟨job.org_id, job.client_agent_id, s.payments.db⟩
  | _ => []

def fleetSends (s : StopWorld) : FleetLabel → List Send
  | .statement id _ =>
    match s.fleet.calls.find? id with
    | some ⟨_, callInput, .paying _ _ input stage _, _⟩ =>
      if paySends stage then [⟨callInput.orgId, input.payerAgentId, s.begunAt id⟩] else []
    | _ => []
  | _ => []

def readsAt (s : StopWorld) : FleetLabel → Nat → Db
  | .statement id _ =>
    match s.fleet.calls.find? id with
    | some ⟨_, _, .read, _⟩ => Function.update s.begunAt id s.payments.db
    | _ => s.begunAt
  | _ => s.begunAt

def stopStep (hashes : Hashes) (s : StopWorld) : StopLabel → Option StopWorld
  | .payments (.payRuntimeX402 _ _ _ _) => none
  | .payments label =>
    (step hashes s.payments label).map fun payments => { s with payments, sends := paymentSends s label ++ s.sends }
  | .fleet label =>
    (fleetStep s.fleet label).map fun fleet =>
      { s with fleet, begunAt := readsAt s label, sends := fleetSends s label ++ s.sends }
  | .begun id auth entry rail =>
    (s.rails.insert? ⟨id, auth, entry, rail, .begun, s.payments.db⟩).map fun rails => { s with rails }
  | .statement id answer => (s.rails.find? id).bind (railStatement hashes s answer)
  | .stopped id =>
    (s.rails.find? id).bind fun call =>
      match call.stage with
      | .x402 => none
      | _ => some { s with rails := s.rails.put { call with stage := .stopped } }
  | .topUp id job => (s.topUps.insert? ⟨id, job, .treasury, s.payments.db⟩).map fun topUps => { s with topUps }
  | .topUpStatement id executed => (s.topUps.find? id).bind (topUpStatement s executed)

/-- No call that began under a stop sends USDC on behalf of whom it covers. -/
def StopCovers (s : StopWorld) : Prop := ∀ send ∈ s.sends, stopsOn send.began send.orgId send.agentId = []

instance (s : StopWorld) : Decidable (StopCovers s) :=
  inferInstanceAs (Decidable (∀ send ∈ s.sends, stopsOn send.began send.orgId send.agentId = []))

def RailCall.live (s : StopWorld) (call : RailCall) : Bool :=
  match call.stage with
  | .begun | .authenticated => true
  | .x402 => (s.payments.calls.find? call.id).any fun payment => !payment.phase.ended
  | .paying _ _ | .refused _ | .stopped => false

def RailCall.stops (call : RailCall) : List Stop := stopsOn call.began call.auth.org_id call.auth.agent_id

def StopsLast (s : StopWorld) (db : Db) : Prop :=
  ∀ call ∈ s.rails.rows, call.live s = true → call.stops ⊆ stopsOn db call.auth.org_id call.auth.agent_id

instance (s : StopWorld) (db : Db) : Decidable (StopsLast s db) :=
  inferInstanceAs (Decidable (∀ call ∈ s.rails.rows, call.live s = true →
    ∀ ⦃stop⦄, stop ∈ call.stops → stop ∈ stopsOn db call.auth.org_id call.auth.agent_id))

def FleetAgents.payers (agents : FleetAgents) : List AgentId :=
  (agents.orchestrator.toList ++ agents.analyst.toList).map FleetResolvedAgent.agentId

def unchecked (s : StopWorld) : StopLabel → List Stop
  | .begun _ auth entry (.intraFleet _) => (stopsOn s.payments.db auth.org_id auth.agent_id).filter (· ∈ entry.unchecked)
  | .payments (.call id (.readApproval _ _)) =>
    match s.rails.find? id, (s.payments.calls.find? id).map Call.phase with
    | some call, some (.resumingApproval _ none _ _) => call.stops.filter (· ∈ call.entry.unchecked)
    | _, _ => []
  | .payments (.fundEscrowJob id _ _) =>
    (s.payments.db.escrowJobs.find? id).toList.flatMap fun job =>
      stopsOn s.payments.db job.org_id job.client_agent_id
  | .fleet (.statement id _) =>
    match s.fleet.calls.find? id with
    | some ⟨_, input, .read, _⟩ =>
      (getFleetRun s.fleet.db input.orgId input.runId).toOption.toList.flatMap fun run =>
        if run.status.opens then (FleetAgents.payers run.agents).flatMap fun payer => stopsOn s.payments.db input.orgId payer else []
    | _ => []
  | .topUp _ job => stopsOn s.payments.db job.orgId job.agentId
  | _ => []

/-- No call begins under a stop that its rail does not look for, or resumes a payment under one, and no stop is lifted while a
call that has begun under it may still come to a check. -/
def StopOk (hashes : Hashes) (s : StopWorld) (label : StopLabel) : Prop :=
  unchecked s label = [] ∧ ∀ s', stopStep hashes s label = some s' → StopsLast s s'.payments.db

end AgentOps.EmergencyStop
