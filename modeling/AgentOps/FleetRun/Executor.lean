import AgentOps.Payments.IntraFleet
import Mathlib.Data.List.MinMax

namespace AgentOps.FleetRun
open Lib Identity Payments

/-! # Runs of a fleet -/

abbrev FleetRunId := Nat

inductive FleetRunStatus where
  | planned
  | running
  | completed
  | failed
  | cancelled
  deriving DecidableEq

inductive FleetItem where
  | onboard
  | wire
  | payDataFetcher
  | payAnalyst
  | secondHop
  | payWriter
  | payReviewer
  | activity
  deriving DecidableEq

inductive ItemStatus where
  | pending
  | running
  | done
  | failed
  | skipped
  deriving DecidableEq

structure FleetChecklistItem where
  id : FleetItem
  status : ItemStatus
  deriving DecidableEq

abbrev Checklist := List FleetChecklistItem

structure FleetResolvedAgent where
  agentId : AgentId
  name : String
  endpointUrl : String
  deriving DecidableEq

structure FleetAgents where
  orchestrator : Option FleetResolvedAgent
  data_fetcher : Option FleetResolvedAgent
  analyst : Option FleetResolvedAgent
  writer : Option FleetResolvedAgent
  senior_reviewer : Option FleetResolvedAgent
  deriving DecidableEq

structure Receipt where
  step : FleetItem
  payer : String
  payee : String
  chain : PaymentChain
  amountUsdc : Nat
  txHash : Hash
  deriving DecidableEq

/-- A row of `fleet_runs`; of its fruit, the receipts -/
structure FleetRunRow where
  id : FleetRunId
  org_id : OrgId
  status : FleetRunStatus
  checklist : Checklist
  agents : FleetAgents
  fruit : Option (List Receipt)
  error : Option String
  deriving DecidableEq

inductive FleetEventKind where
  | assistant
  | plan
  | tool
  | wire
  | stepStart
  | service
  | payment
  | fruit
  | completed
  | failed
  deriving DecidableEq

/-- A row of `fleet_run_events`; of its payload, the receipts -/
structure FleetRunEventRow where
  id : Nat
  run_id : FleetRunId
  org_id : OrgId
  seq : Nat
  kind : FleetEventKind
  tool : Option String
  receipts : List Receipt
  deriving DecidableEq

structure FleetDb where
  pay : PayDb
  runs : Table FleetRunRow.id
  run_events : Table FleetRunEventRow.id

structure ExecuteFleetRunInput where
  orgId : OrgId
  runId : FleetRunId
  actorId : ActorId
  deriving DecidableEq

def getFleetRun (db : FleetDb) (orgId : OrgId) (runId : FleetRunId) : Except Failure FleetRunRow :=
  match (db.runs.find? runId).filter fun row => row.org_id = orgId with
  | none => .error (.thrown "fleet_run_not_found")
  | some row => .ok row

/-- What an update sets; `none` leaves a column as it is. -/
structure FleetRunUpdate where
  status : Option FleetRunStatus
  checklist : Option Checklist
  fruit : Option (List Receipt)
  error : Option String

def FleetRunUpdate.apply (update : FleetRunUpdate) (row : FleetRunRow) : FleetRunRow :=
  { row with
    status := update.status.getD row.status
    checklist := update.checklist.getD row.checklist
    fruit := update.fruit.or row.fruit
    error := update.error.or row.error }

def updateFleetRunState (db : FleetDb) (input : ExecuteFleetRunInput) (update : FleetRunUpdate) : FleetDb :=
  { db with runs := db.runs.modify input.runId fun row => if row.org_id = input.orgId then update.apply row else row }

def appendFleetRunEvent (db : FleetDb) (input : ExecuteFleetRunInput) (id : Nat) (kind : FleetEventKind)
    (tool : Option String) (receipts : List Receipt) : Option FleetDb :=
  let seqs := (db.run_events.rows.filter fun row => row.run_id = input.runId).map FleetRunEventRow.seq
  (db.run_events.insert? ⟨id, input.runId, input.orgId, seqs.foldr max 0 + 1, kind, tool, receipts⟩).map fun run_events =>
    { db with run_events }

def markChecklistItem (checklist : Checklist) (id : FleetItem) (status : ItemStatus) : Checklist :=
  checklist.map fun item => if item.id = id then { item with status } else item

def findRecentSecondHopTx (db : PayDb) (orgId : OrgId) (analystAgentId dataFetcherAgentId : AgentId) (now : Time) :
    Option IntraFleetEventRow :=
  ((db.events.rows.filter fun row => row.org_id = orgId ∧ row.agent_id = analystAgentId ∧
      row.payee_agent_id = dataFetcherAgentId ∧ now < row.created_at + fifteenMinutes).argmax
    IntraFleetEventRow.created_at).filter fun row => row.tx_hash.toList.take 2 = ['0', 'x']

structure Fleet where
  orch : FleetResolvedAgent
  dataFetcher : FleetResolvedAgent
  analyst : FleetResolvedAgent
  writer : FleetResolvedAgent
  reviewer : FleetResolvedAgent
  deriving DecidableEq

def requireAgent (agent : Option FleetResolvedAgent) (role : String) : Except Failure FleetResolvedAgent :=
  match agent with
  | none => .error (conflict "fleet_agents_incomplete" ("Chat run missing agent role: " ++ role))
  | some agent => .ok agent

def FleetAgents.required (agents : FleetAgents) : Except Failure Fleet := do
  let orch ← requireAgent agents.orchestrator "orchestrator"
  let dataFetcher ← requireAgent agents.data_fetcher "data_fetcher"
  let analyst ← requireAgent agents.analyst "analyst"
  let writer ← requireAgent agents.writer "writer"
  let reviewer ← requireAgent agents.senior_reviewer "senior_reviewer"
  .ok ⟨orch, dataFetcher, analyst, writer, reviewer⟩

structure FleetHire where
  step : FleetItem
  payer : FleetResolvedAgent
  payee : FleetResolvedAgent
  chain : PaymentChain
  deriving DecidableEq

inductive FleetStatement where
  | await (name : String)
  | append (kind : FleetEventKind) (tool : Option String)
  | setItem (id : FleetItem) (status : ItemStatus)
  | resolveOrchestratorAuth
  | probeEndpoints
  | refuse (failure : Failure)
  | getOrgPaymentMode
  | pay (hire : FleetHire) (connection : ConnectionId)
  | findSecondHop
  | resolveAnalystAuth
  | appendPayment
  | appendFruit
  | complete
  deriving DecidableEq

def preparation : List FleetStatement :=
  [.await "narrateAssistantOpening", .append .assistant (some "gemini.chat"), .await "narratePlan",
    .append .plan (some "gemini.plan"), .setItem .onboard .running, .resolveOrchestratorAuth, .await "onboardRuntime",
    .setItem .onboard .done, .append .tool (some "agentops.onboard"), .setItem .wire .running, .probeEndpoints]

def sellersOffline (dead : List String) : Failure :=
  conflict "fleet_sellers_offline" ("Fleet sellers offline (" ++ ", ".intercalate dead ++ "). Start them (npm run " ++
    "dev:fleet-sellers or Docker fleet-sellers) with DEMO_ORG_ID matching this org, then retry Chat. Catalog mode is " ++
    "disabled (FLEET_REQUIRE_LIVE_SELLERS).")

def wiring (dead : List String) (requireLive : Bool) : List FleetStatement :=
  [.setItem .wire .done, .append .wire (some "listing.resolve")] ++
    (if dead = [] then [] else if requireLive then [.refuse (sellersOffline dead)]
      else [.append .assistant (some "gemini.chat")]) ++
    [.getOrgPaymentMode]

def paymentTool : String := "agentops.payment_intra_fleet"

def hire (live : String → Bool) (step : FleetItem) (orch payee : FleetResolvedAgent) (chain : PaymentChain)
    (connection : ConnectionId) : List FleetStatement :=
  let tool := if live payee.name then paymentTool else "agent.catalog"
  [.setItem step .running, .append .stepStart (some tool)] ++
    if live payee.name then [.pay ⟨step, orch, payee, chain⟩ connection, .setItem step .done, .appendPayment]
    else [.setItem step .done, .append .service (some "agent.catalog")]

def secondHop (live : String → Bool) : List FleetStatement :=
  [.setItem .secondHop .running] ++
    (if live "Analyst" && live "DataFetcher" then [.findSecondHop, .appendPayment]
      else [.append .service (some "agent.catalog")]) ++
    [.setItem .secondHop .done]

def conclusion : List FleetStatement :=
  [.setItem .activity .running, .await "narrateFruit", .await "recordActivity", .setItem .activity .done, .appendFruit,
    .complete, .append .completed none]

def hires (fleet : Fleet) (live : String → Bool) (connection : ConnectionId) : List FleetStatement :=
  hire live .payDataFetcher fleet.orch fleet.dataFetcher .arc connection ++
    hire live .payAnalyst fleet.orch fleet.analyst .arc connection ++ secondHop live ++
    hire live .payWriter fleet.orch fleet.writer .arc connection ++
    hire live .payReviewer fleet.orch fleet.reviewer .base connection ++ conclusion

structure FleetLocals where
  fleet : Fleet
  checklist : Checklist
  connection : ConnectionId
  live : String → Bool
  mode : PaymentMode

inductive FleetStage where
  | read
  | claim (run : FleetRunRow)
  | trying (locals : FleetLocals) (todo : List FleetStatement)
  | paying (locals : FleetLocals) (hire : FleetHire) (input : PayIntraFleetInput) (stage : PayStage)
      (todo : List FleetStatement)
  | failing (checklist : Checklist) (failure : Failure)
  | reporting (failure : Failure)
  | returning
  | ended (outcome : Except Failure FleetRunRow)
  | stopped

structure FleetCall where
  id : Nat
  input : ExecuteFleetRunInput
  stage : FleetStage
  receipts : List Receipt

/-- What a call learns from outside at a statement; `failed` is a statement that fails. -/
structure FleetAnswer extends PayAnswer where
  failed : Option Failure
  connection : ConnectionId
  probes : List Bool
  requireLive : Bool
  mode : PaymentMode

def failureMessage : Failure → String
  | .identity error => error.message
  | .thrown message => message
  | .constraint name => name

def FleetHire.pays (hire : FleetHire) (input : ExecuteFleetRunInput) (mode : PaymentMode) (connection : ConnectionId) :
    PayIntraFleetInput where
  orgId := input.orgId
  payerAgentId := hire.payer.agentId
  payeeAgentId := hire.payee.agentId
  mode
  chain := hire.chain
  url := hire.payee.endpointUrl
  approvedBy := .operator input.actorId
  connectionId := some connection

def FleetHire.receipt (hire : FleetHire) (amountUsdc : Nat) (txHash : Hash) : Receipt :=
  ⟨hire.step, hire.payer.name, hire.payee.name, hire.chain, amountUsdc, txHash⟩

def Fleet.hop (fleet : Fleet) : FleetHire := ⟨.secondHop, fleet.analyst, fleet.dataFetcher, .arc⟩

def Fleet.sellers (fleet : Fleet) : List FleetResolvedAgent :=
  [fleet.dataFetcher, fleet.analyst, fleet.writer, fleet.reviewer]

def liveSellers (fleet : Fleet) (probes : List Bool) : String → Bool :=
  (fleet.sellers.zip probes).foldl (fun live probed => Function.update live probed.1.name probed.2) fun _ => false

def deadSellers (fleet : Fleet) (live : String → Bool) : List String :=
  (fleet.sellers.map FleetResolvedAgent.name).eraseDups.filter fun name => !live name

def tryStatement (db : FleetDb) (answer : FleetAnswer) (call : FleetCall) (locals : FleetLocals)
    (todo : List FleetStatement) : FleetStatement → Option (FleetDb × FleetCall)
  | .await _ => some (db, { call with stage := .trying locals todo })
  | .append kind tool =>
    (appendFleetRunEvent db call.input answer.id kind tool []).map fun db => (db, { call with stage := .trying locals todo })
  | .setItem id status =>
    let checklist := markChecklistItem locals.checklist id status
    some (updateFleetRunState db call.input ⟨none, some checklist, none, none⟩,
      { call with stage := .trying { locals with checklist } todo })
  | .resolveOrchestratorAuth =>
    some (db, { call with stage := .trying { locals with connection := answer.connection } todo })
  | .probeEndpoints =>
    let live := liveSellers locals.fleet answer.probes
    some (db, { call with
      stage := .trying { locals with live } (wiring (deadSellers locals.fleet live) answer.requireLive ++ todo) })
  | .refuse failure => some (db, { call with stage := .failing locals.checklist failure })
  | .getOrgPaymentMode =>
    some (db, { call with
      stage := .trying { locals with mode := answer.mode } (hires locals.fleet locals.live locals.connection ++ todo) })
  | .pay hire connection =>
    some (db, { call with stage := .paying locals hire (hire.pays call.input locals.mode connection) .wallet todo })
  | .findSecondHop =>
    match findRecentSecondHopTx db.pay call.input.orgId locals.fleet.analyst.agentId locals.fleet.dataFetcher.agentId
      answer.now with
    | none => some (db, { call with stage := .trying locals (.resolveAnalystAuth :: todo) })
    | some row =>
      some (db, { call with
        stage := .trying locals todo
        receipts := call.receipts ++ [locals.fleet.hop.receipt row.amount_usdc row.tx_hash] })
  | .resolveAnalystAuth =>
    some (db, { call with stage := .trying locals (.pay locals.fleet.hop answer.connection :: todo) })
  | .appendPayment =>
    (appendFleetRunEvent db call.input answer.id .payment (some paymentTool) call.receipts.getLast?.toList).map fun db =>
      (db, { call with stage := .trying locals todo })
  | .appendFruit =>
    (appendFleetRunEvent db call.input answer.id .fruit (some "gemini.chat") call.receipts).map fun db =>
      (db, { call with stage := .trying locals todo })
  | .complete =>
    some (updateFleetRunState db call.input ⟨some .completed, some locals.checklist, some call.receipts, none⟩,
      { call with stage := .trying locals todo })

def fleetRunBusy : Failure := conflict "fleet_run_busy" "This chat run is already in progress."

def rethrown : Failure → Failure
  | .identity error => .identity error
  | failure => .identity ⟨"fleet_run_failed", 500, failureMessage failure⟩

def failItem (item : FleetChecklistItem) : FleetChecklistItem :=
  if item.status = .running then { item with status := .failed } else item

/-- A statement of `executeFleetRun` that does not fail -/
def doneStatement (db : FleetDb) (answer : FleetAnswer) (call : FleetCall) : Option (FleetDb × FleetCall) :=
  match call.stage with
  | .read =>
    match getFleetRun db call.input.orgId call.input.runId with
    | .error failure => some (db, { call with stage := .ended (.error failure) })
    | .ok run =>
      match run.status with
      | .completed => some (db, { call with stage := .ended (.ok run) })
      | .running => some (db, { call with stage := .ended (.error fleetRunBusy) })
      | _ => some (db, { call with stage := .claim run })
  | .claim run =>
    let db := updateFleetRunState db call.input ⟨some .running, none, none, none⟩
    match run.agents.required with
    | .error failure => some (db, { call with stage := .ended (.error failure) })
    | .ok fleet => some (db, { call with stage := .trying ⟨fleet, run.checklist, 0, fun _ => false, .test⟩ preparation })
  | .trying _ [] => some (db, { call with stage := .returning })
  | .trying locals (statement :: todo) => tryStatement db answer call locals todo statement
  | .paying locals hire input stage todo =>
    (payStatement db.pay input answer.toPayAnswer stage).map fun
      | (pay, .finished _ (.error failure)) =>
        ({ db with pay }, { call with stage := .failing locals.checklist failure })
      | (pay, .finished _ (.ok result)) =>
        ({ db with pay }, { call with
          stage := .trying locals todo
          receipts := call.receipts ++ [hire.receipt result.amountUsdc result.txHash] })
      | (pay, stage) => ({ db with pay }, { call with stage := .paying locals hire input stage todo })
  | .failing checklist failure =>
    some (updateFleetRunState db call.input
      ⟨some .failed, some (checklist.map failItem), none, some (failureMessage failure)⟩,
      { call with stage := .reporting failure })
  | .reporting failure =>
    (appendFleetRunEvent db call.input answer.id .failed none call.receipts).map fun db =>
      (db, { call with stage := .ended (.error (rethrown failure)) })
  | .returning => some (db, { call with stage := .ended (getFleetRun db call.input.orgId call.input.runId) })
  | .ended _ | .stopped => none

def FleetStage.caught (failure : Failure) : FleetStage → Option FleetStage
  | .trying locals _ | .paying locals _ _ _ _ => some (.failing locals.checklist failure)
  | .read | .claim _ | .failing _ _ | .reporting _ | .returning => some (.ended (.error failure))
  | .ended _ | .stopped => none

def fleetStatement (db : FleetDb) (answer : FleetAnswer) (call : FleetCall) : Option (FleetDb × FleetCall) :=
  match answer.failed with
  | some failure => (call.stage.caught failure).map fun stage => (db, { call with stage })
  | none => doneStatement db answer call

end AgentOps.FleetRun
