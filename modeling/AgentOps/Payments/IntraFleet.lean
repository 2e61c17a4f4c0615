import AgentOps.Lib.CodeUnits
import AgentOps.Lib.Rounding
import AgentOps.Payments.AgentFunding
import AgentOps.Payments.Trust

namespace AgentOps.Payments
open Lib Identity

/-! # Payments within a fleet -/

structure FleetAgentRow where
  id : AgentId
  org_id : OrgId
  name : String
  deriving DecidableEq

inductive FulfillmentBody where
  | whole (encoded : CodeUnits)
  | cut (text : CodeUnits)
  deriving DecidableEq

structure IntraFleetFulfillment where
  delivered : Bool
  http_status : Nat
  body : Option FulfillmentBody
  deriving DecidableEq

/-- A `payment_events` row that `recordIntraFleetPaymentEvent` inserts, its decision `settled` and its lane
`permit2_intra_fleet` -/
structure IntraFleetEventRow where
  id : EventId
  org_id : OrgId
  agent_id : AgentId
  connection_id : Option ConnectionId
  provider_mode : PaymentMode
  rail : PaymentRail
  chain : PaymentChain
  amount_usdc : Nat
  recipient : Address
  network : String
  resource_url : String
  resource_category : String
  tx_hash : Hash
  payee_agent_id : AgentId
  payee_name : String
  fulfillment : IntraFleetFulfillment
  created_at : Time
  deriving DecidableEq

structure PayDb where
  delegations : DelegationDb
  agents : Table FleetAgentRow.id
  allowlist : DestinationAllowlist
  events : Table IntraFleetEventRow.id

structure X402Accept where
  amount : Option String
  maxAmountRequired : Option String
  deriving DecidableEq

/-- What the seller answers first; `none` is a body that holds no list of accepts. -/
structure DiscoveryAnswer where
  status : Nat
  accepts : Option (List X402Accept)
  deriving DecidableEq

/-- What the seller answers once it is paid; the body as `JSON.stringify` writes it, if it is JSON -/
structure PaidAnswer where
  status : Nat
  body : Option CodeUnits
  deriving DecidableEq

def amountMicrosFromAccept (accept : X402Accept) : Except Failure Nat :=
  match accept.maxAmountRequired.or accept.amount with
  | none => .error (.thrown "intra_fleet_amount_missing")
  | some raw =>
    match digits? raw.toList with
    | none => .error (.thrown "intra_fleet_invalid_amount")
    | some micros => .ok micros

def fetchFailed : Failure := .thrown "fetch failed"

def quotedMicros : Option DiscoveryAnswer → Except Failure Nat
  | none => .error fetchFailed
  | some discovery =>
    if discovery.status ≠ 402 then .error (.thrown "intra_fleet_payment_not_required")
    else
      match discovery.accepts with
      | none => .error (.thrown "TypeError")
      | some [] => .error (.thrown "intra_fleet_no_accepts")
      | some (accept :: _) => amountMicrosFromAccept accept

def chainNetwork : PaymentChain → String
  | .arc => "eip155:5042002"
  | .base => "eip155:84532"
  | .arbitrum => "eip155:421614"
  | .polygon => "eip155:80002"
  | .optimism => "eip155:11155420"
  | .avalanche => "eip155:43113"

def fulfillmentBodyMaxChars : Nat := 4096

def boundFulfillmentBody (encoded : CodeUnits) : FulfillmentBody :=
  if encoded.length ≤ fulfillmentBodyMaxChars then .whole encoded else .cut (encoded.take fulfillmentBodyMaxChars)

/-- `jsonb` takes the body: the text of a value, or a value that is a text. -/
def FulfillmentBody.storable : FulfillmentBody → Bool
  | .whole encoded => jsonbAccepts encoded
  | .cut text => wellFormed text

def PaidAnswer.storable (paid : PaidAnswer) : Bool := (paid.body.map boundFulfillmentBody).all FulfillmentBody.storable

inductive Approver where
  | connection (id : ConnectionId)
  | operator (id : ActorId)
  deriving DecidableEq

structure PayIntraFleetInput where
  orgId : OrgId
  payerAgentId : AgentId
  payeeAgentId : AgentId
  mode : PaymentMode
  chain : PaymentChain
  url : String
  approvedBy : Approver
  connectionId : Option ConnectionId
  deriving DecidableEq

def PayIntraFleetInput.network (input : PayIntraFleetInput) : Network := (input.mode, input.chain)

def PayIntraFleetInput.connection (input : PayIntraFleetInput) : Option ConnectionId :=
  input.connectionId.or (match input.approvedBy with | .connection id => some id | .operator _ => none)

/-- A `text` column takes no NUL. -/
def PayIntraFleetInput.storable (input : PayIntraFleetInput) : Bool := !input.url.toList.contains '\x00'

structure Hire where
  payeeAddress : Address
  payeeName : String
  amountMicros : Nat
  deriving DecidableEq

def eventRow (input : PayIntraFleetInput) (hire : Hire) (txHash : Hash) (paid : PaidAnswer) (answer : ChainAnswer) :
    IntraFleetEventRow where
  id := answer.id
  org_id := input.orgId
  agent_id := input.payerAgentId
  connection_id := input.connection
  provider_mode := input.mode
  rail := ⟨.directExact, input.chain⟩
  chain := input.chain
  amount_usdc := hire.amountMicros
  recipient := hire.payeeAddress
  network := chainNetwork input.chain
  resource_url := input.url
  resource_category := "Fleet hire → " ++ hire.payeeName
  tx_hash := txHash
  payee_agent_id := input.payeeAgentId
  payee_name := hire.payeeName
  fulfillment := ⟨200 ≤ paid.status && paid.status < 300, paid.status, paid.body.map boundFulfillmentBody⟩
  created_at := answer.now

def recordIntraFleetPaymentEvent (db : PayDb) (input : PayIntraFleetInput) (hire : Hire) (txHash : Hash) (paid : PaidAnswer)
    (answer : ChainAnswer) : Option (Except Failure PayDb) :=
  if !input.storable then some (.error (.constraint "character_not_in_repertoire"))
  else if !paid.storable then some (.error (.constraint "untranslatable_character"))
  else if 10 ^ 20 ≤ hire.amountMicros then some (.error (.constraint "numeric_value_out_of_range"))
  else if hire.amountMicros = 0 then some (.error (.constraint "payment_events_amount_usdc_check"))
  else (db.events.insert? (eventRow input hire txHash paid answer)).map fun events => .ok { db with events }

/-- Whether there is room by the amounts as floating point has them. No amount of a column is too large for `BigInt`. -/
def hasHeadroom (row : AgentDelegationRow) (neededMicros : Nat) : Bool :=
  match numericMicros? row.ceiling_usdc, numericMicros? row.drawn_usdc with
  | some ceilingMicros, some drawnMicros => drawnMicros + neededMicros ≤ ceilingMicros
  | _, _ => false

def latestDelegation? (db : DelegationDb) (input : PayIntraFleetInput) (payeeAddress : Address) (now : Time) :
    Option AgentDelegationRow :=
  db.delegations.rows.find? fun row =>
    row.payer_agent_id = some input.payerAgentId ∧ row.payee_address = payeeAddress ∧ row.mode = input.mode ∧
      row.chain = input.chain ∧ row.live now

def findActiveDelegationWithHeadroom (db : DelegationDb) (input : PayIntraFleetInput) (payeeAddress : Address) (now : Time)
    (neededMicros : Nat) : Option DelegationId :=
  match latestDelegation? db input payeeAddress now with
  | none => none
  | some row => if hasHeadroom row neededMicros then some row.id else none

def defaultDelegationCeilingUsdc : Nat := 5000000

def defaultDelegationTtl : Time := 24 * 60 * 60 * 1000000

def PayIntraFleetInput.delegation (input : PayIntraFleetInput) (payeeAddress : Address) (now : Time) :
    RecordSignedDelegationInput where
  orgId := input.orgId
  payerAgentId := some input.payerAgentId
  payeeAgentId := some input.payeeAgentId
  payerTreasury := false
  payeeAddress
  mode := input.mode
  chain := input.chain
  tokenAddress := none
  ceilingUsdc := defaultDelegationCeilingUsdc
  expiresAt := now + defaultDelegationTtl
  userSigned := none

def PayIntraFleetInput.funding (input : PayIntraFleetInput) (neededMicros : Nat) : JustInTimeFundingInput :=
  ⟨input.orgId, input.payerAgentId, input.mode, input.chain, neededMicros⟩

structure PayIntraFleetResult where
  status : Nat
  body : Option CodeUnits
  txHash : Hash
  amountUsdc : Nat
  paymentEventId : EventId
  deriving DecidableEq

/-- What a call has drawn, and what the seller has answered since; `none` is a request that fails. -/
structure DrawnPayment where
  hire : Hire
  txHash : Hash
  paid : Option PaidAnswer
  deriving DecidableEq

inductive PayStage where
  | wallet
  | allowlist (payeeAddress : Address)
  | name (payeeAddress : Address)
  | discovery (payeeAddress : Address) (payeeName : String)
  | funding (hire : Hire) (stage : FundStage)
  | delegation (hire : Hire)
  | signing (hire : Hire)
  | drawing (hire : Hire) (delegationId : DelegationId)
  | fetching (hire : Hire) (txHash : Hash)
  | recording (hire : Hire) (txHash : Hash) (paid : PaidAnswer)
  | finished (drawn : Option DrawnPayment) (outcome : Except Failure PayIntraFleetResult)

structure PayAnswer extends ChainAnswer where
  discovery : Option DiscoveryAnswer
  paid : Option PaidAnswer

def PayIntraFleetInput.payee (input : PayIntraFleetInput) : ResolveAgentPayeeInput :=
  ⟨input.orgId, input.payeeAgentId, input.mode, input.chain⟩

/-- A statement of `payIntraFleet` -/
def payStatement (db : PayDb) (input : PayIntraFleetInput) (answer : PayAnswer) : PayStage → Option (PayDb × PayStage)
  | .wallet =>
    match agentAddress? db.delegations input.payeeAgentId input.network with
    | none => some (db, .finished none (.error (agentWalletNotFound input.chain)))
    | some payeeAddress => some (db, .allowlist payeeAddress)
  | .allowlist payeeAddress =>
    let row := input.payee.row answer.id payeeAddress
    some ({ db with allowlist := db.allowlist.insertUnlessListed row }, .name payeeAddress)
  | .name payeeAddress =>
    let agent := (db.agents.find? input.payeeAgentId).filter fun row => row.org_id = input.orgId
    some (db, .discovery payeeAddress ((agent.map FleetAgentRow.name).getD (toString input.payeeAgentId)))
  | .discovery payeeAddress payeeName =>
    match quotedMicros answer.discovery with
    | .error failure => some (db, .finished none (.error failure))
    | .ok micros => some (db, .funding ⟨payeeAddress, payeeName, micros⟩ .wallet)
  | .funding hire stage =>
    match fundStatement db.delegations (input.funding hire.amountMicros) answer.toChainAnswer stage with
    | .error failure => some (db, .finished none (.error failure))
    | .ok (delegations, none) => some ({ db with delegations }, .delegation hire)
    | .ok (delegations, some stage) => some ({ db with delegations }, .funding hire stage)
  | .delegation hire =>
    match findActiveDelegationWithHeadroom db.delegations input hire.payeeAddress answer.now hire.amountMicros with
    | none => some (db, .signing hire)
    | some delegationId => some (db, .drawing hire delegationId)
  | .signing hire =>
    match recordSignedDelegation db.delegations (input.delegation hire.payeeAddress answer.now) answer.toChainAnswer with
    | .error failure => some (db, .finished none (.error failure))
    | .ok (delegations, delegationId) => some ({ db with delegations }, .drawing hire delegationId)
  | .drawing hire delegationId =>
    match drawDown db.delegations ⟨delegationId, hire.amountMicros⟩ answer.toChainAnswer with
    | .error failure => some (db, .finished none (.error failure))
    | .ok (delegations, txHash) => some ({ db with delegations }, .fetching hire txHash)
  | .fetching hire txHash =>
    match answer.paid with
    | none => some (db, .finished (some ⟨hire, txHash, none⟩) (.error fetchFailed))
    | some paid => some (db, .recording hire txHash paid)
  | .recording hire txHash paid =>
    (recordIntraFleetPaymentEvent db input hire txHash paid answer.toChainAnswer).map fun
      | .error failure => (db, .finished (some ⟨hire, txHash, some paid⟩) (.error failure))
      | .ok db' => (db', .finished (some ⟨hire, txHash, some paid⟩)
          (.ok ⟨paid.status, paid.body, txHash, hire.amountMicros, answer.id⟩))
  | .finished _ _ => none

end AgentOps.Payments
