import AgentOps.Payments.DelegationCalls

namespace AgentOps.Payments
open Lib Identity

/-! # Funding an agent when it is about to spend -/

/-- What a call learns from outside at a statement: fresh ids and the time, a number that is read, and how a transaction that
it sends ends -/
structure ChainAnswer where
  id : Nat
  now : Time
  micros : Except Failure Nat
  executed : Except Failure Hash

/-- `drawDown`, whose transaction holds the row of the delegation from its first statement to its commit -/
def drawDown (db : DelegationDb) (input : DrawDownInput) (answer : ChainAnswer) : Except Failure (DelegationDb × Hash) :=
  match db.delegations.find? input.delegationId with
  | none => .error (.thrown "agent_delegation_not_found")
  | some delegation => do
    assertDrawable answer.now delegation input.amountUsdc
    if input.amountUsdc = 0 then .error (.constraint "agent_delegation_drawdowns_amount_usdc_check")
    else do
      let txHash ← answer.executed
      match recordDraw db answer.id input delegation txHash with
      | none => .error (.constraint "agent_delegation_drawdowns_pkey")
      | some db' => .ok (db', txHash)

/-- `recordSignedDelegation` for the wallet of an agent, which no ceiling bounds; `micros` is the nonce. -/
def recordSignedDelegation (db : DelegationDb) (input : RecordSignedDelegationInput) (answer : ChainAnswer) :
    Except Failure (DelegationDb × DelegationId) := do
  let payer ← input.resolve db
  let nonce ← answer.micros
  let _ ← resolvePermitSubmitter db input payer
  let _ ← answer.executed
  let db' ← insertDelegation db (delegationRow answer.id input payer nonce)
  .ok (db', answer.id)

structure JustInTimeFundingInput where
  orgId : OrgId
  agentId : AgentId
  mode : PaymentMode
  chain : PaymentChain
  neededMicros : Nat
  deriving DecidableEq

def agentGasFloorMicros : Nat := 100000

inductive FundStage where
  | wallet
  | balance (address : Address)
  | gasTreasury (address : Address) (balance : Nat)
  | gasTransfer (address : Address) (balance : Nat)
  | delegations (address : Address) (shortfall : Nat)
  | draw (delegationId : DelegationId) (shortfall : Nat)
  | treasury (address : Address) (shortfall : Nat)
  | transfer (address : Address) (shortfall : Nat)
  deriving DecidableEq

def treasuryDelegation? (db : DelegationDb) (input : JustInTimeFundingInput) (now : Time) (shortfall : Nat) :
    Option AgentDelegationRow :=
  db.delegations.rows.find? fun row =>
    row.org_id = input.orgId ∧ row.payee_agent_id = some input.agentId ∧ row.payer_kind = .treasury ∧ row.mode = input.mode ∧
      row.chain = input.chain ∧ row.live now ∧ row.drawn_usdc + shortfall ≤ row.ceiling_usdc

/-- A statement of `fundAgentFromTreasuryDelegation`, and the next one, if any -/
def fundStatement (db : DelegationDb) (input : JustInTimeFundingInput) (answer : ChainAnswer) :
    FundStage → Except Failure (DelegationDb × Option FundStage)
  | .wallet => .ok (db, (agentAddress? db input.agentId (input.mode, input.chain)).map .balance)
  | .balance address => do
    let balance ← answer.micros
    if input.neededMicros ≤ balance then .ok (db, none)
    else if input.chain = .arc ∧ balance < agentGasFloorMicros then .ok (db, some (.gasTreasury address balance))
    else .ok (db, some (.delegations address (input.neededMicros - balance)))
  | .gasTreasury address balance =>
    match treasuryAddress? db input.orgId (input.mode, input.chain) with
    | none => .ok (db, some (.delegations address (input.neededMicros - balance)))
    | some _ => .ok (db, some (.gasTransfer address balance))
  | .gasTransfer address balance => do
    let _ ← answer.executed
    .ok (db, some (.delegations address (input.neededMicros - balance)))
  | .delegations address shortfall =>
    match treasuryDelegation? db input answer.now shortfall with
    | some row => .ok (db, some (.draw row.id shortfall))
    | none => .ok (db, if input.chain = .base then some (.treasury address shortfall) else none)
  | .draw delegationId shortfall => do
    let (db', _) ← drawDown db ⟨delegationId, shortfall⟩ answer
    .ok (db', none)
  | .treasury address shortfall =>
    match treasuryAddress? db input.orgId (input.mode, input.chain) with
    | none => .ok (db, none)
    | some treasury => .ok (db, if treasury ≠ address then some (.transfer address shortfall) else none)
  | .transfer _ _ => do
    let _ ← answer.executed
    .ok (db, none)

end AgentOps.Payments
