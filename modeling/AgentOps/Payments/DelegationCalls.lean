import AgentOps.Payments.Permit2

namespace AgentOps.Payments
open Lib Identity

/-! # The delegation calls, statement by statement

A call is a transaction of the database that also reads from and sends to the chain. Its writes are seen when it commits;
the phase of a call names what it does next and holds what it has read. Amounts that do not parse and gas that cannot be
topped up end a call before it sends anything; they are failures like any other here. -/

/-- `balance` is what the solvency check has read. -/
inductive GrantPhase where
  | payer
  | outstanding (payer : Payer)
  | orgCeiling (payer : Payer) (total : Nat)
  | balance (payer : Payer) (total : Nat)
  | nonce (payer : Payer) (balance : Option Nat)
  | approval (payer : Payer) (balance : Option Nat) (nonce : Nat)
  | approve (payer : Payer) (balance : Option Nat) (nonce approvalMicros : Nat)
  | submitter (payer : Payer) (balance : Option Nat) (nonce : Nat)
  | permit (payer : Payer) (balance : Option Nat) (nonce : Nat)
  | insert (payer : Payer) (balance : Option Nat) (nonce : Nat)
  deriving DecidableEq

inductive DrawPhase where
  | lock
  | insert (delegation : AgentDelegationRow)
  | transfer (delegation : AgentDelegationRow)
  | update (delegation : AgentDelegationRow) (txHash : Hash)
  deriving DecidableEq

inductive RevokePhase where
  | lock
  | lockdown (delegation : AgentDelegationRow)
  | update (delegation : AgentDelegationRow)
  deriving DecidableEq

inductive DelegationWork where
  | recordSignedDelegation (input : RecordSignedDelegationInput) (phase : GrantPhase)
  | drawDown (input : DrawDownInput) (phase : DrawPhase)
  | revokeDelegation (input : RevokeDelegationInput) (phase : RevokePhase)
  deriving DecidableEq

structure DelegationCall where
  id : Nat
  began : Time
  work : DelegationWork
  deriving DecidableEq

inductive DelegationResult where
  | granted (row : AgentDelegationRow) (balance : Option Nat)
  | drawn (delegationId : DelegationId) (txHash : Hash) (drawnUsdc : Nat)
  | revoked (delegationId : DelegationId) (onChainRevoked : Bool)
  deriving DecidableEq

inductive DelegationOutcome where
  | goOn (work : DelegationWork)
  | failed (failure : Failure)
  | committed (db : DelegationDb) (result : DelegationResult)

namespace DelegationWork

def holds : DelegationWork → Option DelegationId
  | .drawDown _ .lock | .revokeDelegation _ .lock | .recordSignedDelegation _ _ => none
  | .drawDown input _ => some input.delegationId
  | .revokeDelegation input _ => some input.delegationId

def sends : DelegationWork → Option ChainTransaction
  | .recordSignedDelegation input (.approve payer _ _ approvalMicros) =>
    some (.approve input.network payer.payerAddress.account payer.tokenAddress.account approvalMicros)
  | .recordSignedDelegation input (.permit payer _ nonce) =>
    some (.permit (input.slot payer) input.ceilingUsdc (seconds input.expiresAt) nonce)
  | .drawDown input (.transfer delegation) => some (.transferFrom delegation.slot input.amountUsdc)
  | .revokeDelegation _ (.lockdown delegation) => some (.lockdown delegation.slot)
  | _ => none

def confirmed (txHash : Hash) : DelegationWork → DelegationWork
  | .recordSignedDelegation input (.approve payer balance nonce _) =>
    .recordSignedDelegation input (.submitter payer balance nonce)
  | .recordSignedDelegation input (.permit payer balance nonce) =>
    .recordSignedDelegation input (.insert payer balance nonce)
  | .drawDown input (.transfer delegation) => .drawDown input (.update delegation txHash)
  | .revokeDelegation input (.lockdown delegation) => .revokeDelegation input (.update delegation)
  | work => work

end DelegationWork

/-- A statement of `recordSignedDelegation`; `answer` is what the chain answers, where it is asked. -/
def grantStatement (db : DelegationDb) (id : DelegationId) (began : Time) (answer : Nat)
    (input : RecordSignedDelegationInput) : GrantPhase → Option DelegationOutcome
  | .payer =>
    match input.resolve db with
    | .error failure => some (.failed failure)
    | .ok payer =>
      some (.goOn (.recordSignedDelegation input
        (if payer.payerKind = .treasury then .outstanding payer else .nonce payer none)))
  | .outstanding payer =>
    let total := outstandingHeadroomMicros db began (input.scope payer) + input.ceilingUsdc
    some (.goOn (.recordSignedDelegation input (.orgCeiling payer total)))
  | .orgCeiling payer total =>
    match assertWithinOrgCeiling total (orgCeilingMicros db input.orgId input.network) with
    | .error failure => some (.failed failure)
    | .ok () => some (.goOn (.recordSignedDelegation input (.balance payer total)))
  | .balance payer total =>
    match assertSolvent total answer with
    | .error failure => some (.failed failure)
    | .ok () => some (.goOn (.recordSignedDelegation input (.nonce payer (some answer))))
  | .nonce payer balance =>
    match input.userSigned with
    -- the browser has sent the approval and signed
    | some signed => some (.goOn (.recordSignedDelegation input (.submitter payer balance signed.nonce)))
    | none => some (.goOn (.recordSignedDelegation input (.approval payer balance answer)))
  | .approval payer balance nonce =>
    let approvalMicros := outstandingHeadroomMicros db began (input.scope payer) + input.ceilingUsdc
    some (.goOn (.recordSignedDelegation input (.approve payer balance nonce approvalMicros)))
  | .submitter payer balance nonce =>
    match resolvePermitSubmitter db input payer with
    | .error failure => some (.failed failure)
    | .ok _ => some (.goOn (.recordSignedDelegation input (.permit payer balance nonce)))
  | .insert payer balance nonce =>
    let row := delegationRow id input payer nonce
    match insertDelegation db row with
    | .error failure => some (.failed failure)
    | .ok db' => some (.committed db' (.granted row balance))
  | .approve _ _ _ _ | .permit _ _ _ => none

def DelegationDb.Unused (db : DelegationDb) (id : Nat) : Prop :=
  db.delegations.find? id = none ∧ db.drawdowns.find? id = none

instance (db : DelegationDb) (id : Nat) : Decidable (db.Unused id) := inferInstanceAs (Decidable (_ ∧ _))

def submittedDrawdown (id : DrawdownId) (input : DrawDownInput) : DelegationDrawdownRow :=
  ⟨id, input.delegationId, input.amountUsdc, none, .submitted⟩

/-- The writes of `drawDown`, as they are seen when it commits -/
def recordDraw (db : DelegationDb) (id : DrawdownId) (input : DrawDownInput) (delegation : AgentDelegationRow)
    (txHash : Hash) : Option DelegationDb :=
  match db.drawdowns.insert? (submittedDrawdown id input) with
  | none => none
  | some drawdowns =>
    let confirmed := { submittedDrawdown id input with tx_hash := some txHash, status := .confirmed }
    let newDrawnMicros := delegation.drawn_usdc + input.amountUsdc
    let newStatus := if delegation.ceiling_usdc ≤ newDrawnMicros then .exhausted else .active
    some (DelegationDb.setDrawn { db with drawdowns := drawdowns.put confirmed } input.delegationId newDrawnMicros newStatus)

/-- A statement of `drawDown`; the first waits while another call holds the row. -/
def drawStatement (db : DelegationDb) (id : DrawdownId) (now : Time) (held : Bool) (input : DrawDownInput) :
    DrawPhase → Option DelegationOutcome
  | .lock =>
    if held then none
    else
      match db.delegations.find? input.delegationId with
      | none => some (.failed (.thrown "agent_delegation_not_found"))
      | some delegation =>
        match assertDrawable now delegation input.amountUsdc with
        | .error failure => some (.failed failure)
        | .ok () => some (.goOn (.drawDown input (.insert delegation)))
  | .insert delegation =>
    if input.amountUsdc = 0 then some (.failed (.constraint "agent_delegation_drawdowns_amount_usdc_check"))
    else some (.goOn (.drawDown input (.transfer delegation)))
  | .transfer _ => none
  | .update delegation txHash =>
    match recordDraw db id input delegation txHash with
    | none => some (.failed (.constraint "agent_delegation_drawdowns_pkey"))
    | some db' =>
      some (.committed db' (.drawn input.delegationId txHash (delegation.drawn_usdc + input.amountUsdc)))

/-- A statement of `revokeDelegation` -/
def revokeStatement (db : DelegationDb) (held : Bool) (input : RevokeDelegationInput) :
    RevokePhase → Option DelegationOutcome
  | .lock =>
    if held then none
    else
      match db.delegations.find? input.delegationId with
      | none => some (.failed (.thrown "agent_delegation_not_found"))
      | some delegation =>
        if delegation.status = .revoked then
          some (.committed db (.revoked input.delegationId (delegation.payer_kind ≠ .user)))
        else if delegation.payer_kind ≠ .user then some (.goOn (.revokeDelegation input (.lockdown delegation)))
        else some (.goOn (.revokeDelegation input (.update delegation)))
  | .lockdown _ => none
  | .update delegation =>
    some (.committed (db.setRevoked input.delegationId) (.revoked input.delegationId (delegation.payer_kind ≠ .user)))

inductive DelegationRequest where
  | recordSignedDelegation (input : RecordSignedDelegationInput)
  | drawDown (input : DrawDownInput)
  | revokeDelegation (input : RevokeDelegationInput)
  deriving DecidableEq

def DelegationRequest.work : DelegationRequest → DelegationWork
  | .recordSignedDelegation input => .recordSignedDelegation input .payer
  | .drawDown input => .drawDown input .lock
  | .revokeDelegation input => .revokeDelegation input .lock

structure DelegationWorld where
  now : Time
  db : DelegationDb
  chain : Permit2Chain
  calls : Table DelegationCall.id
  /-- The transactions that a call has given up on: they may land later or never. -/
  sent : List ChainTransaction
  returned : List DelegationResult

inductive DelegationLabel where
  | pass (later : Time)
  | call (id : Nat) (request : DelegationRequest)
  | statement (id answer : Nat)
  | confirm (id : Nat) (txHash : Hash)
  | abandon (id : Nat)
  | fail (id : Nat)
  | land (transaction : ChainTransaction)
  deriving DecidableEq

namespace DelegationWorld

def held (s : DelegationWorld) (id : DelegationId) : Bool := s.calls.rows.any fun call => call.work.holds = some id

def statement (s : DelegationWorld) (call : DelegationCall) (answer : Nat) : Option DelegationOutcome :=
  match call.work with
  | .recordSignedDelegation input phase => grantStatement s.db call.id call.began answer input phase
  | .drawDown input phase => drawStatement s.db call.id s.now (s.held input.delegationId) input phase
  | .revokeDelegation input phase => revokeStatement s.db (s.held input.delegationId) input phase

def dropped (s : DelegationWorld) (id : Nat) : DelegationWorld := { s with calls := s.calls.remove id }

def continued (s : DelegationWorld) (call : DelegationCall) (work : DelegationWork) : DelegationWorld :=
  { s with calls := s.calls.put { call with work } }

def sender? (s : DelegationWorld) (id : Nat) : Option (DelegationCall × ChainTransaction) :=
  (s.calls.find? id).bind fun call => call.work.sends.map fun transaction => (call, transaction)

end DelegationWorld

def delegationStep (s : DelegationWorld) : DelegationLabel → Option DelegationWorld
  | .pass later => if s.now ≤ later then some { s with now := later } else none
  | .call id request =>
    if s.db.Unused id then (s.calls.insert? ⟨id, s.now, request.work⟩).map fun calls => { s with calls } else none
  | .statement id answer =>
    match s.calls.find? id with
    | none => none
    | some call =>
      match s.statement call answer with
      | none => none
      | some (.goOn work) => some (s.continued call work)
      | some (.failed _) => some (s.dropped id)
      | some (.committed db result) => some { s.dropped id with db, returned := result :: s.returned }
  | .confirm id txHash =>
    match s.sender? id with
    | none => none
    | some (call, transaction) =>
      (s.chain.apply s.now transaction).map fun chain => { s.continued call (call.work.confirmed txHash) with chain }
  | .abandon id => (s.sender? id).map fun (_, transaction) => { s.dropped id with sent := transaction :: s.sent }
  | .fail id => (s.calls.find? id).map fun _ => s.dropped id
  | .land transaction =>
    if transaction ∈ s.sent then
      (s.chain.apply s.now transaction).map fun chain => { s with chain, sent := s.sent.erase transaction }
    else none

end AgentOps.Payments
