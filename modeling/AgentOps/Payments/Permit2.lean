import AgentOps.Lib.Table
import AgentOps.Payments.Quote
import Mathlib.Logic.Function.Basic

namespace AgentOps.Payments
open Lib Identity

/-! # Permit2 delegations -/

abbrev Network := PaymentMode × PaymentChain

structure AllowanceSlot where
  network : Network
  owner : Account
  token : Account
  spender : Account
  deriving DecidableEq

structure Permit2Allowance where
  amount : Nat
  expiration : Nat
  nonce : Nat
  deriving DecidableEq

inductive ChainTransaction where
  /-- `approve` of the token, with Permit2 as the spender -/
  | approve (network : Network) (owner token : Account) (amount : Nat)
  | permit (slot : AllowanceSlot) (amount expiration nonce : Nat)
  | transferFrom (slot : AllowanceSlot) (amount : Nat)
  | lockdown (slot : AllowanceSlot)
  deriving DecidableEq

structure Permit2Chain where
  allowance : AllowanceSlot → Permit2Allowance
  approval : Network × Account × Account → Nat

def seconds (t : Time) : Nat := t / 1000000

def Permit2Chain.apply (chain : Permit2Chain) (now : Time) : ChainTransaction → Option Permit2Chain
  | .approve network owner token amount =>
    some { chain with approval := Function.update chain.approval (network, owner, token) amount }
  | .permit slot amount expiration nonce =>
    if nonce = (chain.allowance slot).nonce ∧ seconds now ≤ expiration then
      some { chain with allowance := Function.update chain.allowance slot ⟨amount, expiration, nonce + 1⟩ }
    else none
  | .transferFrom slot amount =>
    let allowance := chain.allowance slot
    let approved := chain.approval (slot.network, slot.owner, slot.token)
    if seconds now ≤ allowance.expiration ∧ amount ≤ allowance.amount ∧ amount ≤ approved then
      some
        { allowance := Function.update chain.allowance slot { allowance with amount := allowance.amount - amount }
          approval := Function.update chain.approval (slot.network, slot.owner, slot.token) (approved - amount) }
    else none
  | .lockdown slot =>
    some { chain with
      allowance := Function.update chain.allowance slot { chain.allowance slot with amount := 0 } }

/-- The `usdc` contracts, as the configuration writes them -/
def usdcTokenAddress : PaymentMode → PaymentChain → Except Failure Address
  | .test, .arbitrum => .ok ⟨0x75faf114eafb1BDbe2F0316DF893fd58CE46AA4d, 0⟩
  | .test, .avalanche => .ok ⟨0x5425890298aed601595a70AB815c96711a31Bc65, 0⟩
  | .test, .base => .ok ⟨0x036CbD53842c5426634e7929541eC2318f3dCF7e, 0⟩
  | .test, .optimism => .ok ⟨0x5fd84259d66Cd46123540766Be93DFE6D43130D7, 0⟩
  | .test, .polygon => .ok ⟨0x41E94Eb019C0762f9Bfcf9Fb1E58725BfB0e7582, 0⟩
  | .test, .arc => .ok ⟨0x3600000000000000000000000000000000000000, 0⟩
  | .live, .arbitrum => .ok ⟨0xaf88d065e77c8cC2239327C5EDb3A432268e5831, 0⟩
  | .live, .avalanche => .ok ⟨0xB97EF9Ef8734C71904D8002F8b6Bc66Dd9c48a6E, 0⟩
  | .live, .base => .ok ⟨0x833589fCD6eDb6E08f4c7C32D4f71b54bdA02913, 0⟩
  | .live, .optimism => .ok ⟨0x0b2C639c533813f4Aa9D7837CAf62653d097Ff85, 0⟩
  | .live, .polygon => .ok ⟨0x3c499c542cEF5E3811e1192ce70d8cC03d5c3359, 0⟩
  | .live, .arc => .error (.thrown "arc_mainnet_not_supported")

inductive PayerKind where
  | user
  | agent
  | treasury
  deriving DecidableEq

inductive DelegationStatus where
  | pending
  | active
  | exhausted
  | expired
  | revoked
  deriving DecidableEq

structure AgentDelegationRow where
  id : DelegationId
  org_id : OrgId
  payer_agent_id : Option AgentId
  payer_address : Address
  payee_agent_id : Option AgentId
  payee_address : Address
  mode : PaymentMode
  chain : PaymentChain
  token_address : Address
  ceiling_usdc : Nat
  drawn_usdc : Nat
  expires_at : Time
  permit_nonce : Nat
  status : DelegationStatus
  payer_kind : PayerKind
  deriving DecidableEq

inductive DrawdownStatus where
  | submitted
  | confirmed
  | failed
  deriving DecidableEq

structure DelegationDrawdownRow where
  id : DrawdownId
  delegation_id : DelegationId
  amount_usdc : Nat
  tx_hash : Option Hash
  status : DrawdownStatus
  deriving DecidableEq

/-- A row of `circle_chain_wallets`, the treasuries -/
structure TreasuryWalletRow where
  org_id : OrgId
  mode : PaymentMode
  chain : PaymentChain
  address : Address
  active : Bool
  deriving DecidableEq

structure AgentChainWalletRow where
  agent_id : AgentId
  mode : PaymentMode
  chain : PaymentChain
  address : Address
  active : Bool
  deriving DecidableEq

structure OrgDelegationCeilingRow where
  org_id : OrgId
  mode : PaymentMode
  chain : PaymentChain
  ceiling_usdc : Nat
  deriving DecidableEq

def TreasuryWalletRow.key (row : TreasuryWalletRow) : OrgId × Network := (row.org_id, row.mode, row.chain)

def AgentChainWalletRow.key (row : AgentChainWalletRow) : AgentId × Network := (row.agent_id, row.mode, row.chain)

def OrgDelegationCeilingRow.key (row : OrgDelegationCeilingRow) : OrgId × Network := (row.org_id, row.mode, row.chain)

structure DelegationDb where
  delegations : Table AgentDelegationRow.id
  drawdowns : Table DelegationDrawdownRow.id
  treasuries : Table TreasuryWalletRow.key
  wallets : Table AgentChainWalletRow.key
  ceilings : Table OrgDelegationCeilingRow.key

namespace AgentDelegationRow

def slot (row : AgentDelegationRow) : AllowanceSlot :=
  ⟨(row.mode, row.chain), row.payer_address.account, row.token_address.account, row.payee_address.account⟩

def live (now : Time) (row : AgentDelegationRow) : Prop := row.status = .active ∧ now < row.expires_at

instance (now : Time) (row : AgentDelegationRow) : Decidable (row.live now) :=
  inferInstanceAs (Decidable (_ ∧ _))

def headroom (now : Time) (row : AgentDelegationRow) : Nat :=
  if row.live now then row.ceiling_usdc - row.drawn_usdc else 0

theorem headroom_later (row : AgentDelegationRow) {now later : Time} (after : now ≤ later) :
    row.headroom later ≤ row.headroom now := by
  unfold headroom
  by_cases live : row.live later
  · have before : row.live now := ⟨live.1, lt_of_le_of_lt after live.2⟩
    rw [if_pos live, if_pos before]
  · rw [if_neg live]
    exact Nat.zero_le _

end AgentDelegationRow

structure PayerScope where
  orgId : OrgId
  payerAddress : Address
  mode : PaymentMode
  chain : PaymentChain
  tokenAddress : Address
  deriving DecidableEq

def PayerScope.covers (scope : PayerScope) (row : AgentDelegationRow) : Prop :=
  row.org_id = scope.orgId ∧ row.payer_address = scope.payerAddress ∧ row.mode = scope.mode ∧
    row.chain = scope.chain ∧ row.token_address = scope.tokenAddress

instance (scope : PayerScope) (row : AgentDelegationRow) : Decidable (scope.covers row) :=
  inferInstanceAs (Decidable (_ ∧ _))

/-- `now()` is the time at which the transaction began. -/
def outstandingHeadroomMicros (db : DelegationDb) (now : Time) (scope : PayerScope) : Nat :=
  db.delegations.sum fun row => if scope.covers row then row.headroom now else 0

def orgCeilingMicros (db : DelegationDb) (orgId : OrgId) (network : Network) : Option Nat :=
  (db.ceilings.find? (orgId, network)).map OrgDelegationCeilingRow.ceiling_usdc

/-- The first half of `assertDelegationWithinCeilings` -/
def assertWithinOrgCeiling (total : Nat) (configured : Option Nat) : Except Failure Unit :=
  match configured with
  | none => .ok ()
  | some ceiling =>
    if ceiling < total then
      .error (conflict "org_delegation_ceiling_exceeded"
        ("This delegation would bring total delegated spend to " ++ formatUsdc total ++
          " USDC, above the org ceiling of " ++ formatUsdc ceiling ++ " USDC."))
    else .ok ()

def assertSolvent (total balanceMicros : Nat) : Except Failure Unit :=
  if balanceMicros < total then
    .error (conflict "treasury_insufficient_for_ceiling"
      ("The treasury holds " ++ formatUsdc balanceMicros ++ " USDC but " ++ formatUsdc total ++
        " USDC would be delegated. Fund the treasury first."))
  else .ok ()

structure UserSigned where
  payerAddress : Address
  nonce : Nat
  deriving DecidableEq

structure RecordSignedDelegationInput where
  orgId : OrgId
  payerAgentId : Option AgentId
  payeeAgentId : Option AgentId
  payerTreasury : Bool
  payeeAddress : Address
  mode : PaymentMode
  chain : PaymentChain
  tokenAddress : Option Address
  ceilingUsdc : Nat
  expiresAt : Time
  userSigned : Option UserSigned
  deriving DecidableEq

structure DrawDownInput where
  delegationId : DelegationId
  amountUsdc : Nat
  deriving DecidableEq

structure RevokeDelegationInput where
  delegationId : DelegationId
  deriving DecidableEq

structure Payer where
  payerAddress : Address
  payerKind : PayerKind
  tokenAddress : Address
  deriving DecidableEq

def treasuryAddress? (db : DelegationDb) (orgId : OrgId) (network : Network) : Option Address :=
  match db.treasuries.find? (orgId, network) with
  | none => none
  | some wallet => if wallet.active then some wallet.address else none

def agentAddress? (db : DelegationDb) (agentId : AgentId) (network : Network) : Option Address :=
  match db.wallets.find? (agentId, network) with
  | none => none
  | some wallet => if wallet.active then some wallet.address else none

namespace RecordSignedDelegationInput

def network (input : RecordSignedDelegationInput) : Network := (input.mode, input.chain)

def payer (input : RecordSignedDelegationInput) (db : DelegationDb) : Except Failure (Address × PayerKind) :=
  match input.userSigned with
  | some signed => .ok (signed.payerAddress, .user)
  | none =>
    if input.payerTreasury then
      match treasuryAddress? db input.orgId input.network with
      | none => .error (.thrown "org_treasury_wallet_not_found")
      | some address => .ok (address, .treasury)
    else
      match input.payerAgentId with
      | none => .error (.thrown "delegation_payer_required")
      | some agentId =>
        match agentAddress? db agentId input.network with
        | none => .error (.thrown "agent_wallet_not_found")
        | some address => .ok (address, .agent)

def token (input : RecordSignedDelegationInput) : Except Failure Address :=
  match input.tokenAddress with
  | some address => .ok address
  | none => usdcTokenAddress input.mode input.chain

def resolve (input : RecordSignedDelegationInput) (db : DelegationDb) : Except Failure Payer :=
  match input.payer db with
  | .error failure => .error failure
  | .ok (payerAddress, payerKind) =>
    match input.token with
    | .error failure => .error failure
    | .ok tokenAddress => .ok ⟨payerAddress, payerKind, tokenAddress⟩

def scope (input : RecordSignedDelegationInput) (payer : Payer) : PayerScope :=
  ⟨input.orgId, payer.payerAddress, input.mode, input.chain, payer.tokenAddress⟩

def slot (input : RecordSignedDelegationInput) (payer : Payer) : AllowanceSlot :=
  ⟨input.network, payer.payerAddress.account, payer.tokenAddress.account, input.payeeAddress.account⟩

end RecordSignedDelegationInput

/-- Permit2 recovers the owner from the signature, so any wallet of the platform may submit `permit`. -/
def resolvePermitSubmitter (db : DelegationDb) (input : RecordSignedDelegationInput) (payer : Payer) :
    Except Failure Address :=
  if payer.payerKind ≠ .user then .ok payer.payerAddress
  else
    match input.payeeAgentId.bind fun agentId => agentAddress? db agentId input.network with
    | some address => .ok address
    | none =>
      match treasuryAddress? db input.orgId input.network with
      | some address => .ok address
      | none => .error (.thrown "permit_submitter_unavailable")

def delegationRow (id : DelegationId) (input : RecordSignedDelegationInput) (payer : Payer) (nonce : Nat) :
    AgentDelegationRow where
  id
  org_id := input.orgId
  payer_agent_id := if payer.payerKind = .agent then input.payerAgentId else none
  payer_address := payer.payerAddress
  payee_agent_id := input.payeeAgentId
  payee_address := input.payeeAddress
  mode := input.mode
  chain := input.chain
  token_address := payer.tokenAddress
  ceiling_usdc := input.ceilingUsdc
  drawn_usdc := 0
  expires_at := input.expiresAt
  permit_nonce := nonce
  status := .active
  payer_kind := payer.payerKind

/-- The columns of `UNIQUE (payer_agent_id, payee_address, mode, chain, permit_nonce)`; a null is unlike any other. -/
def AgentDelegationRow.conflicts (row other : AgentDelegationRow) : Prop :=
  row.payer_agent_id.isSome ∧ row.payer_agent_id = other.payer_agent_id ∧ row.payee_address = other.payee_address ∧
    row.mode = other.mode ∧ row.chain = other.chain ∧ row.permit_nonce = other.permit_nonce

instance (row other : AgentDelegationRow) : Decidable (row.conflicts other) := inferInstanceAs (Decidable (_ ∧ _))

def insertDelegation (db : DelegationDb) (row : AgentDelegationRow) : Except Failure DelegationDb :=
  if row.ceiling_usdc = 0 then .error (.constraint "agent_delegations_ceiling_usdc_check")
  else if 10 ^ 20 ≤ row.ceiling_usdc then .error (.constraint "numeric_value_out_of_range")
  else if ∃ other ∈ db.delegations.rows, row.conflicts other then .error (.constraint "agent_delegations_unique")
  else
    match db.delegations.insert? row with
    | none => .error (.constraint "agent_delegations_pkey")
    | some delegations => .ok { db with delegations }

/-- The checks of `drawDown` on the locked row -/
def assertDrawable (now : Time) (delegation : AgentDelegationRow) (amountMicros : Nat) : Except Failure Unit :=
  if delegation.status = .revoked then .error (conflict "delegation_revoked" "This delegation has been revoked.")
  else if delegation.status ≠ .active then
    .error (conflict "delegation_not_active"
      ("Delegation is " ++ statusText delegation.status ++ ", not active."))
  else if delegation.expires_at ≤ now then
    .error (conflict "delegation_expired" "This delegation has expired.")
  else if delegation.ceiling_usdc < delegation.drawn_usdc + amountMicros then
    .error (conflict "delegation_ceiling_exceeded" "Drawdown would exceed the remaining delegation ceiling.")
  else .ok ()
where
  statusText : DelegationStatus → String
    | .pending => "pending"
    | .active => "active"
    | .exhausted => "exhausted"
    | .expired => "expired"
    | .revoked => "revoked"

/-- `UPDATE agent_delegations SET drawn_usdc, status` -/
def DelegationDb.setDrawn (db : DelegationDb) (id : DelegationId) (drawn : Nat) (status : DelegationStatus) : DelegationDb :=
  match db.delegations.find? id with
  | none => db
  | some row => { db with delegations := db.delegations.put { row with drawn_usdc := drawn, status } }

def DelegationDb.setRevoked (db : DelegationDb) (id : DelegationId) : DelegationDb :=
  match db.delegations.find? id with
  | none => db
  | some row => { db with delegations := db.delegations.put { row with status := .revoked } }

end AgentOps.Payments
