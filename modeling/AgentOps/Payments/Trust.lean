import AgentOps.Payments.DelegationRuns
import AgentOps.Payments.Tables

namespace AgentOps.Payments
open Lib Identity

/-! # Trust in payment destinations

The readers of the allowlist compare addresses up to letter case; its uniqueness constraint compares their texts. -/

abbrev AllowlistId := Nat

inductive DestinationSource where
  | marketplace
  | tenantConfigured
  | agentWallet
  deriving DecidableEq

inductive Author where
  | system
  | operator (id : ActorId)
  deriving DecidableEq

/-- A row of `payment_destination_allowlist` -/
structure DestinationRow where
  id : AllowlistId
  org_id : OrgId
  chain : PaymentChain
  address : Address
  label : String
  source : DestinationSource
  status : AllowlistStatus
  created_by : Author
  approved_by : Option ActorId
  deriving DecidableEq

namespace DestinationRow

/-- The columns of `UNIQUE (org_id, chain, address)` -/
def slot (row : DestinationRow) : OrgId × PaymentChain × Address := (row.org_id, row.chain, row.address)

/-- `org_id = $1 AND chain = $2 AND lower(address) = lower($3)` -/
def Names (row : DestinationRow) (orgId : OrgId) (chain : PaymentChain) (address : Address) : Prop :=
  row.org_id = orgId ∧ row.chain = chain ∧ row.address.account = address.account

instance (row : DestinationRow) (orgId : OrgId) (chain : PaymentChain) (address : Address) :
    Decidable (row.Names orgId chain address) := inferInstanceAs (Decidable (_ ∧ _))

end DestinationRow

structure DestinationAllowlist where
  table : Table DestinationRow.id
  unique : (table.rows.map DestinationRow.slot).Nodup

namespace DestinationAllowlist

instance : Membership DestinationRow DestinationAllowlist := ⟨fun list row => row ∈ list.table⟩

def empty : DestinationAllowlist := ⟨.empty, List.nodup_nil⟩

def Lists (list : DestinationAllowlist) (orgId : OrgId) (chain : PaymentChain) (address : Address) : Prop :=
  ∃ row ∈ list.table.rows, row.slot = (orgId, chain, address)

instance (list : DestinationAllowlist) (orgId : OrgId) (chain : PaymentChain) (address : Address) :
    Decidable (list.Lists orgId chain address) := inferInstanceAs (Decidable (∃ row ∈ _, _))

def insert? (list : DestinationAllowlist) (row : DestinationRow) : Option DestinationAllowlist :=
  if unlisted : row.slot ∉ list.table.rows.map DestinationRow.slot then
    match inserted : list.table.insert? row with
    | none => none
    | some table => some ⟨table, by
        rw [(Table.insert?_eq_some inserted).1, List.map_cons]
        exact List.nodup_cons.2 ⟨unlisted, list.unique⟩⟩
  else none

/-- `ON CONFLICT (org_id, chain, address) DO NOTHING`, under a new id -/
def insertUnlessListed (list : DestinationAllowlist) (row : DestinationRow) : DestinationAllowlist :=
  (list.insert? row).getD list

def rewrite (list : DestinationAllowlist) (f : DestinationRow → DestinationRow) (keepsId : ∀ row, (f row).id = row.id)
    (keepsSlot : ∀ row, (f row).slot = row.slot) : DestinationAllowlist where
  table := list.table.rewrite f keepsId
  unique := by
    have slots : DestinationRow.slot ∘ f = DestinationRow.slot := funext keepsSlot
    rw [Table.rewrite, List.map_map, slots]
    exact list.unique

def revoke (row : DestinationRow) (id : AllowlistId) : DestinationRow :=
  if row.id = id then { row with status := .revoked } else row

def setRevoked (list : DestinationAllowlist) (id : AllowlistId) : DestinationAllowlist :=
  list.rewrite (revoke · id) (fun row => by unfold revoke; split <;> rfl) (fun row => by unfold revoke; split <;> rfl)

def reactivate (row : DestinationRow) (id : AllowlistId) (approvedBy : ActorId) (label : String) : DestinationRow :=
  if row.id = id then { row with status := .active, approved_by := some approvedBy, label } else row

def setActive (list : DestinationAllowlist) (id : AllowlistId) (approvedBy : ActorId) (label : String) :
    DestinationAllowlist :=
  list.rewrite (reactivate · id approvedBy label) (fun row => by unfold reactivate; split <;> rfl)
    (fun row => by unfold reactivate; split <;> rfl)

/-- `rows[0]` of the rows that name an address, in an order the database does not promise; `none` when the row read is
not one of them. -/
def readFirst (list : DestinationAllowlist) (orgId : OrgId) (chain : PaymentChain) (address : Address) :
    Option AllowlistId → Option (Option DestinationRow)
  | none => if ∃ row ∈ list.table.rows, row.Names orgId chain address then none else some none
  | some id =>
    match list.table.find? id with
    | none => none
    | some row => if row.Names orgId chain address then some (some row) else none

end DestinationAllowlist

/-- The columns of `escrow_jobs` that count as evidence -/
structure EscrowHistoryRow where
  org_id : OrgId
  chain : PaymentChain
  mode : PaymentMode
  provider_address : Address
  state : EscrowState
  budget_usdc : Nat
  deriving DecidableEq

structure TrustWorld where
  delegations : DelegationWorld
  allowlist : DestinationAllowlist
  escrowJobs : List EscrowHistoryRow

structure TrustEvidence where
  completedCount : Nat
  rejectedCount : Nat
  expiredCount : Nat
  settledUsdc : String
  trusted : Bool
  jobs : List EscrowHistoryRow
  deriving DecidableEq

def queryTrustEvidence (s : TrustWorld) (orgId : OrgId) (chain : PaymentChain) (mode : PaymentMode) (address : Address) :
    TrustEvidence :=
  let jobs := s.escrowJobs.filter fun job =>
    job.org_id = orgId ∧ job.chain = chain ∧ job.mode = mode ∧ job.provider_address.account = address.account
  { completedCount := jobs.countP (·.state = .completed)
    rejectedCount := jobs.countP (·.state = .rejected)
    expiredCount := jobs.countP (·.state = .expired)
    settledUsdc := formatUsdc ((jobs.filter (·.state = .completed)).map (·.budget_usdc)).sum
    trusted := s.allowlist.table.rows.any fun row => row.Names orgId chain address ∧ row.status = .active
    jobs }

def assertTrustable (evidence : TrustEvidence) : Except Failure Unit :=
  if evidence.completedCount = 0 then
    .error (conflict "trust_requires_escrow_history"
      ("trust_requires_escrow_history: this address has no completed escrow jobs with this org, so there is " ++
        "nothing here for a human to have reviewed."))
  else if evidence.trusted then
    .error (conflict "agent_already_trusted" "agent_already_trusted: this address is already trusted on this chain.")
  else .ok ()

/-! ## The calls

What a call cannot decide is an argument of its own: whether its statements and its commit succeed, which of several rows
it reads first, and how the delegation calls it makes come out. -/

inductive TrustOutcome where
  | trusted (allowlistId : AllowlistId) (delegationId : DelegationId)
  | authorized (allowlistId : AllowlistId) (alreadyAuthorized : Bool)
  | payee (address : Address) (agentId : AgentId)
  | revoked
  | threw (failure : Option Failure)
  deriving DecidableEq

structure TrustExternalAgentInput where
  orgId : OrgId
  chain : PaymentChain
  mode : PaymentMode
  address : Address
  label : String
  ceilingUsdc : Nat
  expiresAt : Time
  approvedBy : ActorId
  deriving DecidableEq

def TrustExternalAgentInput.delegation (input : TrustExternalAgentInput) : RecordSignedDelegationInput where
  orgId := input.orgId
  payerAgentId := none
  payeeAgentId := none
  payerTreasury := true
  payeeAddress := input.address
  mode := input.mode
  chain := input.chain
  tokenAddress := none
  ceilingUsdc := input.ceilingUsdc
  expiresAt := input.expiresAt
  userSigned := none

def TrustExternalAgentInput.row (input : TrustExternalAgentInput) (id : AllowlistId) : DestinationRow where
  id
  org_id := input.orgId
  chain := input.chain
  address := input.address
  label := input.label
  source := .marketplace
  status := .active
  created_by := .operator input.approvedBy
  approved_by := some input.approvedBy

structure TrustChance where
  reads : Bool
  callId : Nat
  script : List DelegationLabel
  commits : Bool
  deriving DecidableEq

def trustExternalAgent (s : TrustWorld) (input : TrustExternalAgentInput) (allowlistId : AllowlistId)
    (chance : TrustChance) : Option (TrustOutcome × TrustWorld) :=
  if chance.reads = false then some (.threw none, s)
  else
    match assertTrustable (queryTrustEvidence s input.orgId input.chain input.mode input.address) with
    | .error failure => some (.threw (some failure), s)
    | .ok () =>
      match s.delegations.perform chance.callId (.recordSignedDelegation input.delegation) chance.script with
      | none => none
      | some (some (.granted delegation _), delegations) =>
        if chance.commits then
          some (.trusted allowlistId delegation.id,
            { s with delegations, allowlist := s.allowlist.insertUnlessListed (input.row allowlistId) })
        else some (.threw none, { s with delegations })
      | some (_, delegations) => some (.threw none, { s with delegations })

structure RevokeTrustInput where
  orgId : OrgId
  chain : PaymentChain
  mode : PaymentMode
  address : Address
  deriving DecidableEq

structure Revocation where
  delegationId : DelegationId
  callId : Nat
  script : List DelegationLabel
  deriving DecidableEq

structure RevokeChance where
  reads : Bool
  first : Option AllowlistId
  revocations : List Revocation
  commits : Bool
  deriving DecidableEq

def AgentDelegationRow.Pays (row : AgentDelegationRow) (input : RevokeTrustInput) : Prop :=
  row.org_id = input.orgId ∧ row.chain = input.chain ∧ row.mode = input.mode ∧
    row.payee_address.account = input.address.account

instance (row : AgentDelegationRow) (input : RevokeTrustInput) : Decidable (row.Pays input) :=
  inferInstanceAs (Decidable (_ ∧ _))

def activeDelegations (db : DelegationDb) (input : RevokeTrustInput) : List DelegationId :=
  (db.delegations.rows.filter fun row => row.Pays input ∧ row.status = .active).map (·.id)

def revokeAll (s : DelegationWorld) : List Revocation → Option (Bool × DelegationWorld)
  | [] => some (true, s)
  | revocation :: rest =>
    match s.perform revocation.callId (.revokeDelegation ⟨revocation.delegationId⟩) revocation.script with
    | none => none
    | some (none, s') => some (false, s')
    | some (some _, s') => revokeAll s' rest

def assertTrusted (first : Option DestinationRow) : Except Failure DestinationRow :=
  match first.filter (·.status = .active) with
  | some row => .ok row
  | none =>
    .error (conflict "agent_not_trusted" "agent_not_trusted: this address is not currently trusted on this chain.")

def revokeTrust (s : TrustWorld) (input : RevokeTrustInput) (chance : RevokeChance) :
    Option (TrustOutcome × TrustWorld) :=
  if chance.reads = false then some (.threw none, s)
  else
    match s.allowlist.readFirst input.orgId input.chain input.address chance.first with
    | none => none
    | some first =>
      match assertTrusted first with
      | .error failure => some (.threw (some failure), s)
      | .ok row =>
        if (chance.revocations.map (·.delegationId)).Perm (activeDelegations s.delegations.db input) then
          match revokeAll s.delegations chance.revocations with
          | none => none
          | some (done, delegations) =>
            if done && chance.commits then
              some (.revoked, { s with delegations, allowlist := s.allowlist.setRevoked row.id })
            else some (.threw none, { s with delegations })
        else none

structure AuthorizeDestinationInput where
  orgId : OrgId
  chain : PaymentChain
  address : Address
  label : String
  approvedBy : ActorId
  deriving DecidableEq

def AuthorizeDestinationInput.row (input : AuthorizeDestinationInput) (id : AllowlistId) : DestinationRow where
  id
  org_id := input.orgId
  chain := input.chain
  address := input.address
  label := input.label
  source := .marketplace
  status := .active
  created_by := .operator input.approvedBy
  approved_by := some input.approvedBy

structure AuthorizeChance where
  reads : Bool
  first : Option AllowlistId
  writes : Bool
  deriving DecidableEq

def authorizeMarketplaceDestination (s : TrustWorld) (input : AuthorizeDestinationInput) (allowlistId : AllowlistId)
    (chance : AuthorizeChance) : Option (TrustOutcome × TrustWorld) :=
  if chance.reads = false then some (.threw none, s)
  else
    match s.allowlist.readFirst input.orgId input.chain input.address chance.first with
    | none => none
    | some (some row) =>
      if row.status = .active then some (.authorized row.id true, s)
      else if chance.writes then
        some (.authorized row.id false,
          { s with allowlist := s.allowlist.setActive row.id input.approvedBy input.label })
      else some (.threw none, s)
    | some none =>
      if chance.writes then
        match s.allowlist.insert? (input.row allowlistId) with
        | none => some (.threw (some (.constraint "payment_destination_allowlist_org_id_chain_address_key")), s)
        | some allowlist => some (.authorized allowlistId false, { s with allowlist })
      else some (.threw none, s)

structure ResolveAgentPayeeInput where
  orgId : OrgId
  agentId : AgentId
  mode : PaymentMode
  chain : PaymentChain
  deriving DecidableEq

def ResolveAgentPayeeInput.row (input : ResolveAgentPayeeInput) (id : AllowlistId) (address : Address) :
    DestinationRow where
  id
  org_id := input.orgId
  chain := input.chain
  address
  label := "Fleet agent " ++ toString input.agentId
  source := .agentWallet
  status := .active
  created_by := .system
  approved_by := none

def agentWalletNotFound (chain : PaymentChain) : Failure :=
  conflict "agent_wallet_not_found"
    ("This agent has no active wallet on " ++ chain.name ++
      ". Grant it payment access with a dedicated wallet on a " ++ chain.name ++
      " rail, and wait for provisioning to finish, then try again.")

def resolveAgentPayee (s : TrustWorld) (input : ResolveAgentPayeeInput) (allowlistId : AllowlistId)
    (reads writes : Bool) : Option (TrustOutcome × TrustWorld) :=
  if reads = false then some (.threw none, s)
  else
    match agentAddress? s.delegations.db input.agentId (input.mode, input.chain) with
    | none => some (.threw (some (agentWalletNotFound input.chain)), s)
    | some address =>
      if writes then
        some (.payee address input.agentId,
          { s with allowlist := s.allowlist.insertUnlessListed (input.row allowlistId address) })
      else some (.threw none, s)

inductive TrustLabel where
  | trustExternalAgent (input : TrustExternalAgentInput) (allowlistId : AllowlistId) (chance : TrustChance)
  | authorizeMarketplaceDestination (input : AuthorizeDestinationInput) (allowlistId : AllowlistId)
    (chance : AuthorizeChance)
  | resolveAgentPayee (input : ResolveAgentPayeeInput) (allowlistId : AllowlistId) (reads writes : Bool)
  | revokeTrust (input : RevokeTrustInput) (chance : RevokeChance)
  deriving DecidableEq

def TrustLabel.fresh? : TrustLabel → Option AllowlistId
  | .trustExternalAgent _ id _ | .authorizeMarketplaceDestination _ id _ | .resolveAgentPayee _ id _ _ => some id
  | .revokeTrust _ _ => none

def trustCall (s : TrustWorld) (label : TrustLabel) : Option (TrustOutcome × TrustWorld) :=
  if label.fresh?.all fun id => (s.allowlist.table.find? id).isNone then
    match label with
    | .trustExternalAgent input id chance => trustExternalAgent s input id chance
    | .authorizeMarketplaceDestination input id chance => authorizeMarketplaceDestination s input id chance
    | .resolveAgentPayee input id reads writes => resolveAgentPayee s input id reads writes
    | .revokeTrust input chance => revokeTrust s input chance
  else none

def trustStep (s : TrustWorld) (label : TrustLabel) : Option TrustWorld := (trustCall s label).map Prod.snd

end AgentOps.Payments
