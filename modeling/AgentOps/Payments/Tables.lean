import AgentOps.Approvals.Store
import AgentOps.Payments.Quote

namespace AgentOps.Payments
open Lib Identity

inductive X402AttemptStatus where
  | reserved
  | submitting
  | settled
  | failed
  | unknown
  deriving DecidableEq

inductive ReservationStatus where
  | reserved
  | settled
  | released
  deriving DecidableEq

/-- `x402_attempt:<id>` or `escrow_job:<id>` -/
inductive ReasonCode where
  | x402Attempt (id : AttemptId)
  | escrowJob (id : EscrowJobId)
  deriving DecidableEq

inductive ProviderMode where
  | simulation
  | mode (mode : PaymentMode)
  deriving DecidableEq

inductive ProviderPaymentStatus where
  | settled
  | failed
  | unknown
  deriving DecidableEq

structure ProviderPayment where
  errorCode : Option String
  network : String
  payer : Option String
  status : ProviderPaymentStatus
  transaction : Option String
  deriving DecidableEq

structure PaidHttpResponse where
  contentType : Option String
  sizeBytes : Nat
  status : Nat
  deriving DecidableEq

structure RuntimeX402SettlementResult where
  errorReason : Option String
  network : String
  payment : Option ProviderPayment
  providerMode : ProviderMode
  response : Option PaidHttpResponse
  success : Bool
  deriving DecidableEq

structure RuntimeX402PaymentTruth where
  id : Option EventId
  attemptId : AttemptId
  status : X402AttemptStatus
  providerMode : Option ProviderMode
  rail : PaymentRail
  chain : PaymentChain
  amount : Nat
  agentId : AgentId
  connectionId : ConnectionId
  sourceId : SourceId
  reservationId : Option ReservationId
  recipient : String
  network : String
  transaction : Option String
  payer : Option String
  errorCode : Option String
  responseAvailable : Bool
  deriving DecidableEq

structure RuntimeX402PaymentResult where
  payment : RuntimeX402PaymentTruth
  response : Option PaidHttpResponse
  deriving DecidableEq

/-- What `encrypted_result` decrypts to: the final answer, or the provider's evidence before it is final. -/
inductive StoredResult where
  | result (providerEvidence : RuntimeX402SettlementResult) (result : RuntimeX402PaymentResult)
  | evidence (settlement : RuntimeX402SettlementResult)
  deriving DecidableEq

/-- `encrypted_result` and `result_expires_at`, which are null together. -/
structure Retained where
  content : StoredResult
  expires_at : Time
  deriving DecidableEq

structure QuotePayload where
  accept : RuntimeX402Accept
  resource : JsonObject
  mode : ProviderMode
  x402Network : String
  x402Amount : Nat

structure X402PaymentMetadata where
  approvalId : Option ApprovalId
  decisionId : Option DecisionId
  eventId : Option EventId
  payer : Option String
  providerMode : Option ProviderMode
  reservationId : Option ReservationId
  resumeReason : Option String
  transactionHash : Option String
  deriving DecidableEq

def X402PaymentMetadata.empty : X402PaymentMetadata := ⟨none, none, none, none, none, none, none, none⟩

/-- `metadata || others`: the fields that `others` has replace those of `metadata`. -/
def X402PaymentMetadata.merge (metadata others : X402PaymentMetadata) : X402PaymentMetadata where
  approvalId := others.approvalId.or metadata.approvalId
  decisionId := others.decisionId.or metadata.decisionId
  eventId := others.eventId.or metadata.eventId
  payer := others.payer.or metadata.payer
  providerMode := others.providerMode.or metadata.providerMode
  reservationId := others.reservationId.or metadata.reservationId
  resumeReason := others.resumeReason.or metadata.resumeReason
  transactionHash := others.transactionHash.or metadata.transactionHash

inductive AgentStatus where
  | active
  | paused
  | deactivated
  | retired
  | suspended
  deriving DecidableEq

structure OrgRow where
  id : OrgId
  frozen : Bool
  deriving DecidableEq

structure AgentRow where
  id : AgentId
  org_id : OrgId
  status : AgentStatus
  deriving DecidableEq

structure ConnectionRow where
  id : ConnectionId
  org_id : OrgId
  agent_id : AgentId
  deriving DecidableEq

structure AgentPaymentAccountRow where
  org_id : OrgId
  agent_id : AgentId
  status : PaymentAccessStatus
  payment_access : Bool
  allowed_rails : List PaymentRail
  budget_usdc : Nat
  spent_usdc : Nat
  reserved_usdc : Nat
  per_request_cap_usdc : Nat
  approval_threshold_usdc : Option Nat
  deriving DecidableEq

def AgentPaymentAccountRow.key (row : AgentPaymentAccountRow) : AccountId := (row.org_id, row.agent_id)

inductive AllowlistStatus where
  | active
  | revoked
  deriving DecidableEq

structure AllowlistRow where
  org_id : OrgId
  chain : PaymentChain
  address : String
  status : AllowlistStatus
  deriving DecidableEq

def AllowlistRow.key (row : AllowlistRow) : OrgId × PaymentChain × String := (row.org_id, row.chain, row.address)

structure PaymentSourceRow where
  id : SourceId
  org_id : OrgId
  provider : PaymentProvider
  rail : PaymentRail
  chain : PaymentChain
  status : PaymentAccessStatus
  address : Option String
  external_wallet_id : Option String
  simulated_balance_usdc : Nat
  created_at : Time
  deriving DecidableEq

structure X402AttemptRow where
  id : AttemptId
  org_id : OrgId
  agent_id : AgentId
  connection_id : ConnectionId
  source_id : SourceId
  idempotency_key : String
  request_hash : Hash
  quote_hash : Hash
  amount_usdc : Nat
  rail : PaymentRail
  network : String
  recipient : String
  status : X402AttemptStatus
  payment_metadata : X402PaymentMetadata
  retained : Option Retained
  error_code : Option String
  deriving DecidableEq

structure PaymentReservationRow where
  id : ReservationId
  org_id : OrgId
  agent_id : AgentId
  connection_id : Option ConnectionId
  source_id : SourceId
  amount_usdc : Nat
  rail : PaymentRail
  status : ReservationStatus
  reason_code : ReasonCode
  quote_hash : Hash
  /-- The quote of an x402 reservation. An escrow reservation stores a description of its job, which nothing reads. -/
  quote : Option QuotePayload
  expires_at : Time
  created_at : Time

def PaymentReservationRow.account (row : PaymentReservationRow) : AccountId := (row.org_id, row.agent_id)

inductive LedgerEntryType where
  | reserve
  | release
  | settle
  | topup
  | sweep
  | deposit
  | correction
  deriving DecidableEq

structure LedgerPostingRow where
  org_id : OrgId
  agent_id : AgentId
  mode : PaymentMode
  chain : Option PaymentChain
  entry_type : LedgerEntryType
  amount_usdc : Int
  reservation_id : Option ReservationId
  attempt_id : Option AttemptId
  reason_code : String
  created_by : String
  deriving DecidableEq

def LedgerPostingRow.account (row : LedgerPostingRow) : AccountId := (row.org_id, row.agent_id)

inductive PaymentEventDecision where
  | submitted
  | settled
  | failed
  deriving DecidableEq

/-- The `result` column of an event -/
inductive PaymentEventResult where
  | settled (network : String) (transaction : Option String)
  | terminal (error_code : String) (status : X402AttemptStatus)
  deriving DecidableEq

/-- `result->>'status' = 'unknown'` -/
def PaymentEventResult.isUnknown : PaymentEventResult → Bool
  | .terminal _ .unknown => true
  | _ => false

structure PaymentEventRow where
  id : EventId
  org_id : OrgId
  agent_id : AgentId
  connection_id : ConnectionId
  source_id : SourceId
  reservation_id : ReservationId
  decision : PaymentEventDecision
  provider_mode : ProviderMode
  rail : PaymentRail
  chain : PaymentChain
  amount_usdc : Nat
  recipient : String
  network : String
  quote : QuotePayload
  result : PaymentEventResult

inductive EscrowState where
  | open
  | funded
  | submitted
  | completed
  | rejected
  | expired
  deriving DecidableEq

structure EscrowJobRow where
  id : EscrowJobId
  org_id : OrgId
  client_agent_id : AgentId
  chain : PaymentChain
  onchain_job_id : Option Nat
  budget_usdc : Nat
  reservation_id : Option ReservationId
  state : EscrowState
  expires_at : Time
  deriving DecidableEq

structure Db where
  orgs : Table OrgRow.id
  agents : Table AgentRow.id
  connections : Table ConnectionRow.id
  accounts : Table AgentPaymentAccountRow.key
  allowlist : Table AllowlistRow.key
  sources : Table PaymentSourceRow.id
  attempts : Table X402AttemptRow.id
  reservations : Table PaymentReservationRow.id
  postings : List LedgerPostingRow
  events : Table PaymentEventRow.id
  escrowJobs : Table EscrowJobRow.id

structure Hashes where
  sha256Hex : QuotePayload → Hash
  approvalContextHash : ConnectionAuthResult → QuotePayload → Approvals.RequestBinding → Option Nat → Hash
  escrowQuoteHash : EscrowJobRow → Hash

namespace Db

/-- `UPDATE payment_reservations SET status = … WHERE id = … AND org_id = … AND status = 'reserved'`,
where nothing looks at the row count -/
def closeReservation (db : Db) (id : ReservationId) (orgId : OrgId) (status : ReservationStatus) : Db :=
  match db.reservations.find? id with
  | none => db
  | some row =>
    if row.org_id = orgId ∧ row.status = .reserved then
      { db with reservations := db.reservations.put { row with status } }
    else db

def addReserved (db : Db) (account : AccountId) (amount : Nat) : Db :=
  match db.accounts.find? account with
  | none => db
  | some row => { db with accounts := db.accounts.put { row with reserved_usdc := row.reserved_usdc + amount } }

def reservedCheck : Failure := .constraint "agent_payment_accounts_reserved_usdc_check"

/-- `SET reserved_usdc = reserved_usdc - amount`, refused below zero by the column's `CHECK` -/
def subReserved (db : Db) (account : AccountId) (amount : Nat) : Except Failure Db :=
  match db.accounts.find? account with
  | none => .ok db
  | some row =>
    if row.reserved_usdc < amount then .error reservedCheck
    else .ok { db with accounts := db.accounts.put { row with reserved_usdc := row.reserved_usdc - amount } }

/-- `SET reserved_usdc = reserved_usdc - amount, spent_usdc = spent_usdc + amount` -/
def moveToSpent (db : Db) (account : AccountId) (amount : Nat) : Except Failure Db :=
  match db.accounts.find? account with
  | none => .ok db
  | some row =>
    if row.reserved_usdc < amount then .error reservedCheck
    else
      let moved := { row with reserved_usdc := row.reserved_usdc - amount, spent_usdc := row.spent_usdc + amount }
      .ok { db with accounts := db.accounts.put moved }

def writePosting (db : Db) (posting : LedgerPostingRow) : Db := { db with postings := posting :: db.postings }

def insertEvent (db : Db) (event : PaymentEventRow) : Except Failure Db :=
  match db.events.insert? event with
  | none => .error (.constraint "payment_events_pkey")
  | some events => .ok { db with events }

end Db

end AgentOps.Payments
