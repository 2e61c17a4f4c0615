import AgentOps.Payments.AttemptStore

namespace AgentOps.Payments
open Lib Identity

/-! # Operations that operators start -/

def Db.unknownEvents (db : Db) (reservationId : ReservationId) : List PaymentEventRow :=
  db.events.rows.filter fun event => event.reservation_id = reservationId ∧ event.result.isUnknown

inductive ResolveUnknownAttemptOutcome where
  | failed
  | settled
  deriving DecidableEq

def resolvedPosting (row : PaymentReservationRow) (entryType : LedgerEntryType) (reasonCode createdBy : String) :
    LedgerPostingRow where
  org_id := row.org_id
  agent_id := row.agent_id
  mode := orgPaymentMode
  chain := none
  entry_type := entryType
  amount_usdc := row.amount_usdc
  reservation_id := some row.id
  attempt_id := none
  reason_code := reasonCode
  created_by := createdBy

def resolveUnknownAttempt (db : Db) (actorId : String) (orgId : OrgId) (reservationId : ReservationId)
    (outcome : ResolveUnknownAttemptOutcome) : Except Failure Db :=
  match (db.reservations.find? reservationId).filter fun row => row.org_id = orgId ∧ row.status = .reserved with
  | none => .error (notFound "Unknown attempt reservation was not found.")
  | some row =>
    if !(db.unknownEvents reservationId).any fun event => event.org_id = orgId then
      .error (badRequest "not_an_unknown_attempt" "Reservation is not in an unknown-status attempt.")
    else match outcome with
      | .failed =>
        match (db.closeReservation row.id row.org_id .released).subReserved row.account row.amount_usdc with
        | .error failure => .error failure
        | .ok db => .ok (db.writePosting (resolvedPosting row .release "unknown_attempt_resolved_failed" actorId))
      | .settled =>
        match (db.closeReservation row.id row.org_id .settled).moveToSpent row.account row.amount_usdc with
        | .error failure => .error failure
        | .ok db => .ok (db.writePosting (resolvedPosting row .settle "unknown_attempt_resolved_settled" actorId))

def setOrgFrozen (db : Db) (orgId : OrgId) (frozen : Bool) : Except Failure Db :=
  match db.orgs.find? orgId with
  | none => .error (notFound "Org was not found.")
  | some row => .ok { db with orgs := db.orgs.put { row with frozen } }

def freezeOrg (db : Db) (orgId : OrgId) : Except Failure Db := setOrgFrozen db orgId true

def unfreezeOrg (db : Db) (orgId : OrgId) : Except Failure Db := setOrgFrozen db orgId false

def setAgentStatus (db : Db) (orgId : OrgId) (agentId : AgentId) (status : AgentStatus) : Except Failure Db :=
  match (db.agents.find? agentId).filter fun row => row.org_id = orgId with
  | none => .error (notFound "Agent was not found.")
  | some row => .ok { db with agents := db.agents.put { row with status } }

structure SetAgentPaymentAccessInput where
  status : PaymentAccessStatus
  allowed_rails : List PaymentRail
  budget_usdc : Nat
  per_request_cap_usdc : Nat
  approval_threshold_usdc : Option Nat

def setAgentPaymentAccess (db : Db) (orgId : OrgId) (agentId : AgentId) (input : SetAgentPaymentAccessInput) :
    Except Failure Db :=
  match (db.agents.find? agentId).filter fun row => row.org_id = orgId with
  | none => .error (notFound "Agent was not found.")
  | some _ =>
    match db.accounts.find? (orgId, agentId) with
    | some row =>
      let updated :=
        { row with
          status := input.status, payment_access := input.status = .active, budget_usdc := input.budget_usdc
          per_request_cap_usdc := input.per_request_cap_usdc
          approval_threshold_usdc := input.approval_threshold_usdc, allowed_rails := input.allowed_rails }
      .ok { db with accounts := db.accounts.put updated }
    | none =>
      match db.accounts.insert?
        { org_id := orgId, agent_id := agentId, status := input.status, payment_access := input.status = .active
          allowed_rails := input.allowed_rails, budget_usdc := input.budget_usdc, spent_usdc := 0, reserved_usdc := 0
          per_request_cap_usdc := input.per_request_cap_usdc
          approval_threshold_usdc := input.approval_threshold_usdc } with
      | none => .error (.constraint "agent_payment_accounts_org_id_agent_id_key")
      | some accounts => .ok { db with accounts }

def setDestination (db : Db) (row : AllowlistRow) : Db :=
  match db.allowlist.insert? row with
  | some allowlist => { db with allowlist }
  | none => { db with allowlist := db.allowlist.put row }

def createPaymentSource (db : Db) (row : PaymentSourceRow) : Except Failure Db :=
  match db.sources.insert? row with
  | none => .error (.constraint "payment_sources_pkey")
  | some sources => .ok { db with sources }

def syncPaymentSource (db : Db) (id : SourceId) (address externalWalletId : Option String) : Db :=
  match db.sources.find? id with
  | none => db
  | some row => { db with sources := db.sources.put { row with address, external_wallet_id := externalWalletId } }

end AgentOps.Payments
