import AgentOps.Payments.Tables
import Mathlib.Data.List.Sort

namespace AgentOps.Payments
open Lib Identity Approvals

/-- The mode of every org: the table's `CHECK` admits `test` only. -/
def orgPaymentMode : PaymentMode := .test

def stateConflict : Failure :=
  conflict "payment_attempt_state_conflict" "The payment attempt is not in the required state."

def scopeInvalid : Failure :=
  IdentityError.mk "payment_attempt_scope_invalid" 404 "The payment attempt was not found in this tenant scope."

def idempotencyConflict : Failure :=
  conflict "payment_idempotency_conflict" "This idempotency key is already bound to a different payment request."

/-- `result_expires_at <= now()` -/
def X402AttemptRow.resultExpired (row : X402AttemptRow) (now : Time) : Bool :=
  match row.retained with
  | none => false
  | some retained => retained.expires_at ≤ now

def X402AttemptRow.scrub (row : X402AttemptRow) (now : Time) : X402AttemptRow :=
  if row.resultExpired now then { row with retained := none } else row

def Db.attemptFor (db : Db) (connectionId : ConnectionId) (idempotencyKey : String) : Option X402AttemptRow :=
  db.attempts.rows.find? fun row => row.connection_id = connectionId ∧ row.idempotency_key = idempotencyKey

def findAttempt (db : Db) (now : Time) (connectionId : ConnectionId) (idempotencyKey : String) :
    Db × Option X402AttemptRow :=
  match db.attemptFor connectionId idempotencyKey with
  | none => (db, none)
  | some row => ({ db with attempts := db.attempts.put (row.scrub now) }, some (row.scrub now))

def maxResultPurgeBatchLimit : Nat := 1000

def expiryOrder (a b : X402AttemptRow) : Prop :=
  let expiry (row : X402AttemptRow) := (row.retained.map Retained.expires_at).getD 0
  expiry a < expiry b ∨ expiry a = expiry b ∧ a.id ≤ b.id

instance : DecidableRel expiryOrder := fun a b => by unfold expiryOrder; infer_instance

/-- `locked` are the rows that other transactions hold, which `SKIP LOCKED` passes over. -/
def purgeExpiredX402Results (db : Db) (now : Time) (locked : List AttemptId) (batchLimit : Nat) : Db :=
  let expired := db.attempts.rows.filter fun row => row.resultExpired now ∧ row.id ∉ locked
  let batch := (expired.insertionSort expiryOrder).take (min batchLimit maxResultPurgeBatchLimit)
  { db with attempts := batch.foldl (fun attempts row => attempts.put (row.scrub now)) db.attempts }

structure CreateX402AttemptInput where
  orgId : OrgId
  agentId : AgentId
  connectionId : ConnectionId
  sourceId : SourceId
  idempotencyKey : String
  requestHash : Hash
  quoteHash : Hash
  amountUsdc : Nat
  rail : PaymentRail
  network : String
  recipient : String

def attemptOf (id : AttemptId) (input : CreateX402AttemptInput) : X402AttemptRow where
  id := id
  org_id := input.orgId
  agent_id := input.agentId
  connection_id := input.connectionId
  source_id := input.sourceId
  idempotency_key := input.idempotencyKey
  request_hash := input.requestHash
  quote_hash := input.quoteHash
  amount_usdc := input.amountUsdc
  rail := input.rail
  network := input.network
  recipient := input.recipient
  status := .reserved
  payment_metadata := .empty
  retained := none
  error_code := none

def validScope (db : Db) (input : CreateX402AttemptInput) : Bool :=
  (db.connections.find? input.connectionId).any (fun row => row.org_id = input.orgId ∧ row.agent_id = input.agentId) &&
    (db.agents.find? input.agentId).any (fun row => row.org_id = input.orgId) &&
    (db.sources.find? input.sourceId).any fun row => row.org_id = input.orgId

def createAttempt (db : Db) (now : Time) (id : AttemptId) (input : CreateX402AttemptInput) :
    Except Failure (Db × X402AttemptRow) :=
  if !validScope db input then .error scopeInvalid
  else match db.attemptFor input.connectionId input.idempotencyKey with
    | none =>
      match db.attempts.insert? (attemptOf id input) with
      | none => .error (.constraint "runtime_payment_attempts_pkey")
      | some attempts => .ok ({ db with attempts }, attemptOf id input)
    | some row =>
      if row.request_hash ≠ input.requestHash then .error idempotencyConflict
      else .ok ({ db with attempts := db.attempts.put (row.scrub now) }, row.scrub now)

def Db.scopedAttempt (db : Db) (id : AttemptId) (auth : ConnectionAuthResult) (status : X402AttemptStatus) :
    Except Failure X402AttemptRow :=
  match db.attempts.find? id with
  | none => .error scopeInvalid
  | some row =>
    if row.org_id ≠ auth.org_id ∨ row.connection_id ≠ auth.connection_id then .error scopeInvalid
    else if row.status ≠ status then .error stateConflict
    else .ok row

def markSubmitting (db : Db) (auth : ConnectionAuthResult) (id : AttemptId) : Except Failure Db :=
  match db.scopedAttempt id auth .reserved with
  | .error failure => .error failure
  | .ok row => .ok { db with attempts := db.attempts.put { row with status := .submitting } }

structure StrandedCandidate where
  amount_usdc : Nat
  attempt_id : AttemptId
  error_code : String
  reservation_id : ReservationId
  expires_at : Time
  deriving DecidableEq

def attemptApproval (approvals : Requests) (attempt : X402AttemptRow) : Option ApprovalRow :=
  (attempt.payment_metadata.approvalId.bind approvals.find?).filter fun approval =>
    approval.org_id = attempt.org_id ∧ approval.agent_id = attempt.agent_id ∧
      approval.connection_id = attempt.connection_id

def approvalLapsed (approval : ApprovalRow) (now : Time) : Bool :=
  (approval.status = .pending ∨ approval.status = .approved) ∧ approval.expires_at ≤ now

def strandedErrorCode (approval : Option ApprovalRow) (now : Time) : String :=
  match approval with
  | none => "payment_reservation_expired"
  | some approval =>
    if approval.status = .denied then "payment_approval_denied"
    else if approval.status = .expired ∨ approvalLapsed approval now then "payment_approval_expired"
    else "payment_reservation_expired"

def isStranded (approvals : Requests) (now : Time) (auth : ConnectionAuthResult) (attempt : X402AttemptRow)
    (reservation : PaymentReservationRow) : Bool :=
  attempt.org_id = auth.org_id ∧ attempt.agent_id = auth.agent_id ∧
    reservation.reason_code = .x402Attempt attempt.id ∧ reservation.org_id = attempt.org_id ∧
    reservation.agent_id = attempt.agent_id ∧ attempt.status = .reserved ∧ reservation.status = .reserved ∧
    (reservation.expires_at ≤ now ∨ (attemptApproval approvals attempt).any fun approval =>
      approval.status = .denied ∨ approval.status = .expired ∨ approvalLapsed approval now)

def candidateOf (approvals : Requests) (now : Time) (attempt : X402AttemptRow) (reservation : PaymentReservationRow) :
    StrandedCandidate where
  amount_usdc := reservation.amount_usdc
  attempt_id := attempt.id
  error_code := strandedErrorCode (attemptApproval approvals attempt) now
  reservation_id := reservation.id
  expires_at := reservation.expires_at

def candidateOrder (a b : StrandedCandidate) : Prop :=
  a.expires_at < b.expires_at ∨ a.expires_at = b.expires_at ∧ a.attempt_id ≤ b.attempt_id

instance : DecidableRel candidateOrder := fun a b => by unfold candidateOrder; infer_instance

/-- The candidates that `cancelStrandedReservedAttempts` selects -/
def strandedCandidates (db : Db) (approvals : Requests) (now : Time) (auth : ConnectionAuthResult) :
    List StrandedCandidate :=
  (db.attempts.rows.flatMap fun attempt =>
    (db.reservations.rows.filter (isStranded approvals now auth attempt)).map
      (candidateOf approvals now attempt)).insertionSort candidateOrder

/-- The three updates made for one candidate. A reservation that is no longer reserved is passed over. -/
def cancelCandidate (db : Db) (auth : ConnectionAuthResult) (candidate : StrandedCandidate) : Except Failure Db :=
  match db.reservations.find? candidate.reservation_id with
  | none => .ok db
  | some reservation =>
    if reservation.org_id ≠ auth.org_id ∨ reservation.status ≠ .reserved then .ok db
    else match db.accounts.find? (accountOf auth) with
      | none => .error (.thrown "payment_attempt_reserved_budget_invalid")
      | some account =>
        if account.reserved_usdc < candidate.amount_usdc then
          .error (.thrown "payment_attempt_reserved_budget_invalid")
        else match db.attempts.find? candidate.attempt_id with
          | none => .error (.thrown "payment_attempt_state_conflict")
          | some attempt =>
            if attempt.org_id ≠ auth.org_id ∨ attempt.agent_id ≠ auth.agent_id ∨ attempt.status ≠ .reserved then
              .error (.thrown "payment_attempt_state_conflict")
            else
              let debited := { account with reserved_usdc := account.reserved_usdc - candidate.amount_usdc }
              let failed := { attempt with status := .failed, error_code := some candidate.error_code }
              .ok { db with
                reservations := db.reservations.put { reservation with status := .released }
                accounts := db.accounts.put debited
                attempts := db.attempts.put failed }

/-- The loop of `cancelStrandedReservedAttempts`; it writes no posting. -/
def cancelCandidates (auth : ConnectionAuthResult) : Db → List StrandedCandidate → Except Failure Db
  | db, [] => .ok db
  | db, candidate :: candidates =>
    match cancelCandidate db auth candidate with
    | .error failure => .error failure
    | .ok db => cancelCandidates auth db candidates

structure DeathPredicate where
  validBeforeUnixSeconds : Nat
  authorizationUsed : Bool
  deriving DecidableEq

def isProvablyDead (proof : DeathPredicate) (nowUnixSeconds : Nat) : Bool :=
  nowUnixSeconds > proof.validBeforeUnixSeconds && !proof.authorizationUsed

def unixSeconds (now : Time) : Nat := now / 1000000

def releaseOnProof (db : Db) (now : Time) (reservationId : ReservationId) (proof : DeathPredicate) :
    Except Failure Db :=
  match db.reservations.find? reservationId with
  | none => .error (IdentityError.mk "reservation_not_found" 404 "Payment reservation was not found.")
  | some row =>
    match row.status with
    | .settled => .error (conflict "reservation_not_reserved" "Reservation is settled, not reserved.")
    | .released => .error (conflict "reservation_not_reserved" "Reservation is released, not reserved.")
    | .reserved =>
      if !isProvablyDead proof (unixSeconds now) then
        .error (badRequest "not_provably_dead"
          ("not_provably_dead: the authorization has not both expired and gone unused, so releasing now could " ++
            "double-count money that may still settle."))
      else match (db.closeReservation row.id row.org_id .released).subReserved row.account row.amount_usdc with
        | .error failure => .error failure
        | .ok db => .ok (db.writePosting
            { org_id := row.org_id, agent_id := row.agent_id, mode := orgPaymentMode, chain := none
              entry_type := .release, amount_usdc := row.amount_usdc, reservation_id := some row.id
              attempt_id := none, reason_code := "death_predicate_proven", created_by := "system" })

end AgentOps.Payments
