import AgentOps.Payments.AttemptStore

namespace AgentOps.Payments
open Lib Identity

/-! # Escrow jobs and the reservations they drive -/

def escrowMinimumBudgetMicros : Nat := 10000

def escrowBudgetMicros (budget : Nat) : Except Failure Nat :=
  if budget < escrowMinimumBudgetMicros then
    .error (badRequest "escrow_uneconomic_for_amount"
      ("escrow_uneconomic_for_amount: escrow needs a budget of at least 0.01 USDC. Below that the five-plus " ++
        "state-changing transactions a job costs dominate the payment itself."))
  else .ok budget

structure CreateEscrowJobInput where
  orgId : OrgId
  clientAgentId : AgentId
  chain : PaymentChain
  budgetUsdc : Nat
  expiresAt : Time

/-- The row that `createEscrowJob` inserts once the chain has answered with a job id -/
def createEscrowJob (db : Db) (id : EscrowJobId) (onchainJobId : Nat) (input : CreateEscrowJobInput) :
    Except Failure Db :=
  match escrowBudgetMicros input.budgetUsdc with
  | .error failure => .error failure
  | .ok budget =>
    match db.escrowJobs.insert?
      { id, org_id := input.orgId, client_agent_id := input.clientAgentId, chain := input.chain
        onchain_job_id := some onchainJobId, budget_usdc := budget, reservation_id := none, state := .open
        expires_at := input.expiresAt } with
    | none => .error (.constraint "escrow_jobs_pkey")
    | some escrowJobs => .ok { db with escrowJobs }

/-- `ORDER BY rail ASC, created_at DESC` within one chain -/
def escrowSourceOrder (a b : PaymentSourceRow) : Prop :=
  a.rail.kind = .directExact ∧ b.rail.kind = .gateway ∨ a.rail.kind = b.rail.kind ∧ b.created_at ≤ a.created_at

instance : DecidableRel escrowSourceOrder := fun a b => by unfold escrowSourceOrder; infer_instance

/-- The reservation of an escrow job. Neither the budget of the agent's account nor its counters play a part. -/
def escrowReservation (hashes : Hashes) (now : Time) (id : ReservationId) (job : EscrowJobRow) (source : PaymentSourceRow) :
    PaymentReservationRow where
  id := id
  org_id := job.org_id
  agent_id := job.client_agent_id
  connection_id := none
  source_id := source.id
  amount_usdc := job.budget_usdc
  rail := source.rail
  status := .reserved
  reason_code := .escrowJob job.id
  quote_hash := hashes.escrowQuoteHash job
  quote := none
  expires_at := job.expires_at
  created_at := now

def reserveEscrowBudget (hashes : Hashes) (db : Db) (now : Time) (id : ReservationId) (job : EscrowJobRow) :
    Except Failure Db :=
  let active := db.sources.rows.filter fun row =>
    row.org_id = job.org_id ∧ row.chain = job.chain ∧ row.status = .active
  match (active.insertionSort escrowSourceOrder).head? with
  | none => .error (.thrown ("escrow_payment_source_not_found:" ++ job.chain.name))
  | some source =>
    match db.reservations.insert? (escrowReservation hashes now id job source) with
    | none => .error (.constraint "payment_reservations_pkey")
    | some reservations => .ok { db with reservations }

def EscrowState.text : EscrowState → String
  | .open => "open"
  | .funded => "funded"
  | .submitted => "submitted"
  | .completed => "completed"
  | .rejected => "rejected"
  | .expired => "expired"

/-- `onchain` is the outcome of the wallet lookup and of the set-budget, approve and fund transactions. -/
def fundEscrowJob (hashes : Hashes) (db : Db) (now : Time) (id : EscrowJobId) (reservationId : ReservationId)
    (onchain : Except Failure Unit) : Except Failure Db :=
  match db.escrowJobs.find? id with
  | none => .error (.thrown "escrow_job_not_found")
  | some job =>
    if job.state ≠ .open then
      .error (conflict "escrow_invalid_transition"
        ("escrow_invalid_transition: escrow job is " ++ job.state.text ++ ", and only an open job can be funded."))
    else if job.onchain_job_id = none then .error (.thrown ("escrow_onchain_job_id_missing:" ++ toString job.id))
    else match escrowBudgetMicros job.budget_usdc, onchain with
      | .error failure, _ => .error failure
      | .ok _, .error failure => .error failure
      | .ok _, .ok () =>
        match reserveEscrowBudget hashes db now reservationId job with
        | .error failure => .error failure
        | .ok db =>
          let funded := { job with state := .funded, reservation_id := some reservationId }
          .ok { db with escrowJobs := db.escrowJobs.put funded }

def escrowTransitions : EscrowState → List EscrowState
  | .funded => [.submitted]
  | .submitted => [.completed, .rejected, .expired]
  | _ => []

def assertEscrowTransition (job : EscrowJobRow) (next : EscrowState) : Except Failure Unit :=
  if next ∈ escrowTransitions job.state then .ok ()
  else .error (conflict "escrow_invalid_transition"
    ("escrow_invalid_transition: escrow job is " ++ job.state.text ++ ", and " ++ next.text ++
      " is not reachable from there." ++
      (if next = .funded then " Funding is an approve-then-fund orchestration -- use fundEscrowJob." else "")))

def applyReservationOutcome (db : Db) (job : EscrowJobRow) (next : EscrowState) : Db :=
  match job.reservation_id, next with
  | some reservationId, .completed => db.closeReservation reservationId job.org_id .settled
  | some reservationId, .rejected => db.closeReservation reservationId job.org_id .released
  | some reservationId, .expired => db.closeReservation reservationId job.org_id .released
  | _, _ => db

/-- `sent` is the outcome of `sendEscrowTransition`. -/
def applyEscrowStateChange (db : Db) (id : EscrowJobId) (next : EscrowState) (sent : Except Failure Unit) :
    Except Failure Db :=
  match db.escrowJobs.find? id with
  | none => .error (.thrown "escrow_job_not_found")
  | some job =>
    match assertEscrowTransition job next with
    | .error failure => .error failure
    | .ok () =>
      if job.onchain_job_id = none then .error (.thrown ("escrow_onchain_job_id_missing:" ++ toString job.id))
      else match sent with
        | .error failure => .error failure
        | .ok () =>
          .ok (applyReservationOutcome { db with escrowJobs := db.escrowJobs.put { job with state := next } } job next)

structure OnchainEscrowJob where
  state : EscrowState
  budgetMicros : Nat
  deriving DecidableEq

def reconcileEscrowJob (db : Db) (id : EscrowJobId) (onchain : Except Failure OnchainEscrowJob) : Except Failure Db :=
  match db.escrowJobs.find? id with
  | none => .error (.thrown "escrow_job_not_found")
  | some job =>
    if job.onchain_job_id = none then .error (.thrown ("escrow_onchain_job_id_missing:" ++ toString job.id))
    else match onchain with
      | .error failure => .error failure
      | .ok onchain =>
        let budgetDrifted := 0 < onchain.budgetMicros ∧ onchain.budgetMicros ≠ job.budget_usdc
        if onchain.state = job.state ∧ ¬budgetDrifted then .ok db
        else
          let budget := if budgetDrifted then onchain.budgetMicros else job.budget_usdc
          let corrected := { job with state := onchain.state, budget_usdc := budget }
          .ok (applyReservationOutcome { db with escrowJobs := db.escrowJobs.put corrected } job onchain.state)

end AgentOps.Payments
