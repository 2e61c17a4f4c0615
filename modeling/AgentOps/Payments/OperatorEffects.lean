import AgentOps.Payments.Effects
import AgentOps.Payments.Escrow
import AgentOps.Payments.Operators

namespace AgentOps.Payments
open Lib Identity

/-! # What operators and escrow jobs do to the tables -/

inductive Resolved (db : Db) (actorId : String) (row : PaymentReservationRow) :
    ResolveUnknownAttemptOutcome → Db → Prop where
  | failed {accounts : Table AgentPaymentAccountRow.key}
      (counted : Recounted db.accounts row.account (· - row.amount_usdc) id accounts)
      (covers : Covers db.accounts row.account row.amount_usdc) :
      Resolved db actorId row .failed
        { db with
          reservations := db.reservations.put { row with status := .released }
          accounts
          postings := resolvedPosting row .release "unknown_attempt_resolved_failed" actorId :: db.postings }
  | settled {accounts : Table AgentPaymentAccountRow.key}
      (counted : Recounted db.accounts row.account (· - row.amount_usdc) (· + row.amount_usdc) accounts)
      (covers : Covers db.accounts row.account row.amount_usdc) :
      Resolved db actorId row .settled
        { db with
          reservations := db.reservations.put { row with status := .settled }
          accounts
          postings := resolvedPosting row .settle "unknown_attempt_resolved_settled" actorId :: db.postings }

theorem resolveUnknownAttempt_ok {db db' : Db} {actorId : String} {orgId : OrgId} {reservationId : ReservationId}
    {outcome : ResolveUnknownAttemptOutcome}
    (resolved : resolveUnknownAttempt db actorId orgId reservationId outcome = .ok db') :
    ∃ row, db.reservations.find? reservationId = some row ∧ row.status = .reserved ∧
      (∃ event ∈ db.events, event.reservation_id = reservationId ∧ event.result.isUnknown = true) ∧
      Resolved db actorId row outcome db' := by
  unfold resolveUnknownAttempt at resolved
  split at resolved
  · cases resolved
  rename_i row filtered
  obtain ⟨found, eligible⟩ := Option.filter_eq_some_iff.mp filtered
  have isOpen : row.status = .reserved := by simpa using (of_decide_eq_true eligible).2
  have located : db.reservations.find? row.id = some row := by rw [Table.key_of_find? found]; exact found
  split at resolved
  · cases resolved
  rename_i unknown
  have evidence : ∃ event ∈ db.events, event.reservation_id = reservationId ∧ event.result.isUnknown = true := by
    simp only [Db.unknownEvents, Bool.not_eq_true', Bool.not_eq_false, List.any_eq_true, List.mem_filter] at unknown
    obtain ⟨event, ⟨member, matched⟩, -⟩ := unknown
    exact ⟨event, member, by simpa using matched⟩
  refine ⟨row, found, isOpen, evidence, ?_⟩
  split at resolved
  · split at resolved
    · cases resolved
    · rename_i lowered
      rw [closeReservation_of_open _ located rfl isOpen] at lowered
      obtain ⟨accounts, rfl, counted, covers⟩ := subReserved_ok lowered
      obtain rfl := Except.ok.inj resolved
      exact .failed counted covers
  · split at resolved
    · cases resolved
    · rename_i moved
      rw [closeReservation_of_open _ located rfl isOpen] at moved
      obtain ⟨accounts, rfl, counted, covers⟩ := moveToSpent_ok moved
      obtain rfl := Except.ok.inj resolved
      exact .settled counted covers

theorem releaseOnProof_ok {db db' : Db} {now : Time} {reservationId : ReservationId} {proof : DeathPredicate}
    (released : releaseOnProof db now reservationId proof = .ok db') :
    ∃ row accounts, db.reservations.find? reservationId = some row ∧ row.status = .reserved ∧
      Recounted db.accounts row.account (· - row.amount_usdc) id accounts ∧
      Covers db.accounts row.account row.amount_usdc ∧
      db' = { db with
        reservations := db.reservations.put { row with status := .released }
        accounts
        postings :=
          { org_id := row.org_id, agent_id := row.agent_id, mode := orgPaymentMode, chain := none
            entry_type := .release, amount_usdc := row.amount_usdc, reservation_id := some row.id
            attempt_id := none, reason_code := "death_predicate_proven", created_by := "system" } :: db.postings } := by
  unfold releaseOnProof at released
  split at released
  · cases released
  rename_i row found
  have located : db.reservations.find? row.id = some row := by rw [Table.key_of_find? found]; exact found
  split at released
  · cases released
  · cases released
  rename_i isOpen
  split at released
  · cases released
  split at released
  · cases released
  rename_i lowered
  rw [closeReservation_of_open _ located rfl isOpen] at lowered
  obtain ⟨accounts, rfl, counted, covers⟩ := subReserved_ok lowered
  obtain rfl := Except.ok.inj released
  exact ⟨row, accounts, found, isOpen, counted, covers, rfl⟩

def AgentPaymentAccountRow.configure (row : AgentPaymentAccountRow) (input : SetAgentPaymentAccessInput) :
    AgentPaymentAccountRow :=
  { row with
    status := input.status, payment_access := input.status = .active, budget_usdc := input.budget_usdc
    per_request_cap_usdc := input.per_request_cap_usdc, approval_threshold_usdc := input.approval_threshold_usdc
    allowed_rails := input.allowed_rails }

inductive Configured (db : Db) (account : AccountId) (input : SetAgentPaymentAccessInput) : Db → Prop where
  | updated {row : AgentPaymentAccountRow} (found : db.accounts.find? account = some row) :
      Configured db account input { db with accounts := db.accounts.put (row.configure input) }
  | opened {row : AgentPaymentAccountRow} {accounts : Table AgentPaymentAccountRow.key} (key : row.key = account)
      (missing : db.accounts.find? account = none) (inserted : db.accounts.insert? row = some accounts)
      (unused : row.reserved_usdc = 0 ∧ row.spent_usdc = 0) (budget : row.budget_usdc = input.budget_usdc) :
      Configured db account input { db with accounts }

theorem setAgentPaymentAccess_ok {db db' : Db} {orgId : OrgId} {agentId : AgentId} {input : SetAgentPaymentAccessInput}
    (configured : setAgentPaymentAccess db orgId agentId input = .ok db') : Configured db (orgId, agentId) input db' := by
  unfold setAgentPaymentAccess at configured
  split at configured
  · cases configured
  split at configured
  · rename_i found
    obtain rfl := Except.ok.inj configured
    exact .updated found
  rename_i missing
  split at configured
  · cases configured
  rename_i inserted
  obtain rfl := Except.ok.inj configured
  exact .opened rfl missing inserted ⟨rfl, rfl⟩ rfl

theorem closeReservation_escrowJobs (db : Db) (id : ReservationId) (orgId : OrgId) (status : ReservationStatus)
    (escrowJobs : Table EscrowJobRow.id) :
    ({ db with escrowJobs }.closeReservation id orgId status).reservations =
      (db.closeReservation id orgId status).reservations := by
  unfold Db.closeReservation
  cases found : db.reservations.find? id with
  | none => rfl
  | some row => by_cases eligible : row.org_id = orgId ∧ row.status = .reserved <;> simp [eligible]

theorem createEscrowJob_ok {db db' : Db} {id : EscrowJobId} {onchainJobId : Nat} {input : CreateEscrowJobInput}
    (created : createEscrowJob db id onchainJobId input = .ok db') :
    ∃ job escrowJobs, (job.id = id ∧ job.chain = input.chain ∧ job.onchain_job_id = some onchainJobId) ∧ job.state = .open ∧
      job.reservation_id = none ∧ db.escrowJobs.insert? job = some escrowJobs ∧ db' = { db with escrowJobs } := by
  unfold createEscrowJob at created
  split at created
  · cases created
  split at created
  · cases created
  rename_i inserted
  obtain rfl := Except.ok.inj created
  exact ⟨_, _, ⟨rfl, rfl, rfl⟩, rfl, rfl, inserted, rfl⟩

inductive Funded (hashes : Hashes) (db : Db) (now : Time) (id : EscrowJobId) (reservationId : ReservationId) : Db → Prop where
  | funded {job : EscrowJobRow} {source : PaymentSourceRow} {reservations : Table PaymentReservationRow.id}
      (found : db.escrowJobs.find? id = some job) (isOpen : job.state = .open)
      (inserted : db.reservations.insert? (escrowReservation hashes now reservationId job source) = some reservations) :
      Funded hashes db now id reservationId
        { db with
          reservations
          escrowJobs := db.escrowJobs.put { job with state := .funded, reservation_id := some reservationId } }

theorem fundEscrowJob_ok {hashes : Hashes} {db db' : Db} {now : Time} {id : EscrowJobId} {reservationId : ReservationId}
    {onchain : Except Failure Unit} (funded : fundEscrowJob hashes db now id reservationId onchain = .ok db') :
    Funded hashes db now id reservationId db' := by
  unfold fundEscrowJob at funded
  split at funded
  · cases funded
  rename_i job found
  split at funded
  · cases funded
  rename_i isOpen
  split at funded
  · cases funded
  split at funded
  · cases funded
  · cases funded
  split at funded
  · cases funded
  rename_i reserved
  obtain rfl := Except.ok.inj funded
  unfold reserveEscrowBudget at reserved
  simp only at reserved
  split at reserved
  · cases reserved
  rename_i source _
  split at reserved
  · cases reserved
  rename_i reservations inserted
  obtain rfl := Except.ok.inj reserved
  exact .funded found (not_not.mp isOpen) inserted

structure JobMoved (db : Db) (job job' : EscrowJobRow) (db' : Db) : Prop where
  found : db.escrowJobs.find? job.id = some job
  same : job' = { job with state := job'.state, budget_usdc := job'.budget_usdc }
  tables : ∃ reservations, db' = { db with escrowJobs := db.escrowJobs.put job', reservations } ∧
    (reservations = db.reservations ∨ ∃ id status, job.reservation_id = some id ∧ status ≠ .reserved ∧
      reservations = (db.closeReservation id job.org_id status).reservations)

theorem applyReservationOutcome_cases (db : Db) (job : EscrowJobRow) (next : EscrowState) :
    ∃ reservations, applyReservationOutcome db job next = { db with reservations } ∧
      (reservations = db.reservations ∨ ∃ id status, job.reservation_id = some id ∧ status ≠ .reserved ∧
        reservations = (db.closeReservation id job.org_id status).reservations) := by
  unfold applyReservationOutcome
  split
  · rename_i reserved
    exact ⟨_, closeReservation_eq .., .inr ⟨_, _, reserved, by simp, rfl⟩⟩
  · rename_i reserved
    exact ⟨_, closeReservation_eq .., .inr ⟨_, _, reserved, by simp, rfl⟩⟩
  · rename_i reserved
    exact ⟨_, closeReservation_eq .., .inr ⟨_, _, reserved, by simp, rfl⟩⟩
  · exact ⟨_, rfl, .inl rfl⟩

theorem jobMoved_of {db : Db} {job job' : EscrowJobRow} {next : EscrowState} {id : EscrowJobId}
    (found : db.escrowJobs.find? id = some job)
    (same : job' = { job with state := job'.state, budget_usdc := job'.budget_usdc }) :
    JobMoved db job job' (applyReservationOutcome { db with escrowJobs := db.escrowJobs.put job' } job next) := by
  obtain ⟨reservations, moved, outcome⟩ :=
    applyReservationOutcome_cases { db with escrowJobs := db.escrowJobs.put job' } job next
  refine ⟨by rw [Table.key_of_find? found]; exact found, same, reservations, moved, ?_⟩
  rcases outcome with unchanged | ⟨id, status, reserved, closing, rfl⟩
  · exact .inl unchanged
  · exact .inr ⟨id, status, reserved, closing, closeReservation_escrowJobs ..⟩

theorem applyEscrowStateChange_ok {db db' : Db} {id : EscrowJobId} {next : EscrowState} {sent : Except Failure Unit}
    (applied : applyEscrowStateChange db id next sent = .ok db') : ∃ job job', JobMoved db job job' db' := by
  unfold applyEscrowStateChange at applied
  split at applied
  · cases applied
  rename_i job found
  split at applied
  · cases applied
  split at applied
  · cases applied
  split at applied
  · cases applied
  obtain rfl := Except.ok.inj applied
  exact ⟨job, { job with state := next }, jobMoved_of found rfl⟩

theorem reconcileEscrowJob_ok {db db' : Db} {id : EscrowJobId} {onchain : Except Failure OnchainEscrowJob}
    (reconciled : reconcileEscrowJob db id onchain = .ok db') : db' = db ∨ ∃ job job', JobMoved db job job' db' := by
  unfold reconcileEscrowJob at reconciled
  split at reconciled
  · cases reconciled
  rename_i job found
  split at reconciled
  · cases reconciled
  split at reconciled
  · cases reconciled
  simp only at reconciled
  split at reconciled
  · obtain rfl := Except.ok.inj reconciled
    exact .inl rfl
  · obtain rfl := Except.ok.inj reconciled
    exact .inr ⟨job, _, jobMoved_of found rfl⟩

end AgentOps.Payments
