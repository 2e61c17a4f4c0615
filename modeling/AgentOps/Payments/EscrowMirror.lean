import AgentOps.Payments.OperatorEffects
import AgentOps.Payments.Runtime
import AgentOps.Lib.Transition

namespace AgentOps.Payments
open Lib Identity

/-! # Escrow jobs on the chain and their mirrors -/

abbrev ChainJobId := PaymentChain × Nat

structure ChainJob where
  id : ChainJobId
  state : EscrowState
  budget : Nat
  /-- What `getJob` has returned before, the latest first -/
  past : List OnchainEscrowJob
  deriving DecidableEq

inductive ChainEvent where
  | setBudget (budget : Nat)
  | submit
  | complete
  | reject
  | claimRefund
  deriving DecidableEq

/-- The deployed contract, which is not part of the repository: a job as `createJob` leaves it, and what a call makes of a
job unless it reverts -/
structure EscrowContract where
  created : OnchainEscrowJob
  call : ChainEvent → OnchainEscrowJob → Option OnchainEscrowJob
  /-- `fund` with the expected budget -/
  fund : Nat → OnchainEscrowJob → Option OnchainEscrowJob

structure EscrowContract.Documented (contract : EscrowContract) : Prop where
  opens : contract.created.state = .open
  setBudget : ∀ budget job job', contract.call (.setBudget budget) job = some job' → job.state = .open ∧ job'.state = .open
  submit : ∀ job job', contract.call .submit job = some job' → job.state = .funded ∧ job'.state = .submitted
  complete : ∀ job job', contract.call .complete job = some job' → job.state = .submitted ∧ job'.state = .completed
  reject : ∀ job job', contract.call .reject job = some job' →
    (job.state = .open ∨ job.state = .funded ∨ job.state = .submitted) ∧ job'.state = .rejected
  claimRefund : ∀ job job', contract.call .claimRefund job = some job' →
    (job.state = .funded ∨ job.state = .submitted) ∧ job'.state = .expired
  /-- The guarded `fund` reverts unless the budget is the expected one. -/
  fund : ∀ expectedBudget job job', contract.fund expectedBudget job = some job' →
    job.state = .open ∧ job.budgetMicros = expectedBudget ∧ job'.state = .funded ∧ job'.budgetMicros = job.budgetMicros
  /-- The budget can be set only while the job is open. -/
  fixed : ∀ event job job', contract.call event job = some job' → job.state ≠ .open → job'.budgetMicros = job.budgetMicros

namespace ChainJob

def now (job : ChainJob) : OnchainEscrowJob := ⟨job.state, job.budget⟩

def becomes (job : ChainJob) (next : OnchainEscrowJob) : ChainJob :=
  { job with state := next.state, budget := next.budgetMicros, past := job.now :: job.past }

def apply (contract : EscrowContract) (job : ChainJob) (event : ChainEvent) : Option ChainJob :=
  (contract.call event job.now).map job.becomes

def fund (contract : EscrowContract) (job : ChainJob) (expectedBudget : Nat) : Option ChainJob :=
  (contract.fund expectedBudget job.now).map job.becomes

end ChainJob

def createdJob (contract : EscrowContract) (id : ChainJobId) : ChainJob :=
  ⟨id, contract.created.state, contract.created.budgetMicros, []⟩

structure EscrowWorld where
  db : Db
  chain : Table ChainJob.id
  /-- The fund transactions that were sent and not confirmed: they may land later or never. -/
  sent : List (ChainJobId × Nat)

inductive EscrowLabel where
  | onchain (id : ChainJobId) (event : ChainEvent)
  | landFund (id : ChainJobId) (expectedBudget : Nat)
  | createEscrowJob (id : EscrowJobId) (onchainJobId : Nat) (input : CreateEscrowJobInput)
  | abandonFund (id : EscrowJobId)
  | fundEscrowJob (now : Time) (id : EscrowJobId) (reservationId : ReservationId)
  | applyEscrowStateChange (id : EscrowJobId) (next : EscrowState)
  | reconcileEscrowJob (id : EscrowJobId) (read : OnchainEscrowJob)

def EscrowJobRow.chainJobId (job : EscrowJobRow) : Option ChainJobId := job.onchain_job_id.map fun n => (job.chain, n)

/-- The call that makes a transition on the chain. Expiry is recorded and not caused. -/
def escrowCall : EscrowState → Option ChainEvent
  | .submitted => some .submit
  | .completed => some .complete
  | .rejected => some .reject
  | _ => none

namespace EscrowWorld

def located? (s : EscrowWorld) (id : EscrowJobId) : Option (EscrowJobRow × ChainJob) :=
  match s.db.escrowJobs.find? id with
  | none => none
  | some job => ((job.chainJobId).bind s.chain.find?).map fun chainJob => (job, chainJob)

def fundable? (s : EscrowWorld) (id : EscrowJobId) : Option (EscrowJobRow × ChainJob) :=
  match s.located? id with
  | none => none
  | some (job, chainJob) =>
    if job.state = .open ∧ escrowMinimumBudgetMicros ≤ job.budget_usdc then some (job, chainJob) else none

end EscrowWorld

def escrowStep (hashes : Hashes) (contract : EscrowContract) (s : EscrowWorld) : EscrowLabel → Option EscrowWorld
  | .onchain id event =>
    match (s.chain.find? id).bind fun job => job.apply contract event with
    | none => none
    | some job => some { s with chain := s.chain.put job }
  | .landFund id expectedBudget =>
    if (id, expectedBudget) ∈ s.sent then
      match (s.chain.find? id).bind fun job => job.fund contract expectedBudget with
      | none => none
      | some job => some { s with chain := s.chain.put job, sent := s.sent.erase (id, expectedBudget) }
    else none
  | .createEscrowJob id onchainJobId input =>
    match createEscrowJob s.db id onchainJobId input, s.chain.insert? (createdJob contract (input.chain, onchainJobId)) with
    | .ok db, some chain => some { s with db, chain }
    | _, _ => none
  | .abandonFund id =>
    match s.fundable? id with
    | none => none
    | some (job, chainJob) => some { s with sent := (chainJob.id, job.budget_usdc) :: s.sent }
  | .fundEscrowJob now id reservationId =>
    match s.fundable? id with
    | none => none
    | some (job, chainJob) =>
      match chainJob.fund contract job.budget_usdc with
      | none => none
      | some funded =>
        match fundEscrowJob hashes s.db now id reservationId (.ok ()) with
        -- the money has moved, and the transaction is rolled back
        | .error _ => some { s with chain := s.chain.put funded }
        | .ok db => some { s with db, chain := s.chain.put funded }
  | .applyEscrowStateChange id next =>
    match applyEscrowStateChange s.db id next (.ok ()), s.located? id with
    | .ok db, some (_, chainJob) =>
      match escrowCall next with
      | none => some { s with db }
      | some event => (chainJob.apply contract event).map fun called => { s with db, chain := s.chain.put called }
    | _, _ => none
  | .reconcileEscrowJob id read =>
    match s.located? id with
    | none => none
    | some (_, chainJob) =>
      if read ∈ chainJob.now :: chainJob.past then
        match reconcileEscrowJob s.db id (.ok read) with
        | .error _ => none
        | .ok db => some { s with db }
      else none

/-! ## What mirror and books owe the chain -/

def Shows (local_ onchain : EscrowState) : Prop :=
  if onchain = .expired then local_ = .rejected ∨ local_ = .expired else local_ = onchain

def Booked (db : Db) (job : EscrowJobRow) : Prop :=
  match job.state with
  | .open => True
  | .funded | .submitted => ∃ id row, job.reservation_id = some id ∧ db.reservations.find? id = some row ∧
    row.status = .reserved ∧ row.amount_usdc = job.budget_usdc
  | .completed => ∃ id row, job.reservation_id = some id ∧ db.reservations.find? id = some row ∧ row.status = .settled
  | .rejected | .expired => ∀ id, job.reservation_id = some id → ∃ row, db.reservations.find? id = some row ∧
    row.status = .released

def EscrowAgrees (s : EscrowWorld) (id : EscrowJobId) : Prop :=
  ∃ job chainJob, s.located? id = some (job, chainJob) ∧ Shows job.state chainJob.state ∧ Booked s.db job

/-- Every fund transaction that lands is confirmed and booked by its own call, an expiry is recorded after the refund, and
the job is read as it is. -/
def Confirmed (s : EscrowWorld) : EscrowLabel → Prop
  | .landFund _ _ => False
  | .fundEscrowJob _ id reservationId => ∀ job, s.db.escrowJobs.find? id = some job →
      (∃ source ∈ s.db.sources, source.org_id = job.org_id ∧ source.chain = job.chain ∧ source.status = .active) ∧
        s.db.reservations.find? reservationId = none
  | .applyEscrowStateChange id .expired => ∀ job chainJob, s.located? id = some (job, chainJob) → chainJob.state = .expired
  | .reconcileEscrowJob id read => ∀ job chainJob, s.located? id = some (job, chainJob) → read = chainJob.now
  | _ => True

/-! ## What the local operations write -/

variable {hashes : Hashes} {contract : EscrowContract} {db db' : Db} {s s' : EscrowWorld} {job job' : EscrowJobRow}
  {id : EscrowJobId}

def outcomeStatus : EscrowState → Option ReservationStatus
  | .completed => some .settled
  | .rejected | .expired => some .released
  | _ => none

def afterOutcome (job : EscrowJobRow) (next : EscrowState) (row : PaymentReservationRow) : PaymentReservationRow :=
  if job.reservation_id = some row.id ∧ row.org_id = job.org_id ∧ row.status = .reserved then
    { row with status := (outcomeStatus next).getD .reserved }
  else row

theorem applyReservationOutcome_eq (db : Db) (job : EscrowJobRow) (next : EscrowState) :
    applyReservationOutcome db job next =
      match job.reservation_id, outcomeStatus next with
      | some id, some status => db.closeReservation id job.org_id status
      | _, _ => db := by
  unfold applyReservationOutcome outcomeStatus
  cases job.reservation_id <;> cases next <;> rfl

theorem applyReservationOutcome_tables (db : Db) (job : EscrowJobRow) (next : EscrowState) :
    applyReservationOutcome db job next =
      { db with reservations := (applyReservationOutcome db job next).reservations } := by
  obtain ⟨reservations, moved, -⟩ := applyReservationOutcome_cases db job next
  rw [moved]

theorem applyReservationOutcome_find? {next : EscrowState} {r : ReservationId} {row : PaymentReservationRow}
    (found : db.reservations.find? r = some row) :
    (applyReservationOutcome db job next).reservations.find? r = some (afterOutcome job next row) := by
  have key := Table.key_of_find? found
  rw [applyReservationOutcome_eq]
  cases reserved : job.reservation_id with
  | none =>
    rw [afterOutcome, if_neg (by simp [reserved])]
    exact found
  | some held =>
    cases outcome : outcomeStatus next with
    | none =>
      have same : afterOutcome job next row = row := by
        unfold afterOutcome
        split
        · rename_i eligible
          rw [outcome, Option.getD_none, ← eligible.2.2]
        · rfl
      rw [same]
      exact found
    | some status =>
      simp only
      by_cases mine : held = r
      · subst mine
        by_cases eligible : row.org_id = job.org_id ∧ row.status = .reserved
        · rw [closeReservation_of_open _ found eligible.1 eligible.2, afterOutcome,
            if_pos ⟨by rw [reserved, key], eligible⟩, outcome]
          refine Table.find?_eq_some.mpr ⟨Table.mem_put.mpr (.inr ⟨rfl, row, ?_⟩), key⟩
          exact ⟨Table.mem_of_find? found, rfl⟩
        · rw [afterOutcome, if_neg fun all => eligible all.2]
          simp [Db.closeReservation, found, eligible]
      · rw [afterOutcome, if_neg fun all => mine (Option.some.inj (reserved.symm.trans (all.1.trans (congrArg some key))))]
        unfold Db.closeReservation
        split
        · exact found
        · rename_i other located
          split
          · refine (Table.find?_put_ne ?_).trans found
            show other.id ≠ r
            rw [Table.key_of_find? located]
            exact mine
          · exact found

theorem applyEscrowStateChange_eq {next : EscrowState} {sent : Except Failure Unit}
    (applied : applyEscrowStateChange db id next sent = .ok db') : ∃ job, db.escrowJobs.find? id = some job ∧
      next ∈ escrowTransitions job.state ∧
      db' = applyReservationOutcome { db with escrowJobs := db.escrowJobs.put { job with state := next } } job next := by
  unfold applyEscrowStateChange at applied
  split at applied
  · cases applied
  rename_i job found
  unfold assertEscrowTransition at applied
  split at applied
  · cases applied
  rename_i asserted
  split_ifs at asserted with reachable
  split_ifs at applied
  split at applied
  · cases applied
  exact ⟨job, found, reachable, (Except.ok.inj applied).symm⟩

def corrected (job : EscrowJobRow) (read : OnchainEscrowJob) : EscrowJobRow :=
  { job with
    state := read.state
    budget_usdc := if 0 < read.budgetMicros ∧ read.budgetMicros ≠ job.budget_usdc then read.budgetMicros
      else job.budget_usdc }

theorem reconcileEscrowJob_eq {read : OnchainEscrowJob} (reconciled : reconcileEscrowJob db id (.ok read) = .ok db') :
    ∃ job, db.escrowJobs.find? id = some job ∧ (db' = db ∧ corrected job read = job ∨
      db' = applyReservationOutcome { db with escrowJobs := db.escrowJobs.put (corrected job read) } job read.state) := by
  unfold reconcileEscrowJob at reconciled
  split at reconciled
  · cases reconciled
  rename_i job found
  split_ifs at reconciled
  refine ⟨job, found, ?_⟩
  simp only at reconciled
  split at reconciled
  · rename_i agrees
    refine .inl ⟨(Except.ok.inj reconciled).symm, ?_⟩
    rw [corrected, if_neg agrees.2, agrees.1]
  · exact .inr (Except.ok.inj reconciled).symm

theorem fundEscrowJob_isOk {now : Time} {reservationId : ReservationId} (found : db.escrowJobs.find? id = some job)
    (isOpen : job.state = .open) (located : job.chainJobId.isSome) (enough : escrowMinimumBudgetMicros ≤ job.budget_usdc)
    (source : ∃ source ∈ db.sources, source.org_id = job.org_id ∧ source.chain = job.chain ∧ source.status = .active)
    (fresh : db.reservations.find? reservationId = none) :
    ∃ db', fundEscrowJob hashes db now id reservationId (.ok ()) = .ok db' := by
  have onchain : job.onchain_job_id ≠ none := by
    intro none_
    simp [EscrowJobRow.chainJobId, none_] at located
  have budget : escrowBudgetMicros job.budget_usdc = .ok job.budget_usdc := if_neg (not_lt.mpr enough)
  obtain ⟨row, member, eligible⟩ := source
  rw [fundEscrowJob, found]
  simp only [isOpen, ne_eq, not_true_eq_false, if_false, onchain, budget, reserveEscrowBudget]
  split
  · rename_i failed
    split at failed
    · rename_i nothing
      rw [List.head?_eq_none_iff] at nothing
      have inside : row ∈ (db.sources.rows.filter fun row =>
          row.org_id = job.org_id ∧ row.chain = job.chain ∧ row.status = .active).insertionSort escrowSourceOrder :=
        (List.mem_insertionSort _).mpr (List.mem_filter.mpr ⟨member, by simpa using eligible⟩)
      rw [nothing] at inside
      cases inside
    · rename_i source _
      split at failed
      · rename_i full
        have inserts : (db.reservations.insert? (escrowReservation hashes now reservationId job source)).isSome :=
          Table.insert?_isSome fresh
        rw [full] at inserts
        cases inserts
      · cases failed
  · exact ⟨_, rfl⟩

/-! ## A mirror lags behind the chain -/

variable {chainJob chainJob' : ChainJob} {reservations reservations' : Table PaymentReservationRow.id}

def heldStatus (state : EscrowState) : ReservationStatus := (outcomeStatus state).getD .reserved

def Lags : EscrowState → EscrowState → Prop
  | .open, _ => False
  | .funded, onchain => onchain ≠ .open
  | .submitted, onchain => onchain ≠ .open ∧ onchain ≠ .funded
  | local_, onchain => onchain = local_

structure HoldsBudget (job : EscrowJobRow) (row : PaymentReservationRow) : Prop where
  reason : row.reason_code = .escrowJob job.id
  org : row.org_id = job.org_id
  amount : row.amount_usdc = job.budget_usdc
  status : row.status = heldStatus job.state

def Behind (reservations : Table PaymentReservationRow.id) (job : EscrowJobRow) (chainJob : ChainJob) : Prop :=
  match job.reservation_id with
  | none => (chainJob.state = .open ∨ chainJob.state = .rejected) ∧ (job.state = .open ∨ job.state = chainJob.state)
  | some id => Lags job.state chainJob.state ∧ chainJob.budget = job.budget_usdc ∧
    ∃ row, reservations.find? id = some row ∧ HoldsBudget job row

theorem behind_none (unheld : job.reservation_id = none) : Behind reservations job chainJob ↔
    (chainJob.state = .open ∨ chainJob.state = .rejected) ∧ (job.state = .open ∨ job.state = chainJob.state) := by
  rw [Behind, unheld]

theorem behind_some {r : ReservationId} (held : job.reservation_id = some r) : Behind reservations job chainJob ↔
    Lags job.state chainJob.state ∧ chainJob.budget = job.budget_usdc ∧
      ∃ row, reservations.find? r = some row ∧ HoldsBudget job row := by
  rw [Behind, held]

theorem apply_ok (documented : contract.Documented) {event : ChainEvent}
    (applied : chainJob.apply contract event = some chainJob') : chainJob'.id = chainJob.id ∧
    (chainJob.state = .open ∧ (chainJob'.state = .open ∨ chainJob'.state = .rejected) ∨
      chainJob'.budget = chainJob.budget ∧ (chainJob.state = .funded ∧ chainJob'.state = .submitted ∨
        (chainJob.state = .funded ∨ chainJob.state = .submitted) ∧ chainJob'.state ≠ .open ∧ chainJob'.state ≠ .funded)) := by
  obtain ⟨next, called, rfl⟩ := Option.map_eq_some_iff.mp applied
  have budget (going : chainJob.state ≠ .open) : next.budgetMicros = chainJob.budget :=
    documented.fixed event _ _ called going
  refine ⟨rfl, ?_⟩
  simp only [ChainJob.becomes]
  cases event with
  | setBudget amount =>
    obtain ⟨isOpen, state⟩ := documented.setBudget amount _ _ called
    exact .inl ⟨isOpen, .inl state⟩
  | submit =>
    obtain ⟨funded, state⟩ := documented.submit _ _ called
    exact .inr ⟨budget (by simp_all [ChainJob.now]), .inl ⟨funded, state⟩⟩
  | complete =>
    obtain ⟨submitted, state⟩ := documented.complete _ _ called
    exact .inr ⟨budget (by simp_all [ChainJob.now]), .inr ⟨.inr submitted, by simp [state]⟩⟩
  | reject =>
    obtain ⟨isOpen | going, state⟩ := documented.reject _ _ called
    · exact .inl ⟨isOpen, .inr state⟩
    · exact .inr ⟨budget (by rcases going with going | going <;> simp_all [ChainJob.now]), .inr ⟨going, by simp [state]⟩⟩
  | claimRefund =>
    obtain ⟨going, state⟩ := documented.claimRefund _ _ called
    exact .inr ⟨budget (by rcases going with going | going <;> simp_all [ChainJob.now]), .inr ⟨going, by simp [state]⟩⟩

theorem Lags.apply (documented : contract.Documented) {local_ : EscrowState} {event : ChainEvent}
    (lags : Lags local_ chainJob.state) (applied : chainJob.apply contract event = some chainJob') :
    Lags local_ chainJob'.state ∧ chainJob'.budget = chainJob.budget := by
  obtain ⟨-, ⟨isOpen, -⟩ | ⟨budget, moved⟩⟩ := apply_ok documented applied
  · rw [isOpen] at lags
    cases local_ <;> simp [Lags] at lags
  · refine ⟨?_, budget⟩
    rcases moved with ⟨funded, submitted⟩ | ⟨before, after⟩
    · rw [funded] at lags
      rw [submitted]
      cases local_ <;> simp_all [Lags]
    · rcases before with before | before <;> rw [before] at lags <;> cases local_ <;> simp_all [Lags]

theorem Behind.apply (documented : contract.Documented) {event : ChainEvent}
    (behind : Behind reservations job chainJob) (applied : chainJob.apply contract event = some chainJob') :
    Behind reservations job chainJob' := by
  cases held : job.reservation_id with
  | none =>
    rw [behind_none held] at behind ⊢
    obtain ⟨-, ⟨isOpen, after⟩ | ⟨-, moved⟩⟩ := apply_ok documented applied
    · refine ⟨after, .inl ?_⟩
      exact behind.2.elim id fun same => same.trans isOpen
    · rcases behind.1 with state | state <;> rw [state] at moved <;> simp at moved
  | some r =>
    rw [behind_some held] at behind ⊢
    obtain ⟨lags, budget, row⟩ := behind
    obtain ⟨lags', kept⟩ := lags.apply documented applied
    exact ⟨lags', kept.trans budget, row⟩

theorem HoldsBudget.outcome {row : PaymentReservationRow} (holds : HoldsBudget job row) (held : job.reservation_id = some row.id)
    (state : job'.state = job.state ∨ outcomeStatus job.state = none) (id : job'.id = job.id) (org : job'.org_id = job.org_id)
    (budget : job'.budget_usdc = job.budget_usdc) : HoldsBudget job' (afterOutcome job job'.state row) := by
  obtain ⟨reason, orgIs, amount, status⟩ := holds
  unfold afterOutcome
  split
  · exact ⟨by rw [id]; exact reason, by rw [org]; exact orgIs, by rw [budget]; exact amount, rfl⟩
  · rename_i closed
    refine ⟨by rw [id]; exact reason, by rw [org]; exact orgIs, by rw [budget]; exact amount, ?_⟩
    rcases state with same | isOpen
    · rw [same]
      exact status
    · refine (closed ⟨held, orgIs, ?_⟩).elim
      rw [status, heldStatus, isOpen]
      rfl

theorem afterOutcome_other {next : EscrowState} {row row' : PaymentReservationRow} {r : ReservationId}
    (held : job.reservation_id = some r) (found : reservations.find? r = some row) (holds : HoldsBudget job row)
    (located : reservations.find? row'.id = some row') (other : row'.reason_code ≠ .escrowJob job.id) :
    afterOutcome job next row' = row' := by
  refine if_neg fun eligible => other ?_
  have same := Option.some.inj (held.symm.trans eligible.1)
  rw [← same, found] at located
  obtain rfl := Option.some.inj located
  exact holds.reason

theorem Behind.booked (behind : Behind db.reservations job chainJob) (same : job.state = chainJob.state) :
    Booked db job := by
  cases held : job.reservation_id with
  | none =>
    rw [behind_none held, ← same] at behind
    rcases behind.1 with state | state
    · simp [Booked, state]
    · simp [Booked, state, held]
  | some r =>
    rw [behind_some held] at behind
    obtain ⟨lags, -, row, found, -, -, amount, status⟩ := behind
    unfold Booked
    split <;> rename_i state <;> rw [state] at status
    · trivial
    · exact ⟨r, row, held, found, status, amount⟩
    · exact ⟨r, row, held, found, status, amount⟩
    · exact ⟨r, row, held, found, status⟩
    · intro id mine
      obtain rfl := Option.some.inj (held.symm.trans mine)
      exact ⟨row, found, status⟩
    · intro id mine
      obtain rfl := Option.some.inj (held.symm.trans mine)
      exact ⟨row, found, status⟩

/-! ## The mirrors along a run -/

structure MirrorsChain (s : EscrowWorld) : Prop where
  behind : ∀ job ∈ s.db.escrowJobs, ∃ key chainJob, job.chainJobId = some key ∧ s.chain.find? key = some chainJob ∧
    Behind s.db.reservations job chainJob
  own : ∀ job ∈ s.db.escrowJobs, ∀ job' ∈ s.db.escrowJobs, job.chainJobId = job'.chainJobId → job.id = job'.id

theorem located?_eq_some (located : s.located? id = some (job, chainJob)) :
    s.db.escrowJobs.find? id = some job ∧ ∃ key, job.chainJobId = some key ∧ s.chain.find? key = some chainJob := by
  unfold EscrowWorld.located? at located
  split at located
  · cases located
  rename_i found
  obtain ⟨chainJob', bound, same⟩ := Option.map_eq_some_iff.mp located
  obtain ⟨rfl, rfl⟩ := Prod.mk.inj same
  exact ⟨found, Option.bind_eq_some_iff.mp bound⟩

theorem MirrorsChain.move {chain : Table ChainJob.id} {key : ChainJobId} {sent : List (ChainJobId × Nat)}
    (mirrors : MirrorsChain s) (found : s.db.escrowJobs.find? job.id = some job) (id : job'.id = job.id)
    (keyed : job.chainJobId = some key) (keyed' : job'.chainJobId = some key) (here : chain.find? key = some chainJob)
    (elsewhere : ∀ other, other ≠ key → chain.find? other = s.chain.find? other)
    (others : ∀ r row, s.db.reservations.find? r = some row → row.reason_code ≠ .escrowJob job.id →
      reservations.find? r = some row) (behind : Behind reservations job' chainJob) :
    MirrorsChain ⟨{ s.db with escrowJobs := s.db.escrowJobs.put job', reservations }, chain, sent⟩ := by
  constructor
  · intro other member
    rcases Table.mem_put.mp member with ⟨stored, different⟩ | ⟨rfl, -⟩
    · obtain ⟨key', chainJob', keyedOther, located, lags⟩ := mirrors.behind other stored
      have apart : key' ≠ key := by
        rintro rfl
        refine different ?_
        rw [id]
        exact mirrors.own other stored job (Table.mem_of_find? found) (keyedOther.trans keyed.symm)
      refine ⟨key', chainJob', keyedOther, (elsewhere key' apart).trans located, ?_⟩
      cases held : other.reservation_id with
      | none =>
        rw [behind_none held] at lags ⊢
        exact lags
      | some r =>
        rw [behind_some held] at lags ⊢
        obtain ⟨state, budget, row, stored', holds⟩ := lags
        refine ⟨state, budget, row, others r row stored' ?_, holds⟩
        rw [holds.reason]
        intro same
        refine different ?_
        rw [id]
        exact ReasonCode.escrowJob.inj same
    · exact ⟨key, chainJob, keyed', here, behind⟩
  · have source (other : EscrowJobRow) (member : other ∈ s.db.escrowJobs.put job') :
        ∃ old ∈ s.db.escrowJobs, old.id = other.id ∧ old.chainJobId = other.chainJobId := by
      rcases Table.mem_put.mp member with ⟨stored, -⟩ | ⟨rfl, -⟩
      · exact ⟨other, stored, rfl, rfl⟩
      · exact ⟨job, Table.mem_of_find? found, id.symm, keyed.trans keyed'.symm⟩
    intro a member b member' same
    obtain ⟨old, stored, idA, keyA⟩ := source a member
    obtain ⟨old', stored', idB, keyB⟩ := source b member'
    rw [← idA, ← idB]
    exact mirrors.own old stored old' stored' (by rw [keyA, keyB, same])

theorem outcome_others {next : EscrowState} {escrowJobs : Table EscrowJobRow.id} (behind : Behind db.reservations job chainJob)
    {r : ReservationId} {row : PaymentReservationRow} (found : db.reservations.find? r = some row)
    (other : row.reason_code ≠ .escrowJob job.id) :
    (applyReservationOutcome { db with escrowJobs } job next).reservations.find? r = some row := by
  have after : (applyReservationOutcome { db with escrowJobs } job next).reservations.find? r =
      some (afterOutcome job next row) := applyReservationOutcome_find? found
  rw [after]
  cases held : job.reservation_id with
  | none => rw [afterOutcome, if_neg (by simp [held])]
  | some mine =>
    rw [behind_some held] at behind
    obtain ⟨-, -, own, located, holds⟩ := behind
    rw [afterOutcome_other held located holds (by rw [Table.key_of_find? found]; exact found) other]

theorem Behind.outcome {escrowJobs : Table EscrowJobRow.id} {next : EscrowState} {budget : Nat} {r : ReservationId}
    (behind : Behind db.reservations job chainJob) (held : job.reservation_id = some r)
    (state : next = job.state ∨ outcomeStatus job.state = none) (lags : Lags next chainJob'.state)
    (kept : chainJob'.budget = chainJob.budget) (same : budget = job.budget_usdc) :
    Behind (applyReservationOutcome { db with escrowJobs } job next).reservations
      { job with state := next, budget_usdc := budget } chainJob' := by
  have held' : ({ job with state := next, budget_usdc := budget } : EscrowJobRow).reservation_id = some r := held
  rw [behind_some held] at behind
  rw [behind_some held']
  obtain ⟨-, budgets, row, found, holds⟩ := behind
  refine ⟨lags, ?_, afterOutcome job next row, applyReservationOutcome_find? found, ?_⟩
  · rw [kept, budgets, same]
  · rw [← Table.key_of_find? found] at held
    have after : HoldsBudget { job with state := next, budget_usdc := budget } (afterOutcome job next row) :=
      holds.outcome held state rfl rfl same
    exact after

theorem fundable?_eq_some (ready : s.fundable? id = some (job, chainJob)) :
    s.located? id = some (job, chainJob) ∧ job.state = .open ∧ escrowMinimumBudgetMicros ≤ job.budget_usdc := by
  unfold EscrowWorld.fundable? at ready
  split at ready
  · cases ready
  rename_i located
  split_ifs at ready with ok
  obtain ⟨rfl, rfl⟩ := Prod.mk.inj (Option.some.inj ready)
  exact ⟨located, ok⟩

theorem fund_ok (documented : contract.Documented) {expectedBudget : Nat}
    (funded : chainJob.fund contract expectedBudget = some chainJob') :
    chainJob'.id = chainJob.id ∧ chainJob'.state = .funded ∧ chainJob'.budget = expectedBudget := by
  obtain ⟨next, called, rfl⟩ := Option.map_eq_some_iff.mp funded
  obtain ⟨-, expected, state, kept⟩ := documented.fund expectedBudget _ _ called
  exact ⟨rfl, state, kept.trans expected⟩

theorem put_here {chain : Table ChainJob.id} {key : ChainJobId} (found : chain.find? key = some chainJob)
    (same : chainJob'.id = chainJob.id) : (chain.put chainJob').find? key = some chainJob' ∧
      ∀ other, other ≠ key → (chain.put chainJob').find? other = chain.find? other := by
  obtain rfl := Table.key_of_find? found
  rw [← same] at found ⊢
  exact ⟨Table.find?_put_self found, fun other different => Table.find?_put_ne (Ne.symm different)⟩

theorem MirrorsChain.onchain (documented : contract.Documented) {key : ChainJobId} (mirrors : MirrorsChain s)
    (found : s.chain.find? key = some chainJob) {event : ChainEvent}
    (applied : chainJob.apply contract event = some chainJob') : MirrorsChain { s with chain := s.chain.put chainJob' } := by
  obtain ⟨here, elsewhere⟩ := put_here found (apply_ok documented applied).1
  refine ⟨fun job member => ?_, mirrors.own⟩
  obtain ⟨key', old, keyed, located, behind⟩ := mirrors.behind job member
  by_cases same : key' = key
  · subst same
    obtain rfl := Option.some.inj (found.symm.trans located)
    exact ⟨key', chainJob', keyed, here, behind.apply documented applied⟩
  · exact ⟨key', old, keyed, (elsewhere key' same).trans located, behind⟩

theorem MirrorsChain.create (documented : contract.Documented) {onchainJobId : Nat} {input : CreateEscrowJobInput}
    {chain : Table ChainJob.id} (mirrors : MirrorsChain s) (created : createEscrowJob s.db id onchainJobId input = .ok db)
    (opened : s.chain.insert? (createdJob contract (input.chain, onchainJobId)) = some chain) :
    MirrorsChain { s with db, chain } := by
  obtain ⟨job, escrowJobs, ⟨rfl, onChain, located⟩, isOpen, unheld, inserted, rfl⟩ := createEscrowJob_ok created
  have keyed : job.chainJobId = some (input.chain, onchainJobId) := by simp [EscrowJobRow.chainJobId, located, onChain]
  have missing : s.chain.find? (input.chain, onchainJobId) = none := (Table.insert?_eq_some opened).2
  have apart : ∀ other ∈ s.db.escrowJobs, other.chainJobId ≠ job.chainJobId := by
    intro other member same
    obtain ⟨key, chainJob, keyed', located, -⟩ := mirrors.behind other member
    obtain rfl := Option.some.inj (keyed'.symm.trans (same.trans keyed))
    rw [missing] at located
    cases located
  constructor
  · intro other member
    rcases (Table.mem_insert? inserted).mp member with rfl | stored
    · refine ⟨_, _, keyed, Table.find?_insert?_self opened, ?_⟩
      rw [behind_none unheld]
      exact ⟨.inl documented.opens, .inl isOpen⟩
    · obtain ⟨key, chainJob, keyed', located, behind⟩ := mirrors.behind other stored
      exact ⟨key, chainJob, keyed', Table.find?_insert?_of_find? opened located, behind⟩
  · intro a member b member' same
    rcases (Table.mem_insert? inserted).mp member with rfl | stored
    · rcases (Table.mem_insert? inserted).mp member' with rfl | stored'
      · rfl
      · exact (apart b stored' same.symm).elim
    · rcases (Table.mem_insert? inserted).mp member' with rfl | stored'
      · exact (apart a stored same).elim
      · exact mirrors.own a stored b stored' same

theorem MirrorsChain.located (mirrors : MirrorsChain s) (located : s.located? id = some (job, chainJob)) :
    s.db.escrowJobs.find? job.id = some job ∧ ∃ key, job.chainJobId = some key ∧ s.chain.find? key = some chainJob ∧
      Behind s.db.reservations job chainJob := by
  obtain ⟨found, key, keyed, here⟩ := located?_eq_some located
  obtain ⟨key', other, keyed', here', behind⟩ := mirrors.behind job (Table.mem_of_find? found)
  obtain rfl := Option.some.inj (keyed.symm.trans keyed')
  obtain rfl := Option.some.inj (here.symm.trans here')
  exact ⟨by rw [Table.key_of_find? found]; exact found, key, keyed, here, behind⟩

theorem MirrorsChain.fund (documented : contract.Documented) {now : Time} {reservationId : ReservationId}
    (mirrors : MirrorsChain s) (ready : s.fundable? id = some (job, chainJob))
    (funded : chainJob.fund contract job.budget_usdc = some chainJob')
    (booked : fundEscrowJob hashes s.db now id reservationId (.ok ()) = .ok db) :
    MirrorsChain { s with db, chain := s.chain.put chainJob' } := by
  obtain ⟨located, -, -⟩ := fundable?_eq_some ready
  obtain ⟨found, key, keyed, here, -⟩ := mirrors.located located
  obtain ⟨sameId, state, budget⟩ := fund_ok documented funded
  obtain ⟨onchain, elsewhere⟩ := put_here here sameId
  cases fundEscrowJob_ok booked with
  | @funded other source reservations foundOther isOpen inserted =>
    obtain rfl := Option.some.inj ((located?_eq_some located).1.symm.trans foundOther)
    refine mirrors.move found rfl keyed keyed onchain elsewhere ?_ ?_
    · intro r row stored _
      exact Table.find?_insert?_of_find? inserted stored
    · have held : ({ job with state := .funded, reservation_id := some reservationId } : EscrowJobRow).reservation_id =
          some reservationId := rfl
      rw [behind_some held]
      refine ⟨?_, budget, _, Table.find?_insert?_self inserted, ⟨rfl, rfl, rfl, rfl⟩⟩
      rw [state]
      simp [Lags]

theorem reachable_cases {next : EscrowState} (reachable : next ∈ escrowTransitions job.state) :
    next = .submitted ∨ next = .completed ∨ next = .rejected ∨ next = .expired := by
  cases state : job.state with
  | funded =>
    rw [state] at reachable
    exact .inl (List.mem_singleton.mp reachable)
  | submitted =>
    rw [state] at reachable
    simpa [escrowTransitions] using Or.inr reachable
  | _ =>
    rw [state] at reachable
    cases reachable

theorem applied_lags (documented : contract.Documented) {next : EscrowState} (reachable : next ∈ escrowTransitions job.state)
    (lags : Lags job.state chainJob.state)
    (called : ∀ event, escrowCall next = some event → chainJob.apply contract event = some chainJob')
    (recorded : escrowCall next = none → chainJob' = chainJob ∧ chainJob.state = .expired) :
    Lags next chainJob'.state ∧ chainJob'.budget = chainJob.budget ∧ chainJob'.id = chainJob.id := by
  have moved {event : ChainEvent} (applied : chainJob.apply contract event = some chainJob') :
      chainJob'.budget = chainJob.budget ∧ chainJob'.id = chainJob.id :=
    ⟨(lags.apply documented applied).2, (apply_ok documented applied).1⟩
  rcases reachable_cases reachable with rfl | rfl | rfl | rfl
  · have applied := called .submit rfl
    refine ⟨?_, moved applied⟩
    obtain ⟨onchain, submitted, rfl⟩ := Option.map_eq_some_iff.mp applied
    simp [Lags, ChainJob.becomes, (documented.submit _ _ submitted).2]
  · have applied := called .complete rfl
    refine ⟨?_, moved applied⟩
    obtain ⟨onchain, completed, rfl⟩ := Option.map_eq_some_iff.mp applied
    exact (documented.complete _ _ completed).2
  · have applied := called .reject rfl
    refine ⟨?_, moved applied⟩
    obtain ⟨onchain, rejected, rfl⟩ := Option.map_eq_some_iff.mp applied
    exact (documented.reject _ _ rejected).2
  · obtain ⟨rfl, refunded⟩ := recorded rfl
    exact ⟨refunded, rfl, rfl⟩

theorem MirrorsChain.applied (documented : contract.Documented) {next : EscrowState} (mirrors : MirrorsChain s)
    (located : s.located? id = some (job, chainJob)) (applied : applyEscrowStateChange s.db id next (.ok ()) = .ok db)
    (called : ∀ event, escrowCall next = some event → chainJob.apply contract event = some chainJob')
    (recorded : escrowCall next = none → chainJob' = chainJob ∧ chainJob.state = .expired) :
    MirrorsChain { s with db, chain := s.chain.put chainJob' } := by
  obtain ⟨found, key, keyed, here, behind⟩ := mirrors.located located
  obtain ⟨other, foundOther, reachable, rfl⟩ := applyEscrowStateChange_eq applied
  obtain rfl := Option.some.inj ((located?_eq_some located).1.symm.trans foundOther)
  have going : outcomeStatus job.state = none ∧ job.state ≠ .open := by
    cases state : job.state <;> simp [escrowTransitions, outcomeStatus, state] at reachable ⊢
  rcases Option.eq_none_or_eq_some job.reservation_id with held | ⟨r, held⟩
  · rw [behind_none held] at behind
    rcases behind.2 with isOpen | same
    · exact (going.2 isOpen).elim
    · rcases behind.1 with state | state <;> rw [state] at same <;> simp [same, escrowTransitions] at reachable
  · obtain ⟨lags, kept, sameId⟩ := applied_lags documented reachable ((behind_some held).mp behind).1 called recorded
    obtain ⟨onchain, elsewhere⟩ := put_here here sameId
    rw [applyReservationOutcome_tables]
    refine mirrors.move found rfl keyed keyed onchain elsewhere ?_ (behind.outcome held (.inr going.1) lags kept rfl)
    exact fun r row stored other => outcome_others behind stored other

theorem MirrorsChain.reconciled (mirrors : MirrorsChain s) (located : s.located? id = some (job, chainJob))
    (reconciled : reconcileEscrowJob s.db id (.ok chainJob.now) = .ok db) :
    MirrorsChain { s with db } ∧ EscrowAgrees { s with db } id := by
  obtain ⟨found, key, keyed, here, behind⟩ := mirrors.located located
  obtain ⟨other, foundOther, outcome⟩ := reconcileEscrowJob_eq reconciled
  obtain rfl := Option.some.inj ((located?_eq_some located).1.symm.trans foundOther)
  obtain rfl := Table.key_of_find? foundOther
  -- the mirror after the reconciliation, in either case
  have after : ∃ job', db.escrowJobs.find? job.id = some job' ∧ job'.chainJobId = some key ∧
      job'.state = chainJob.state ∧ Behind db.reservations job' chainJob ∧ MirrorsChain { s with db } := by
    rcases outcome with ⟨rfl, unchanged⟩ | rfl
    · refine ⟨job, found, keyed, ?_, behind, mirrors⟩
      rw [← unchanged]
      rfl
    · have stays : ∀ other, other ≠ key → s.chain.find? other = s.chain.find? other := fun _ _ => rfl
      have lagsSelf : Behind (applyReservationOutcome
          { s.db with escrowJobs := s.db.escrowJobs.put (corrected job chainJob.now) } job chainJob.state).reservations
          (corrected job chainJob.now) chainJob := by
        cases held : job.reservation_id with
        | none =>
          have held' : (corrected job chainJob.now).reservation_id = none := held
          rw [behind_none held] at behind
          rw [behind_none held']
          exact ⟨behind.1, .inr rfl⟩
        | some r =>
          obtain ⟨lags, budgets, -⟩ := (behind_some held).mp behind
          have budget : (corrected job chainJob.now).budget_usdc = job.budget_usdc := by
            rw [corrected]
            exact if_neg fun drift => drift.2 budgets
          refine behind.outcome held ?_ ?_ rfl budget
          · revert lags
            cases job.state <;> cases chainJob.state <;> simp [Lags, outcomeStatus]
          · revert lags
            cases job.state <;> cases chainJob.state <;> simp [Lags]
      rw [applyReservationOutcome_tables]
      refine ⟨corrected job chainJob.now, ?_, keyed, rfl, lagsSelf, ?_⟩
      · have put : (s.db.escrowJobs.put (corrected job chainJob.now)).find? (corrected job chainJob.now).id =
            some (corrected job chainJob.now) := Table.find?_put_self found
        exact put
      · refine mirrors.move found rfl keyed keyed here stays ?_ lagsSelf
        exact fun r row stored other => outcome_others behind stored other
  obtain ⟨job', foundAfter, keyedAfter, same, behindAfter, mirrorsAfter⟩ := after
  refine ⟨mirrorsAfter, job', chainJob, ?_, ?_, behindAfter.booked same⟩
  · simp [EscrowWorld.located?, foundAfter, keyedAfter, here]
  · unfold Shows
    split
    · rename_i refunded
      exact .inr (same.trans refunded)
    · exact same

theorem MirrorsChain.reconciles {read : OnchainEscrowJob} (mirrors : MirrorsChain s)
    (confirmed : Confirmed s (.reconcileEscrowJob id read))
    (taken : escrowStep hashes contract s (.reconcileEscrowJob id read) = some s') : MirrorsChain s' ∧ EscrowAgrees s' id := by
  rw [escrowStep] at taken
  split at taken
  · cases taken
  rename_i job chainJob located
  split_ifs at taken
  split at taken
  · cases taken
  rename_i reconciled
  obtain rfl := Option.some.inj taken
  rw [confirmed job chainJob located] at reconciled
  exact mirrors.reconciled located reconciled

theorem MirrorsChain.step (documented : contract.Documented) {label : EscrowLabel} (mirrors : MirrorsChain s)
    (confirmed : Confirmed s label) (taken : escrowStep hashes contract s label = some s') : MirrorsChain s' := by
  cases label with
  | onchain key event =>
    rw [escrowStep] at taken
    split at taken
    · cases taken
    rename_i applied
    obtain rfl := Option.some.inj taken
    obtain ⟨chainJob, found, applied⟩ := Option.bind_eq_some_iff.mp applied
    exact mirrors.onchain documented found applied
  | landFund key expectedBudget => cases confirmed
  | createEscrowJob id onchainJobId input =>
    rw [escrowStep] at taken
    split at taken
    · rename_i created opened
      obtain rfl := Option.some.inj taken
      exact mirrors.create documented created opened
    · cases taken
  | abandonFund id =>
    rw [escrowStep] at taken
    split at taken
    · cases taken
    · obtain rfl := Option.some.inj taken
      exact ⟨mirrors.behind, mirrors.own⟩
  | fundEscrowJob now id reservationId =>
    rw [escrowStep] at taken
    split at taken
    · cases taken
    rename_i job chainJob ready
    split at taken
    · cases taken
    rename_i funded paid
    obtain ⟨located, isOpen, enough⟩ := fundable?_eq_some ready
    obtain ⟨found, key, keyed, -⟩ := located?_eq_some located
    obtain ⟨source, fresh⟩ := confirmed job found
    obtain ⟨db, booked⟩ : ∃ db, fundEscrowJob hashes s.db now id reservationId (.ok ()) = .ok db :=
      fundEscrowJob_isOk found isOpen (by simp [keyed]) enough source fresh
    rw [booked] at taken
    obtain rfl := Option.some.inj taken
    exact mirrors.fund documented ready paid booked
  | applyEscrowStateChange id next =>
    rw [escrowStep] at taken
    split at taken
    · rename_i db job chainJob applied located
      obtain ⟨other, found, reachable, -⟩ := applyEscrowStateChange_eq applied
      split at taken
      · rename_i recorded
        obtain rfl := Option.some.inj taken
        have refunded : chainJob.state = .expired := by
          rcases reachable_cases reachable with rfl | rfl | rfl | rfl <;> try cases recorded
          exact confirmed job chainJob located
        obtain ⟨-, key, -, here⟩ := located?_eq_some located
        have same : s.chain.put chainJob = s.chain :=
          Table.put_of_find? (by rw [Table.key_of_find? here]; exact here)
        rw [← same]
        refine mirrors.applied documented located applied (fun event called => ?_) fun _ => ⟨rfl, refunded⟩
        rw [recorded] at called
        cases called
      · rename_i event call
        obtain ⟨called, landed, rfl⟩ := Option.map_eq_some_iff.mp taken
        refine mirrors.applied documented located applied (fun other same => ?_) fun none_ => ?_
        · obtain rfl := Option.some.inj (call.symm.trans same)
          exact landed
        · rw [call] at none_
          cases none_
    · cases taken
  | reconcileEscrowJob id read => exact (mirrors.reconciles confirmed taken).1

structure EscrowWorld.Fresh (s : EscrowWorld) : Prop where
  jobs : s.db.escrowJobs = .empty
  chain : s.chain = .empty

theorem EscrowWorld.Fresh.mirrors (fresh : s.Fresh) : MirrorsChain s := by
  constructor <;> simp [fresh.jobs]

/-- After every reconciliation of a run whose steps are confirmed, mirror and books agree with the chain. -/
theorem escrow_mirror_agrees (documented : contract.Documented) {s₀ : EscrowWorld}
    {events : List (EscrowWorld × EscrowLabel)} {read : OnchainEscrowJob} (fresh : s₀.Fresh)
    (run : Run (escrowStep hashes contract) s₀ (events ++ [(s, .reconcileEscrowJob id read)]) s')
    (confirmed : Conforms Confirmed (events ++ [(s, .reconcileEscrowJob id read)])) : EscrowAgrees s' id := by
  obtain ⟨before, taken⟩ := run.last
  rw [conforms_append, conforms_singleton] at confirmed
  have mirrors : MirrorsChain s := before.invariant MirrorsChain confirmed.1 fresh.mirrors
    fun _ _ _ mirrors confirmed taken => mirrors.step documented confirmed taken
  exact (mirrors.reconciles confirmed.2 taken).2

namespace EscrowWorkspace

def world (sources : Table PaymentSourceRow.id) : EscrowWorld where
  db := { (Workspace.state .simulation).db with sources }
  chain := .empty
  sent := []

def source : Table PaymentSourceRow.id := (Workspace.state .simulation).db.sources

def guardedEscrow : EscrowContract where
  created := ⟨.open, 0⟩
  call event job :=
    match event, job.state with
    | .setBudget budget, .open => some ⟨.open, budget⟩
    | .submit, .funded => some ⟨.submitted, job.budgetMicros⟩
    | .complete, .submitted => some ⟨.completed, job.budgetMicros⟩
    | .reject, .open | .reject, .funded | .reject, .submitted => some ⟨.rejected, job.budgetMicros⟩
    | .claimRefund, .funded | .claimRefund, .submitted => some ⟨.expired, job.budgetMicros⟩
    | _, _ => none
  fund expectedBudget job :=
    if job.state = .open ∧ job.budgetMicros = expectedBudget then some ⟨.funded, job.budgetMicros⟩ else none

theorem guardedEscrow_documented : guardedEscrow.Documented where
  opens := rfl
  setBudget budget job job' called := by
    cases state : job.state <;> simp_all [guardedEscrow]
    rw [← called]
  submit job job' called := by
    cases state : job.state <;> simp_all [guardedEscrow]
    rw [← called]
  complete job job' called := by
    cases state : job.state <;> simp_all [guardedEscrow]
    rw [← called]
  reject job job' called := by cases state : job.state <;> simp_all [guardedEscrow] <;> rw [← called]
  claimRefund job job' called := by cases state : job.state <;> simp_all [guardedEscrow] <;> rw [← called]
  fund expectedBudget job job' called := by
    simp only [guardedEscrow, Option.ite_none_right_eq_some, Option.some.injEq] at called
    obtain ⟨ready, rfl⟩ := called
    exact ⟨ready.1, ready.2, rfl, rfl⟩
  fixed event job job' called going := by
    cases event <;> cases state : job.state <;> simp_all [guardedEscrow] <;> rw [← called]

def funding : List EscrowLabel :=
  [.createEscrowJob 1 7 ⟨1, 1, .base, 20000, 10⟩, .onchain (.base, 7) (.setBudget 20000), .fundEscrowJob 0 1 1]

def unbooked (s : EscrowWorld) : Bool :=
  (escrowStep Workspace.hashes guardedEscrow s (.reconcileEscrowJob 1 ⟨.funded, 20000⟩)).any fun s' =>
    (s'.db.escrowJobs.find? 1).any fun job => job.state = .funded && job.reservation_id.isNone

def confirmedBy (s : EscrowWorld) : EscrowLabel → Bool
  | .landFund _ _ | .applyEscrowStateChange _ .expired => false
  | .fundEscrowJob _ id reservationId => (s.db.escrowJobs.find? id).all fun job =>
      (s.db.sources.rows.any fun source => source.org_id = job.org_id ∧ source.chain = job.chain ∧ source.status = .active) &&
        (s.db.reservations.find? reservationId).isNone
  | .reconcileEscrowJob id read => (s.located? id).all fun (_, chainJob) => read = chainJob.now
  | _ => true

theorem confirmed_of_confirmedBy {s : EscrowWorld} {label : EscrowLabel} (checked : confirmedBy s label = true) :
    Confirmed s label := by
  cases label with
  | fundEscrowJob now id reservationId =>
    intro job found
    simp only [confirmedBy, found, Option.all_some, Bool.and_eq_true, List.any_eq_true, decide_eq_true_eq,
      Option.isNone_iff_eq_none] at checked
    exact checked
  | applyEscrowStateChange id next =>
    cases next with
    | expired => cases checked
    | _ => trivial
  | reconcileEscrowJob id read =>
    intro job chainJob located
    simpa [confirmedBy, located] using checked
  | landFund => cases checked
  | _ => trivial

end EscrowWorkspace

/-- The fund transaction lands before the call looks for a payment source and fails: the mirror then catches up with the
chain, and nothing is reserved. -/
theorem funded_without_reservation : ∃ events s s',
    Run (escrowStep Workspace.hashes EscrowWorkspace.guardedEscrow) (EscrowWorkspace.world .empty)
      (events ++ [(s, .reconcileEscrowJob 1 ⟨.funded, 20000⟩)]) s' ∧ ¬EscrowAgrees s' 1 := by
  obtain ⟨events, s, run, unbooked⟩ : ∃ events s,
      Run (escrowStep Workspace.hashes EscrowWorkspace.guardedEscrow) (EscrowWorkspace.world .empty) events s ∧
        EscrowWorkspace.unbooked s = true :=
    exists_run EscrowWorkspace.funding (fun s => EscrowWorkspace.unbooked s = true) (by decide)
  obtain ⟨s', taken, found⟩ := (Option.any_eq_true _ _).mp unbooked
  obtain ⟨job, located, state⟩ := (Option.any_eq_true _ _).mp found
  simp only [Bool.and_eq_true, decide_eq_true_eq, Option.isNone_iff_eq_none] at state
  refine ⟨events, s, s', run.next taken, ?_⟩
  rintro ⟨other, chainJob, both, -, booked⟩
  obtain rfl := Option.some.inj (located.symm.trans (located?_eq_some both).1)
  rw [Booked, state.1] at booked
  obtain ⟨id, row, held, -⟩ := booked
  rw [state.2] at held
  cases held

theorem submitted_reconciled : ∃ events s s',
    Run (escrowStep Workspace.hashes EscrowWorkspace.guardedEscrow) (EscrowWorkspace.world EscrowWorkspace.source)
      (events ++ [(s, .reconcileEscrowJob 1 ⟨.submitted, 20000⟩)]) s' ∧ EscrowAgrees s' 1 := by
  obtain ⟨events, s, run, confirmed, ready⟩ : ∃ events s,
      Run (escrowStep Workspace.hashes EscrowWorkspace.guardedEscrow) (EscrowWorkspace.world EscrowWorkspace.source) events s ∧
        Conforms Confirmed events ∧
        ((escrowStep Workspace.hashes EscrowWorkspace.guardedEscrow s (.reconcileEscrowJob 1 ⟨.submitted, 20000⟩)).isSome &&
          EscrowWorkspace.confirmedBy s (.reconcileEscrowJob 1 ⟨.submitted, 20000⟩)) = true :=
    exists_conforming_run (EscrowWorkspace.funding ++ [.onchain (.base, 7) .submit]) EscrowWorkspace.confirmedBy
      (fun s => ((escrowStep Workspace.hashes EscrowWorkspace.guardedEscrow s (.reconcileEscrowJob 1 ⟨.submitted, 20000⟩)).isSome &&
        EscrowWorkspace.confirmedBy s (.reconcileEscrowJob 1 ⟨.submitted, 20000⟩)) = true)
      (fun _ _ => EscrowWorkspace.confirmed_of_confirmedBy) (by decide)
  rw [Bool.and_eq_true] at ready
  obtain ⟨s', taken⟩ := Option.isSome_iff_exists.mp ready.1
  refine ⟨events, s, s', run.next taken, escrow_mirror_agrees EscrowWorkspace.guardedEscrow_documented ⟨rfl, rfl⟩ (run.next taken) ?_⟩
  rw [conforms_append, conforms_singleton]
  exact ⟨confirmed, EscrowWorkspace.confirmed_of_confirmedBy ready.2⟩

end AgentOps.Payments
