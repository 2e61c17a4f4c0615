import AgentOps.Payments.Finalize

namespace AgentOps.Payments
open Lib Identity

/-! # What a payment does to the tables -/

/-! ## Rows as they change -/

def X402AttemptStatus.stage : X402AttemptStatus → Nat
  | .reserved => 0
  | .submitting => 1
  | .settled | .failed | .unknown => 2

theorem X402AttemptStatus.stage_eq_zero {status : X402AttemptStatus} : status.stage = 0 ↔ status = .reserved := by
  cases status <;> simp [stage]

theorem X402AttemptStatus.stage_le (status : X402AttemptStatus) : status.stage ≤ 2 := by
  cases status <;> simp [stage]

def SameAttempt (row row' : X402AttemptRow) : Prop :=
  row' = { row with
    status := row'.status, payment_metadata := row'.payment_metadata, retained := row'.retained
    error_code := row'.error_code }

theorem SameAttempt.trans {a b c : X402AttemptRow} (first : SameAttempt a b) (second : SameAttempt b c) :
    SameAttempt a c := by
  unfold SameAttempt at *
  rw [second, first]

structure Revises (row row' : X402AttemptRow) : Prop where
  same : SameAttempt row row'
  advances : row'.status = row.status ∨ row.status.stage < row'.status.stage
  gate : row'.status.stage < 2 → row'.payment_metadata.approvalId = row.payment_metadata.approvalId ∧
    row'.payment_metadata.decisionId = row.payment_metadata.decisionId

theorem Revises.refl (row : X402AttemptRow) : Revises row row := ⟨rfl, .inl rfl, fun _ => ⟨rfl, rfl⟩⟩

theorem Revises.stage_le {row row' : X402AttemptRow} (revises : Revises row row') :
    row.status.stage ≤ row'.status.stage := by
  rcases revises.advances with same | later
  · rw [same]
  · omega

theorem Revises.trans (a b c : X402AttemptRow) (first : Revises a b) (second : Revises b c) : Revises a c := by
  refine ⟨first.same.trans second.same, ?_, ?_⟩
  · rcases second.advances with same | later
    · rw [same]
      exact first.advances
    · right
      have earlier := first.stage_le
      omega
  · intro early
    have later := second.stage_le
    have gate := first.gate (by omega)
    have gate' := second.gate early
    exact ⟨gate'.1.trans gate.1, gate'.2.trans gate.2⟩

structure SameReservation (row row' : PaymentReservationRow) : Prop where
  same : row' = { row with status := row'.status }
  closed : row.status ≠ .reserved → row'.status = row.status

theorem SameReservation.refl (row : PaymentReservationRow) : SameReservation row row := ⟨rfl, fun _ => rfl⟩

theorem SameReservation.trans (a b c : PaymentReservationRow) (first : SameReservation a b)
    (second : SameReservation b c) : SameReservation a c := by
  refine ⟨by rw [second.same, first.same], ?_⟩
  intro closed
  have same := first.closed closed
  rw [second.closed (by rw [same]; exact closed), same]

theorem SameReservation.account {row row' : PaymentReservationRow} (same : SameReservation row row') :
    row'.account = row.account := by
  rw [same.same]
  rfl

theorem SameReservation.amount {row row' : PaymentReservationRow} (same : SameReservation row row') :
    row'.amount_usdc = row.amount_usdc := by rw [same.same]

def SameSource (row row' : PaymentSourceRow) : Prop :=
  row'.id = row.id ∧ row'.org_id = row.org_id ∧ row'.provider = row.provider ∧ row'.status = row.status

theorem SameSource.refl (row : PaymentSourceRow) : SameSource row row := ⟨rfl, rfl, rfl, rfl⟩

theorem SameSource.trans (a b c : PaymentSourceRow) (first : SameSource a b) (second : SameSource b c) :
    SameSource a c :=
  ⟨second.1.trans first.1, second.2.1.trans first.2.1, second.2.2.1.trans first.2.2.1,
    second.2.2.2.trans first.2.2.2⟩

/-! ## Reservations and counters -/

section Reservation

variable (db : Db) (id : ReservationId) (orgId : OrgId) (status : ReservationStatus)

theorem closeReservation_eq :
    db.closeReservation id orgId status =
      { db with reservations := (db.closeReservation id orgId status).reservations } := by
  unfold Db.closeReservation
  split
  · rfl
  · split <;> rfl

theorem closeReservation_revised :
    Table.Revised SameReservation db.reservations (db.closeReservation id orgId status).reservations := by
  unfold Db.closeReservation
  split
  · exact .refl SameReservation.refl _
  · rename_i row found
    split
    · rename_i eligible
      have located : db.reservations.find? row.id = some row := by rw [Table.key_of_find? found]; exact found
      exact Table.revised_put SameReservation.refl (r := { row with status }) located
        ⟨rfl, fun closed => (closed eligible.2).elim⟩
    · exact .refl SameReservation.refl _

variable {db id orgId}

theorem closeReservation_of_open {row : PaymentReservationRow} (found : db.reservations.find? id = some row)
    (inOrg : row.org_id = orgId) (isOpen : row.status = .reserved) :
    db.closeReservation id orgId status = { db with reservations := db.reservations.put { row with status } } := by
  simp [Db.closeReservation, found, inOrg, isOpen]

theorem closeReservation_of_closed {row : PaymentReservationRow} (found : db.reservations.find? id = some row)
    (closed : row.status ≠ .reserved) : db.closeReservation id orgId status = db := by
  simp [Db.closeReservation, found, closed]

end Reservation

def AgentPaymentAccountRow.recount (row : AgentPaymentAccountRow) (reserved spent : Nat → Nat) :
    AgentPaymentAccountRow :=
  { row with reserved_usdc := reserved row.reserved_usdc, spent_usdc := spent row.spent_usdc }

theorem closeReservation_find? {db : Db} {id other : ReservationId} {orgId : OrgId} {row : PaymentReservationRow}
    (status : ReservationStatus) (found : db.reservations.find? other = some row) :
    (db.closeReservation id orgId status).reservations.find? other =
      some (if id = other ∧ row.org_id = orgId ∧ row.status = .reserved then { row with status } else row) := by
  unfold Db.closeReservation
  by_cases same : id = other
  · subst same
    have located : db.reservations.find? row.id = some row := by
      rw [Table.key_of_find? found]
      exact found
    by_cases eligible : row.org_id = orgId ∧ row.status = .reserved
    · simp only [found]
      rw [if_pos eligible, if_pos ⟨trivial, eligible⟩, ← Table.key_of_find? found]
      exact Table.find?_put_self (r := { row with status }) located
    · simp only [found]
      rw [if_neg eligible, if_neg fun both => eligible both.2]
      exact found
  · rw [if_neg (fun both => same both.1)]
    split
    · exact found
    · rename_i closing foundClosing
      split
      · rw [← found]
        refine Table.find?_put_ne ?_
        show closing.id ≠ other
        rw [Table.key_of_find? foundClosing]
        exact same
      · exact found

inductive Recounted (accounts : Table AgentPaymentAccountRow.key) (account : AccountId) (reserved spent : Nat → Nat) :
    Table AgentPaymentAccountRow.key → Prop where
  | missing (none : accounts.find? account = none) : Recounted accounts account reserved spent accounts
  | counted {row : AgentPaymentAccountRow} (found : accounts.find? account = some row) :
      Recounted accounts account reserved spent (accounts.put (row.recount reserved spent))

theorem addReserved_eq (db : Db) (account : AccountId) (amount : Nat) :
    ∃ accounts, db.addReserved account amount = { db with accounts } ∧
      Recounted db.accounts account (· + amount) id accounts := by
  unfold Db.addReserved
  split
  · rename_i missing
    exact ⟨_, rfl, .missing missing⟩
  · rename_i found
    exact ⟨_, rfl, .counted found⟩

/-- An update that lowers `reserved_usdc` finds at least that much there. -/
def Covers (accounts : Table AgentPaymentAccountRow.key) (account : AccountId) (amount : Nat) : Prop :=
  ∀ row, accounts.find? account = some row → amount ≤ row.reserved_usdc

theorem subReserved_ok {db db' : Db} {account : AccountId} {amount : Nat}
    (counted : db.subReserved account amount = .ok db') :
    ∃ accounts, db' = { db with accounts } ∧ Recounted db.accounts account (· - amount) id accounts ∧
      Covers db.accounts account amount := by
  unfold Db.subReserved at counted
  split at counted
  · rename_i missing
    obtain rfl := Except.ok.inj counted
    exact ⟨_, rfl, .missing missing, by simp [Covers, missing]⟩
  · rename_i row found
    split at counted
    · cases counted
    · rename_i enough
      obtain rfl := Except.ok.inj counted
      refine ⟨_, rfl, .counted found, ?_⟩
      intro row' found'
      obtain rfl : row = row' := by rw [found] at found'; exact Option.some.inj found'
      exact Nat.le_of_not_lt enough

theorem moveToSpent_ok {db db' : Db} {account : AccountId} {amount : Nat}
    (counted : db.moveToSpent account amount = .ok db') :
    ∃ accounts, db' = { db with accounts } ∧ Recounted db.accounts account (· - amount) (· + amount) accounts ∧
      Covers db.accounts account amount := by
  unfold Db.moveToSpent at counted
  split at counted
  · rename_i missing
    obtain rfl := Except.ok.inj counted
    exact ⟨_, rfl, .missing missing, by simp [Covers, missing]⟩
  · rename_i row found
    split at counted
    · cases counted
    · rename_i enough
      obtain rfl := Except.ok.inj counted
      refine ⟨_, rfl, .counted found, ?_⟩
      intro row' found'
      obtain rfl : row = row' := by rw [found] at found'; exact Option.some.inj found'
      exact Nat.le_of_not_lt enough

/-! ## Attempts -/

theorem scrub_revises (row : X402AttemptRow) (now : Time) : Revises row (row.scrub now) := by
  unfold X402AttemptRow.scrub
  split
  · exact ⟨rfl, .inl rfl, fun _ => ⟨rfl, rfl⟩⟩
  · exact .refl row

@[simp] theorem scrub_id (row : X402AttemptRow) (now : Time) : (row.scrub now).id = row.id := by
  rw [(scrub_revises row now).same]

@[simp] theorem scrub_status (row : X402AttemptRow) (now : Time) : (row.scrub now).status = row.status := by
  unfold X402AttemptRow.scrub
  split <;> rfl

theorem attemptFor_eq_some {db : Db} {connectionId : ConnectionId} {key : String} {row : X402AttemptRow}
    (found : db.attemptFor connectionId key = some row) :
    row ∈ db.attempts ∧ row.connection_id = connectionId ∧ row.idempotency_key = key := by
  have keyed := List.find?_some found
  exact ⟨List.mem_of_find?_eq_some found, by simpa using keyed⟩

theorem attemptFor_eq_none {db : Db} {connectionId : ConnectionId} {key : String} :
    db.attemptFor connectionId key = none ↔
      ∀ row ∈ db.attempts, row.connection_id = connectionId → row.idempotency_key ≠ key := by
  simp [Db.attemptFor, List.find?_eq_none, Table.mem_def]

def Scrubbed (now : Time) (attempts attempts' : Table X402AttemptRow.id) : Prop :=
  ∀ id, attempts'.find? id = attempts.find? id ∨ attempts'.find? id = (attempts.find? id).map (·.scrub now)

theorem Scrubbed.revised {now : Time} {attempts attempts' : Table X402AttemptRow.id}
    (scrubbed : Scrubbed now attempts attempts') : Table.Revised Revises attempts attempts' := by
  intro id
  rcases scrubbed id with same | dropped
  · rw [same]
    exact Table.Revised.refl Revises.refl attempts id
  · rw [dropped]
    cases attempts.find? id with
    | none => exact .none
    | some row => exact .some (scrub_revises row now)

theorem scrubbed_put {now : Time} {attempts attempts' : Table X402AttemptRow.id} {row : X402AttemptRow}
    (scrubbed : Scrubbed now attempts attempts') (member : row ∈ attempts) :
    Scrubbed now attempts (attempts'.put (row.scrub now)) := by
  intro id
  by_cases same : row.id = id
  · subst same
    have located := Table.find?_of_mem member
    obtain ⟨row', located', -⟩ := scrubbed.revised.grows _ _ located
    right
    rw [located, ← scrub_id row now]
    exact Table.find?_put_self (by rw [scrub_id]; exact located')
  · rw [Table.find?_put_ne (by simpa using same)]
    exact scrubbed id

theorem Scrubbed.refl (now : Time) (attempts : Table X402AttemptRow.id) : Scrubbed now attempts attempts :=
  fun _ => .inl rfl

theorem findAttempt_some {db db' : Db} {now : Time} {connectionId : ConnectionId} {key : String}
    {found : Option X402AttemptRow} (read : findAttempt db now connectionId key = (db', found)) :
    (found = none ∧ db' = db ∧ db.attemptFor connectionId key = none) ∨
      ∃ row, db.attemptFor connectionId key = some row ∧ found = some (row.scrub now) ∧
        db' = { db with attempts := db.attempts.put (row.scrub now) } := by
  unfold findAttempt at read
  split at read
  · rename_i missing
    obtain ⟨rfl, rfl⟩ := Prod.mk.inj read
    exact .inl ⟨rfl, rfl, missing⟩
  · rename_i row located
    obtain ⟨rfl, rfl⟩ := Prod.mk.inj read
    exact .inr ⟨row, located, rfl, rfl⟩

theorem findAttempt_scrubbed {db db' : Db} {now : Time} {connectionId : ConnectionId} {key : String}
    {found : Option X402AttemptRow} (read : findAttempt db now connectionId key = (db', found)) :
    ∃ attempts, db' = { db with attempts } ∧ Scrubbed now db.attempts attempts := by
  rcases findAttempt_some read with ⟨-, rfl, -⟩ | ⟨row, located, -, rfl⟩
  · exact ⟨_, rfl, .refl now _⟩
  · exact ⟨_, rfl, scrubbed_put (.refl now _) (attemptFor_eq_some located).1⟩

theorem purge_scrubbed (db : Db) (now : Time) (locked : List AttemptId) (batchLimit : Nat) :
    ∃ attempts, purgeExpiredX402Results db now locked batchLimit = { db with attempts } ∧
      Scrubbed now db.attempts attempts := by
  refine ⟨_, rfl, ?_⟩
  have members : ∀ row ∈ ((db.attempts.rows.filter fun row => row.resultExpired now ∧ row.id ∉ locked).insertionSort
      expiryOrder).take (min batchLimit maxResultPurgeBatchLimit), row ∈ db.attempts := by
    intro row member
    have sorted := List.mem_of_mem_take member
    rw [List.mem_insertionSort] at sorted
    exact List.mem_of_mem_filter sorted
  have fold (batch : List X402AttemptRow) : ∀ attempts, Scrubbed now db.attempts attempts →
      (∀ row ∈ batch, row ∈ db.attempts) →
        Scrubbed now db.attempts (batch.foldl (fun attempts row => attempts.put (row.scrub now)) attempts) := by
    induction batch with
    | nil => exact fun _ scrubbed _ => scrubbed
    | cons row batch ih =>
      intro attempts scrubbed stored
      exact ih _ (scrubbed_put scrubbed (stored row (List.mem_cons_self ..)))
        fun row' member => stored row' (List.mem_cons_of_mem _ member)
  exact fold _ _ (.refl now _) members

/-- The attempt a call may write to: it is in the call's scope and in the status the write starts from. -/
structure Scoped (db : Db) (auth : ConnectionAuthResult) (id : AttemptId) (status : X402AttemptStatus)
    (row : X402AttemptRow) : Prop where
  found : db.attempts.find? id = some row
  org : row.org_id = auth.org_id
  connection : row.connection_id = auth.connection_id
  status : row.status = status

theorem Scoped.located {db : Db} {auth : ConnectionAuthResult} {id : AttemptId} {status : X402AttemptStatus}
    {row : X402AttemptRow} (inScope : Scoped db auth id status row) : db.attempts.find? row.id = some row := by
  rw [Table.key_of_find? inScope.found]
  exact inScope.found

theorem scopedAttempt_ok {db : Db} {auth : ConnectionAuthResult} {id : AttemptId} {status : X402AttemptStatus}
    {row : X402AttemptRow} (found : db.scopedAttempt id auth status = .ok row) : Scoped db auth id status row := by
  unfold Db.scopedAttempt at found
  split at found
  · cases found
  rename_i located
  split at found
  · cases found
  rename_i inScope
  split at found
  · cases found
  rename_i inStatus
  obtain rfl := Except.ok.inj found
  push Not at inScope inStatus
  exact ⟨located, inScope.1, inScope.2, inStatus⟩

theorem submittingAttempt_ok {db : Db} {auth : ConnectionAuthResult} {id : AttemptId} {row : X402AttemptRow}
    (found : db.submittingAttempt id auth = .ok row) : Scoped db auth id .submitting row := by
  unfold Db.submittingAttempt at found
  split at found
  · cases found
  rename_i located
  split at found
  · rename_i eligible
    obtain rfl := Except.ok.inj found
    exact ⟨located, eligible.1, eligible.2.1, eligible.2.2⟩
  · cases found

theorem markSubmitting_ok {db db' : Db} {auth : ConnectionAuthResult} {id : AttemptId}
    (marked : markSubmitting db auth id = .ok db') :
    ∃ row, Scoped db auth id .reserved row ∧
      db' = { db with attempts := db.attempts.put { row with status := .submitting } } := by
  unfold markSubmitting at marked
  split at marked
  · cases marked
  · rename_i row found
    obtain rfl := Except.ok.inj marked
    exact ⟨row, scopedAttempt_ok found, rfl⟩

def withResumeReason (row : X402AttemptRow) (reason : String) : X402AttemptRow :=
  { row with payment_metadata := row.payment_metadata.merge { X402PaymentMetadata.empty with resumeReason := some reason } }

theorem markRetryable_cases (db : Db) (auth : ConnectionAuthResult) (id : AttemptId) (reason : String) :
    markPaidHttpAttemptRetryable db auth id reason = db ∨
      ∃ row, Scoped db auth id .reserved row ∧
        markPaidHttpAttemptRetryable db auth id reason =
          { db with attempts := db.attempts.put (withResumeReason row reason) } := by
  unfold markPaidHttpAttemptRetryable
  split
  · exact .inl rfl
  · rename_i row found
    split
    · rename_i eligible
      exact .inr ⟨row, ⟨found, eligible.1, eligible.2.1, eligible.2.2⟩, rfl⟩
    · exact .inl rfl

def withEvidence (row : X402AttemptRow) (settlement : RuntimeX402SettlementResult) (now : Time) : X402AttemptRow :=
  { row with
    payment_metadata := row.payment_metadata.merge
      { X402PaymentMetadata.empty with
        providerMode := some settlement.providerMode
        payer := settlement.payment.bind ProviderPayment.payer
        transactionHash := settlement.payment.bind ProviderPayment.transaction }
    retained := some ⟨.evidence settlement, now + fifteenMinutes⟩ }

theorem storing_ok {db db' : Db} {texts : List String} (stored : db.storing texts = .ok db') :
    db = db' ∧ ∀ text ∈ texts, storableText text = true := by
  unfold Db.storing at stored
  split at stored
  · rename_i accepted
    exact ⟨Except.ok.inj stored, List.all_eq_true.mp accepted⟩
  · cases stored

theorem persistEvidence_ok {db db' : Db} {now : Time} {auth : ConnectionAuthResult} {id : AttemptId}
    {settlement : RuntimeX402SettlementResult}
    (persisted : persistPaidHttpProviderEvidence db now auth id settlement = .ok db') :
    ∃ row, Scoped db auth id .submitting row ∧
      db' = { db with attempts := db.attempts.put (withEvidence row settlement now) } := by
  unfold persistPaidHttpProviderEvidence at persisted
  obtain ⟨parsed, stored, persisted⟩ := bind_eq_ok.mp persisted
  obtain ⟨rfl, -⟩ := storing_ok stored
  obtain ⟨row, found, persisted⟩ := bind_eq_ok.mp persisted
  obtain rfl := Except.ok.inj persisted
  exact ⟨row, submittingAttempt_ok found, rfl⟩

theorem withResumeReason_revises (row : X402AttemptRow) (reason : String) : Revises row (withResumeReason row reason) :=
  ⟨rfl, .inl rfl, fun _ => ⟨rfl, rfl⟩⟩

theorem withEvidence_revises (row : X402AttemptRow) (settlement : RuntimeX402SettlementResult) (now : Time) :
    Revises row (withEvidence row settlement now) :=
  ⟨rfl, .inl rfl, fun _ => ⟨rfl, rfl⟩⟩

theorem submitting_revises {row : X402AttemptRow} (reserved : row.status = .reserved) :
    Revises row { row with status := .submitting } :=
  ⟨rfl, .inr (by simp [reserved, X402AttemptStatus.stage]), fun _ => ⟨rfl, rfl⟩⟩

inductive Cancelled (db : Db) (auth : ConnectionAuthResult) (candidate : StrandedCandidate) : Db → Prop where
  | passed : Cancelled db auth candidate db
  | released {reservation : PaymentReservationRow} {account : AgentPaymentAccountRow} {attempt : X402AttemptRow}
      (foundReservation : db.reservations.find? candidate.reservation_id = some reservation)
      (isOpen : reservation.status = .reserved)
      (foundAccount : db.accounts.find? (accountOf auth) = some account)
      (covers : candidate.amount_usdc ≤ account.reserved_usdc)
      (foundAttempt : db.attempts.find? candidate.attempt_id = some attempt) (reserved : attempt.status = .reserved) :
      Cancelled db auth candidate
        { db with
          reservations := db.reservations.put { reservation with status := .released }
          accounts := db.accounts.put (account.recount (· - candidate.amount_usdc) id)
          attempts := db.attempts.put { attempt with status := .failed, error_code := some candidate.error_code } }

theorem cancelCandidate_ok {db db' : Db} {auth : ConnectionAuthResult} {candidate : StrandedCandidate}
    (cancelled : cancelCandidate db auth candidate = .ok db') : Cancelled db auth candidate db' := by
  unfold cancelCandidate at cancelled
  split at cancelled
  · obtain rfl := Except.ok.inj cancelled
    exact .passed
  rename_i reservation foundReservation
  split at cancelled
  · obtain rfl := Except.ok.inj cancelled
    exact .passed
  rename_i eligible
  split at cancelled
  · cases cancelled
  rename_i account foundAccount
  split at cancelled
  · cases cancelled
  rename_i covered
  split at cancelled
  · cases cancelled
  rename_i attempt foundAttempt
  split at cancelled
  · cases cancelled
  rename_i reserved
  push Not at eligible reserved
  obtain rfl := Except.ok.inj cancelled
  exact .released foundReservation eligible.2 foundAccount (Nat.le_of_not_lt covered) foundAttempt reserved.2.2

/-- What cancelling one candidate preserves, cancelling them all preserves. -/
theorem cancelCandidates_invariant {auth : ConnectionAuthResult} (inv : Db → Prop) {candidates : List StrandedCandidate}
    {db db' : Db} (cancelled : cancelCandidates auth db candidates = .ok db') (start : inv db)
    (preserved : ∀ candidate ∈ candidates, ∀ db db', inv db → Cancelled db auth candidate db' → inv db') : inv db' := by
  induction candidates generalizing db with
  | nil =>
    obtain rfl := Except.ok.inj cancelled
    exact start
  | cons candidate candidates ih =>
    unfold cancelCandidates at cancelled
    split at cancelled
    · cases cancelled
    · rename_i next first
      exact ih cancelled (preserved candidate (List.mem_cons_self ..) _ _ start (cancelCandidate_ok first))
        fun candidate' member => preserved candidate' (List.mem_cons_of_mem _ member)

/-! ## Preparing -/

def preparedAttempt (id : AttemptId) (input : CreateX402AttemptInput) (gate : PolicyGate) (mode : ProviderMode)
    (reservationId : ReservationId) : X402AttemptRow :=
  { attemptOf id input with payment_metadata := X402PaymentMetadata.empty.merge (preparedMetadata gate mode reservationId) }

structure Prepared (hashes : Hashes) (db : Db) (began : Time) (auth : ConnectionAuthResult) (key : String)
    (requestHash : Hash) (quote : RuntimeQuote) (source : PaymentSourceRow) (resource : JsonObject) (gate : PolicyGate)
    (attemptId : AttemptId) (reservationId : ReservationId) (db' : Db) (payment : PreparedPaidHttpPayment) : Prop where
  scope : validScope db (attemptInput auth key requestHash payment.quoteHash quote source) = true
  payload : payment.quotePayload = quotePayloadOf quote resource source
  hash : payment.quoteHash = hashes.sha256Hex payment.quotePayload
  attempt : payment.attempt = attemptOf attemptId (attemptInput auth key requestHash payment.quoteHash quote source)
  rest : payment.mode = orgPaymentMode ∧ payment.policyGate = gate ∧ payment.quote = quote ∧
    payment.reservationId = reservationId ∧ payment.source = source
  tables : ∃ attempts reservations accounts,
    db.attempts.insert? (preparedAttempt attemptId (attemptInput auth key requestHash payment.quoteHash quote source)
      gate payment.quotePayload.mode reservationId) = some attempts ∧
    db.reservations.insert? (reservationOf reservationId began auth quote source attemptId payment.quoteHash
      payment.quotePayload) = some reservations ∧
    Recounted db.accounts (accountOf auth) (· + quote.amountMicros) id accounts ∧
    db' = { db with
      attempts, reservations, accounts
      postings :=
        { org_id := auth.org_id, agent_id := auth.agent_id, mode := orgPaymentMode, chain := some quote.chain
          entry_type := .reserve, amount_usdc := -quote.amountMicros, reservation_id := some reservationId
          attempt_id := some attemptId, reason_code := "x402_attempt_prepared", created_by := "system" } ::
        db.postings }

theorem writePrepared_ok {hashes : Hashes} {db db' : Db} {began : Time} {auth : ConnectionAuthResult} {key : String}
    {requestHash : Hash} {quote : RuntimeQuote} {source : PaymentSourceRow} {resource : JsonObject} {gate : PolicyGate}
    {attemptId : AttemptId} {reservationId : ReservationId} {payment : PreparedPaidHttpPayment}
    (fresh : db.attemptFor auth.connection_id key = none)
    (written : writePrepared hashes db began auth key requestHash quote source resource gate attemptId reservationId =
      .ok (db', payment)) :
    Prepared hashes db began auth key requestHash quote source resource gate attemptId reservationId db' payment := by
  unfold writePrepared createAttempt at written
  simp only [attemptInput, fresh] at written
  split at written
  · cases written
  rename_i created
  split at created
  · cases created
  rename_i scope
  split at created
  · cases created
  rename_i attempts insertedAttempt
  obtain ⟨rfl, rfl⟩ := Prod.mk.inj (Except.ok.inj created)
  split at written
  · cases written
  rename_i reservations insertedReservation
  obtain ⟨accounts, added, counted⟩ := addReserved_eq { db with attempts, reservations } (accountOf auth) quote.amountMicros
  obtain ⟨rfl, rfl⟩ := Prod.mk.inj (Except.ok.inj written)
  refine ⟨by simpa [attemptInput] using scope, rfl, rfl, rfl, ⟨rfl, rfl, rfl, rfl, rfl⟩, _, reservations, accounts,
    Table.insert?_put insertedAttempt rfl, insertedReservation, counted, ?_⟩
  rw [added]
  rfl

/-! ## Finalizing -/

def finalAttempt (row : X402AttemptRow) (status : X402AttemptStatus) (metadata : X402PaymentMetadata)
    (settlement : RuntimeX402SettlementResult) (result : RuntimeX402PaymentResult) (errorCode : Option String)
    (now : Time) : X402AttemptRow :=
  { row with
    status, payment_metadata := metadata, error_code := errorCode
    retained := some ⟨.result settlement result, now + fifteenMinutes⟩ }

theorem finalAttempt_revises {row : X402AttemptRow} {status : X402AttemptStatus} {metadata : X402PaymentMetadata}
    {settlement : RuntimeX402SettlementResult} {result : RuntimeX402PaymentResult} {errorCode : Option String}
    {now : Time} (submitting : row.status = .submitting) (final : status.stage = 2) :
    Revises row (finalAttempt row status metadata settlement result errorCode now) := by
  refine ⟨rfl, .inr ?_, fun early => ?_⟩
  · show row.status.stage < status.stage
    rw [submitting, final]
    decide
  · have late : status.stage < 2 := early
    omega

inductive Finalized (db : Db) (now : Time) (auth : ConnectionAuthResult) (payment : PreparedPaidHttpPayment)
    (settlement : RuntimeX402SettlementResult) (eventId : EventId) : Db → RuntimeX402PaymentResult → Prop where
  | settled {answer : ProviderPayment} {row : X402AttemptRow} {accounts : Table AgentPaymentAccountRow.key}
      {sources : Table PaymentSourceRow.id} {events : Table PaymentEventRow.id} {result : RuntimeX402PaymentResult}
      (answered : settlement.payment = some answer) (status : answer.status = .settled)
      (inScope : Scoped db auth payment.attempt.id .submitting row)
      (counted : Recounted db.accounts (accountOf auth) (· - payment.quote.amountMicros)
        (· + payment.quote.amountMicros) accounts)
      (covers : Covers db.accounts (accountOf auth) payment.quote.amountMicros)
      (debited : Table.Revised SameSource db.sources sources)
      (inserted : db.events.insert? (eventOf eventId auth payment settlement .settled
        (.settled answer.network answer.transaction)) = some events) :
      Finalized db now auth payment settlement eventId
        { db with
          reservations := (db.closeReservation payment.reservationId auth.org_id .settled).reservations
          accounts, sources, events
          postings := postingOf auth payment .settle "x402_payment_settled" :: db.postings
          attempts := db.attempts.put
            (finalAttempt row .settled (finalMetadata eventId payment settlement) settlement result none now) } result
  | failed {row : X402AttemptRow} {accounts : Table AgentPaymentAccountRow.key} {events : Table PaymentEventRow.id}
      {result : RuntimeX402PaymentResult} (status : settlementStatus settlement = some .failed)
      (inScope : Scoped db auth payment.attempt.id .submitting row)
      (counted : Recounted db.accounts (accountOf auth) (· - payment.quote.amountMicros) id accounts)
      (covers : Covers db.accounts (accountOf auth) payment.quote.amountMicros)
      (inserted : db.events.insert? (eventOf eventId auth payment settlement .failed
        (.terminal (terminalErrorCode settlement) .failed)) = some events) :
      Finalized db now auth payment settlement eventId
        { db with
          reservations := (db.closeReservation payment.reservationId auth.org_id .released).reservations
          accounts, events
          postings := postingOf auth payment .release "x402_payment_failed" :: db.postings
          attempts := db.attempts.put (finalAttempt row .failed
            (row.payment_metadata.merge (finalMetadata eventId payment settlement)) settlement result
            (some (terminalErrorCode settlement)) now) } result
  | unknown {row : X402AttemptRow} {events : Table PaymentEventRow.id} {result : RuntimeX402PaymentResult}
      (status : recordedStatus settlement = .unknown) (inScope : Scoped db auth payment.attempt.id .submitting row)
      (inserted : db.events.insert? (eventOf eventId auth payment settlement .submitted
        (.terminal (terminalErrorCode settlement) .unknown)) = some events) :
      Finalized db now auth payment settlement eventId
        { db with
          events
          attempts := db.attempts.put (finalAttempt row .unknown
            (row.payment_metadata.merge (finalMetadata eventId payment settlement)) settlement result
            (some (terminalErrorCode settlement)) now) } result

theorem debitSource_ok {db db' : Db} {source : PaymentSourceRow} {amount : Nat}
    (debited : db.debitSource source amount = .ok db') :
    ∃ sources, db' = { db with sources } ∧ Table.Revised SameSource db.sources sources := by
  unfold Db.debitSource at debited
  split at debited
  · obtain rfl := Except.ok.inj debited
    exact ⟨_, rfl, .refl SameSource.refl _⟩
  split at debited
  · obtain rfl := Except.ok.inj debited
    exact ⟨_, rfl, .refl SameSource.refl _⟩
  rename_i row found
  split at debited
  · cases debited
  · obtain rfl := Except.ok.inj debited
    have located : db.sources.find? row.id = some row := by rw [Table.key_of_find? found]; exact found
    exact ⟨_, rfl, Table.revised_put SameSource.refl located ⟨rfl, rfl, rfl, rfl⟩⟩

theorem insertEvent_ok {db db' : Db} {event : PaymentEventRow} (inserted : db.insertEvent event = .ok db') :
    ∃ events, db' = { db with events } ∧ db.events.insert? event = some events := by
  unfold Db.insertEvent at inserted
  split at inserted
  · cases inserted
  · rename_i events found
    obtain rfl := Except.ok.inj inserted
    exact ⟨events, rfl, found⟩

theorem finalizeSettled_ok {db db' : Db} {now : Time} {auth : ConnectionAuthResult} {payment : PreparedPaidHttpPayment}
    {settlement : RuntimeX402SettlementResult} {answer : ProviderPayment} {eventId : EventId}
    {result : RuntimeX402PaymentResult} (answered : settlement.payment = some answer) (status : answer.status = .settled)
    (finalized : finalizeSettledPaidHttpPayment db now auth payment settlement answer eventId = .ok (db', result)) :
    Finalized db now auth payment settlement eventId db' result := by
  unfold finalizeSettledPaidHttpPayment at finalized
  obtain ⟨counted, moved, finalized⟩ := bind_eq_ok.mp finalized
  obtain ⟨debited, taken, finalized⟩ := bind_eq_ok.mp finalized
  obtain ⟨parsed, stored, finalized⟩ := bind_eq_ok.mp finalized
  obtain ⟨recorded, inserted, finalized⟩ := bind_eq_ok.mp finalized
  obtain ⟨row, found, finalized⟩ := bind_eq_ok.mp finalized
  rw [closeReservation_eq] at moved
  obtain ⟨accounts, rfl, recounted, covers⟩ := moveToSpent_ok moved
  obtain ⟨sources, rfl, sameSources⟩ := debitSource_ok taken
  obtain ⟨rfl, -⟩ := storing_ok stored
  obtain ⟨events, rfl, insertedEvent⟩ := insertEvent_ok inserted
  obtain ⟨rfl, rfl⟩ := Prod.mk.inj (Except.ok.inj finalized)
  have inScope := submittingAttempt_ok found
  exact .settled answered status ⟨inScope.found, inScope.org, inScope.connection, inScope.status⟩ recounted covers
    sameSources insertedEvent

theorem finalizeTerminal_failed_ok {db db' : Db} {now : Time} {auth : ConnectionAuthResult}
    {payment : PreparedPaidHttpPayment} {settlement : RuntimeX402SettlementResult} {eventId : EventId}
    {result : RuntimeX402PaymentResult} (status : settlementStatus settlement = some .failed)
    (finalized : finalizeTerminalPaidHttpPayment db now auth payment settlement .failed eventId = .ok (db', result)) :
    Finalized db now auth payment settlement eventId db' result := by
  unfold finalizeTerminalPaidHttpPayment at finalized
  simp only [if_pos] at finalized
  obtain ⟨counted, lowered, finalized⟩ := bind_eq_ok.mp finalized
  obtain ⟨released, written, finalized⟩ := bind_eq_ok.mp finalized
  obtain ⟨parsed, stored, finalized⟩ := bind_eq_ok.mp finalized
  obtain ⟨recorded, inserted, finalized⟩ := bind_eq_ok.mp finalized
  obtain ⟨row, found, finalized⟩ := bind_eq_ok.mp finalized
  obtain rfl := Except.ok.inj written
  obtain ⟨rfl, -⟩ := storing_ok stored
  rw [closeReservation_eq] at lowered
  obtain ⟨accounts, rfl, recounted, covers⟩ := subReserved_ok lowered
  obtain ⟨events, rfl, insertedEvent⟩ := insertEvent_ok inserted
  obtain ⟨rfl, rfl⟩ := Prod.mk.inj (Except.ok.inj finalized)
  have inScope := submittingAttempt_ok found
  exact .failed status ⟨inScope.found, inScope.org, inScope.connection, inScope.status⟩ recounted covers insertedEvent

theorem finalizeTerminal_unknown_ok {db db' : Db} {now : Time} {auth : ConnectionAuthResult}
    {payment : PreparedPaidHttpPayment} {settlement : RuntimeX402SettlementResult} {eventId : EventId}
    {result : RuntimeX402PaymentResult} (status : recordedStatus settlement = .unknown)
    (finalized : finalizeTerminalPaidHttpPayment db now auth payment settlement .unknown eventId = .ok (db', result)) :
    Finalized db now auth payment settlement eventId db' result := by
  unfold finalizeTerminalPaidHttpPayment at finalized
  simp only [reduceCtorEq, if_false] at finalized
  obtain ⟨released, written, finalized⟩ := bind_eq_ok.mp finalized
  obtain rfl := Except.ok.inj written
  obtain ⟨parsed, stored, finalized⟩ := bind_eq_ok.mp finalized
  obtain ⟨rfl, -⟩ := storing_ok stored
  obtain ⟨recorded, inserted, finalized⟩ := bind_eq_ok.mp finalized
  obtain ⟨row, found, finalized⟩ := bind_eq_ok.mp finalized
  obtain ⟨events, rfl, insertedEvent⟩ := insertEvent_ok inserted
  obtain ⟨rfl, rfl⟩ := Prod.mk.inj (Except.ok.inj finalized)
  have inScope := submittingAttempt_ok found
  exact .unknown status ⟨inScope.found, inScope.org, inScope.connection, inScope.status⟩ insertedEvent

theorem finalizePaidHttpPayment_ok {db db' : Db} {now : Time} {auth : ConnectionAuthResult}
    {payment : PreparedPaidHttpPayment} {settlement : RuntimeX402SettlementResult} {eventId : EventId}
    {result : RuntimeX402PaymentResult}
    (finalized : finalizePaidHttpPayment db now auth payment settlement eventId = .ok (db', result)) :
    Finalized db now auth payment settlement eventId db' result := by
  unfold finalizePaidHttpPayment at finalized
  split at finalized
  · rename_i answer answered
    split at finalized
    · rename_i status
      exact finalizeSettled_ok answered status finalized
    · rename_i status
      exact finalizeTerminal_failed_ok (by simp [settlementStatus, answered, status]) finalized
    · rename_i status
      exact finalizeTerminal_unknown_ok (by simp [recordedStatus, settlementStatus, answered, status]) finalized
  · rename_i unanswered
    exact finalizeTerminal_unknown_ok (by simp [recordedStatus, settlementStatus, unanswered]) finalized

theorem Finalized.inScope {db db' : Db} {now : Time} {auth : ConnectionAuthResult} {payment : PreparedPaidHttpPayment}
    {settlement : RuntimeX402SettlementResult} {eventId : EventId} {result : RuntimeX402PaymentResult}
    (finalized : Finalized db now auth payment settlement eventId db' result) :
    ∃ row, Scoped db auth payment.attempt.id .submitting row := by
  cases finalized with
  | settled answered status inScope counted covers debited inserted => exact ⟨_, inScope⟩
  | failed status inScope counted covers inserted => exact ⟨_, inScope⟩
  | unknown status inScope inserted => exact ⟨_, inScope⟩

end AgentOps.Payments
