import AgentOps.Payments.Steps

namespace AgentOps.Payments
open Lib Identity

variable {hashes : Hashes} {db db' : Db}

/-! # Rows that belong together -/

/-- The reservation holds the money of the attempt, and its stored offer quotes that amount. -/
structure Backs (row : PaymentReservationRow) (attempt : X402AttemptRow) : Prop where
  reason : row.reason_code = .x402Attempt attempt.id
  account : row.account = (attempt.org_id, attempt.agent_id)
  connection : row.connection_id = some attempt.connection_id
  amount : row.amount_usdc = attempt.amount_usdc
  hash : row.quote_hash = attempt.quote_hash
  quote : ∃ payload quote, row.quote = some payload ∧
    quoteFromAccept payload.accept orgPaymentMode = .ok (some quote) ∧ quote.amountMicros = attempt.amount_usdc

theorem Backs.revise {row row' : PaymentReservationRow} {attempt attempt' : X402AttemptRow} (backs : Backs row attempt)
    (sameRow : SameReservation row row') (sameAttempt : SameAttempt attempt attempt') : Backs row' attempt' := by
  constructor
  · rw [sameRow.same, sameAttempt]
    exact backs.reason
  · rw [sameRow.account, sameAttempt]
    exact backs.account
  · rw [sameRow.same, sameAttempt]
    exact backs.connection
  · rw [sameRow.same, sameAttempt]
    exact backs.amount
  · rw [sameRow.same, sameAttempt]
    exact backs.hash
  · rw [sameRow.same, sameAttempt]
    exact backs.quote

structure Linked (db : Db) : Prop where
  /-- `UNIQUE (connection_id, idempotency_key)` -/
  key : ∀ t ∈ db.attempts, ∀ t' ∈ db.attempts, t.connection_id = t'.connection_id →
    t.idempotency_key = t'.idempotency_key → t = t'
  backed : ∀ t ∈ db.attempts, ∃ r ∈ db.reservations, Backs r t
  owner : ∀ r ∈ db.reservations, ∀ id, r.reason_code = .x402Attempt id →
    ∃ t, db.attempts.find? id = some t ∧ Backs r t
  single : ∀ r ∈ db.reservations, ∀ r' ∈ db.reservations, ∀ id, r.reason_code = .x402Attempt id →
    r'.reason_code = .x402Attempt id → r = r'
  account : ∀ r ∈ db.reservations, ∀ id, r.reason_code = .x402Attempt id →
    ∃ account, db.accounts.find? r.account = some account
  connection : ∀ t ∈ db.attempts, ∃ c, db.connections.find? t.connection_id = some c ∧ c.org_id = t.org_id ∧
    c.agent_id = t.agent_id
  source : ∀ t ∈ db.attempts, ∃ source, db.sources.find? t.source_id = some source ∧ source.org_id = t.org_id ∧
    source.status = .active
  job : ∀ j ∈ db.escrowJobs, ∀ id, j.reservation_id = some id →
    ∃ r, db.reservations.find? id = some r ∧ r.reason_code = .escrowJob j.id

structure Keeps (db db' : Db) : Prop where
  attempts : Table.Grows Revises db.attempts db'.attempts
  reservations : Table.Grows SameReservation db.reservations db'.reservations
  accounts : Table.Grows (fun _ _ => True) db.accounts db'.accounts
  sources : Table.Grows SameSource db.sources db'.sources
  connections : db'.connections = db.connections

theorem Keeps.refl (db : Db) : Keeps db db where
  attempts := .refl Revises.refl _
  reservations := .refl SameReservation.refl _
  accounts := .refl (fun _ => trivial) _
  sources := .refl SameSource.refl _
  connections := rfl

theorem Keeps.trans {db₁ db₂ db₃ : Db} (first : Keeps db₁ db₂) (second : Keeps db₂ db₃) : Keeps db₁ db₃ where
  attempts := first.attempts.trans Revises.trans second.attempts
  reservations := first.reservations.trans SameReservation.trans second.reservations
  accounts := first.accounts.trans (fun _ _ _ _ _ => trivial) second.accounts
  sources := first.sources.trans SameSource.trans second.sources
  connections := second.connections.trans first.connections

structure Amends (db db' : Db) : Prop where
  attempts : Table.Revised Revises db.attempts db'.attempts
  reservations : Table.Revised SameReservation db.reservations db'.reservations
  accounts : Table.Grows (fun _ _ => True) db.accounts db'.accounts
  sources : Table.Grows SameSource db.sources db'.sources
  connections : db'.connections = db.connections

theorem Amends.keeps (amends : Amends db db') : Keeps db db' where
  attempts := amends.attempts.grows
  reservations := amends.reservations.grows
  accounts := amends.accounts
  sources := amends.sources
  connections := amends.connections

theorem Amends.refl (db : Db) : Amends db db where
  attempts := .refl Revises.refl _
  reservations := .refl SameReservation.refl _
  accounts := .refl (fun _ => trivial) _
  sources := .refl SameSource.refl _
  connections := rfl

theorem Amends.trans {db₁ db₂ db₃ : Db} (first : Amends db₁ db₂) (second : Amends db₂ db₃) : Amends db₁ db₃ where
  attempts := first.attempts.trans Revises.trans second.attempts
  reservations := first.reservations.trans SameReservation.trans second.reservations
  accounts := first.accounts.trans (fun _ _ _ _ _ => trivial) second.accounts
  sources := first.sources.trans SameSource.trans second.sources
  connections := second.connections.trans first.connections

def SameJobs (db db' : Db) : Prop :=
  ∀ j' ∈ db'.escrowJobs, ∀ id, j'.reservation_id = some id → ∃ j ∈ db.escrowJobs, j.id = j'.id ∧ j.reservation_id = some id

theorem SameJobs.refl (db : Db) : SameJobs db db := fun j member _ reserved => ⟨j, member, rfl, reserved⟩

theorem Linked.amend (linked : Linked db) (amends : Amends db db') (jobs : SameJobs db db') : Linked db' := by
  have attemptOrigin (t' : X402AttemptRow) (member : t' ∈ db'.attempts) : ∃ t ∈ db.attempts, t.id = t'.id ∧ Revises t t' := by
    obtain ⟨t, found, revises⟩ := amends.attempts.source (Table.find?_of_mem member)
    exact ⟨t, Table.mem_of_find? found, Table.key_of_find? found, revises⟩
  have reservationOrigin (r' : PaymentReservationRow) (member : r' ∈ db'.reservations) :
      ∃ r ∈ db.reservations, r.id = r'.id ∧ SameReservation r r' := by
    obtain ⟨r, found, same⟩ := amends.reservations.source (Table.find?_of_mem member)
    exact ⟨r, Table.mem_of_find? found, Table.key_of_find? found, same⟩
  constructor
  · intro t₁' member₁ t₂' member₂ connection key
    obtain ⟨t₁, stored₁, id₁, revises₁⟩ := attemptOrigin t₁' member₁
    obtain ⟨t₂, stored₂, id₂, revises₂⟩ := attemptOrigin t₂' member₂
    rw [revises₁.same, revises₂.same] at connection key
    obtain rfl := linked.key t₁ stored₁ t₂ stored₂ connection key
    exact Table.eq_of_key member₁ member₂ (id₁.symm.trans id₂)
  · intro t' member
    obtain ⟨t, stored, -, revises⟩ := attemptOrigin t' member
    obtain ⟨r, storedRow, backs⟩ := linked.backed t stored
    obtain ⟨r', member', -, same⟩ := amends.reservations.grows.mem storedRow
    exact ⟨r', member', backs.revise same revises.same⟩
  · intro r' member id reason
    obtain ⟨r, stored, -, same⟩ := reservationOrigin r' member
    rw [same.same] at reason
    obtain ⟨t, found, backs⟩ := linked.owner r stored id reason
    obtain ⟨t', found', revises⟩ := amends.attempts.grows id t found
    exact ⟨t', found', backs.revise same revises.same⟩
  · intro r₁' member₁ r₂' member₂ id reason₁ reason₂
    obtain ⟨r₁, stored₁, id₁, same₁⟩ := reservationOrigin r₁' member₁
    obtain ⟨r₂, stored₂, id₂, same₂⟩ := reservationOrigin r₂' member₂
    rw [same₁.same] at reason₁
    rw [same₂.same] at reason₂
    obtain rfl := linked.single r₁ stored₁ r₂ stored₂ id reason₁ reason₂
    exact Table.eq_of_key member₁ member₂ (id₁.symm.trans id₂)
  · intro r' member id reason
    obtain ⟨r, stored, -, same⟩ := reservationOrigin r' member
    rw [same.same] at reason
    obtain ⟨account, found⟩ := linked.account r stored id reason
    obtain ⟨account', found', -⟩ := amends.accounts _ _ found
    exact ⟨account', by rw [same.account]; exact found'⟩
  · intro t' member
    obtain ⟨t, stored, -, revises⟩ := attemptOrigin t' member
    rw [amends.connections, revises.same]
    exact linked.connection t stored
  · intro t' member
    obtain ⟨t, stored, -, revises⟩ := attemptOrigin t' member
    obtain ⟨source, found, org, active⟩ := linked.source t stored
    obtain ⟨source', found', same⟩ := amends.sources _ _ found
    rw [revises.same]
    exact ⟨source', found', same.2.1.trans org, same.2.2.2.trans active⟩
  · intro j' member id reserved
    obtain ⟨j, stored, sameId, reserved⟩ := jobs j' member id reserved
    obtain ⟨r, found, reason⟩ := linked.job j stored id reserved
    obtain ⟨r', found', same⟩ := amends.reservations.grows id r found
    exact ⟨r', found', by rw [same.same, ← sameId]; exact reason⟩

theorem Linked.fund (linked : Linked db) {job : EscrowJobRow} {row : PaymentReservationRow}
    {reservations : Table PaymentReservationRow.id} {state : EscrowState}
    (inserted : db.reservations.insert? row = some reservations) (reason : row.reason_code = .escrowJob job.id) :
    Linked { db with
      reservations, escrowJobs := db.escrowJobs.put { job with state, reservation_id := some row.id } } := by
  have stored (r : PaymentReservationRow) (member : r ∈ reservations) (id : AttemptId)
      (owned : r.reason_code = .x402Attempt id) : r ∈ db.reservations := by
    rcases (Table.mem_insert? inserted).mp member with rfl | member
    · rw [reason] at owned
      cases owned
    · exact member
  constructor
  · exact linked.key
  · intro t member
    obtain ⟨r, stored, backs⟩ := linked.backed t member
    exact ⟨r, (Table.mem_insert? inserted).mpr (.inr stored), backs⟩
  · intro r member id owned
    exact linked.owner r (stored r member id owned) id owned
  · intro r member r' member' id owned owned'
    exact linked.single r (stored r member id owned) r' (stored r' member' id owned') id owned owned'
  · intro r member id owned
    exact linked.account r (stored r member id owned) id owned
  · exact linked.connection
  · exact linked.source
  · intro j member id reserved
    rcases Table.mem_put.mp member with ⟨member, -⟩ | ⟨rfl, -⟩
    · obtain ⟨r, found, reason⟩ := linked.job j member id reserved
      exact ⟨r, Table.find?_insert?_of_find? inserted found, reason⟩
    · obtain rfl : row.id = id := Option.some.inj reserved
      exact ⟨row, Table.find?_insert?_self inserted, reason⟩

theorem Recounted.grows {accounts accounts' : Table AgentPaymentAccountRow.key} {account : AccountId}
    {reserved spent : Nat → Nat} (counted : Recounted accounts account reserved spent accounts') :
    Table.Grows (fun _ _ => True) accounts accounts' := by
  cases counted with
  | missing => exact .refl (fun _ => trivial) _
  | @counted row found =>
    have located : accounts.find? (row.recount reserved spent).key = some row := by
      show accounts.find? row.key = some row
      rw [Table.key_of_find? found]
      exact found
    exact (Table.revised_put (fun _ => trivial) located trivial).grows

theorem Amends.putAttempt {row row' : X402AttemptRow} (revises : Revises row row')
    (found : db.attempts.find? row'.id = some row) : Amends db { db with attempts := db.attempts.put row' } :=
  { Amends.refl db with attempts := Table.revised_put Revises.refl found revises }

theorem Amends.scrub {now : Time} {attempts : Table X402AttemptRow.id} (scrubbed : Scrubbed now db.attempts attempts) :
    Amends db { db with attempts } :=
  { Amends.refl db with attempts := scrubbed.revised }

theorem Cancelled.amends {auth : ConnectionAuthResult} {candidate : StrandedCandidate}
    (cancelled : Cancelled db auth candidate db') : Amends db db' := by
  cases cancelled with
  | passed => exact .refl db
  | @released reservation account attempt foundReservation isOpen foundAccount covers foundAttempt reserved =>
    have located : db.reservations.find? reservation.id = some reservation := by
      rw [Table.key_of_find? foundReservation]
      exact foundReservation
    have stored : db.attempts.find? attempt.id = some attempt := by
      rw [Table.key_of_find? foundAttempt]
      exact foundAttempt
    refine ⟨Table.revised_put Revises.refl stored ⟨rfl, .inr ?_, ?_⟩,
      Table.revised_put SameReservation.refl located ⟨rfl, fun closed => (closed isOpen).elim⟩, ?_, .refl SameSource.refl _,
      rfl⟩
    · simp [reserved, X402AttemptStatus.stage]
    · intro early
      simp [X402AttemptStatus.stage] at early
    · have counted : Recounted db.accounts (accountOf auth) (· - candidate.amount_usdc) id _ := .counted foundAccount
      exact counted.grows

theorem cancelCandidates_amends {auth : ConnectionAuthResult} {candidates : List StrandedCandidate}
    (cancelled : cancelCandidates auth db candidates = .ok db') : Amends db db' :=
  cancelCandidates_invariant (Amends db) cancelled (.refl db)
    fun _ _ _ _ amends one => amends.trans one.amends

theorem Finalized.amends {now : Time} {auth : ConnectionAuthResult} {payment : PreparedPaidHttpPayment}
    {settlement : RuntimeX402SettlementResult} {eventId : EventId} {result : RuntimeX402PaymentResult}
    (finalized : Finalized db now auth payment settlement eventId db' result) : Amends db db' := by
  cases finalized with
  | settled answered status inScope counted covers debited inserted =>
    exact ⟨Table.revised_put Revises.refl inScope.located (finalAttempt_revises inScope.status rfl),
      closeReservation_revised _ _ _ _, counted.grows, debited.grows, rfl⟩
  | failed status inScope counted covers inserted =>
    exact ⟨Table.revised_put Revises.refl inScope.located (finalAttempt_revises inScope.status rfl),
      closeReservation_revised _ _ _ _, counted.grows, .refl SameSource.refl _, rfl⟩
  | unknown status inScope inserted =>
    exact ⟨Table.revised_put Revises.refl inScope.located (finalAttempt_revises inScope.status rfl),
      .refl SameReservation.refl _, .refl (fun _ => trivial) _, .refl SameSource.refl _, rfl⟩

theorem close_revised {row : PaymentReservationRow} {id : ReservationId} {status : ReservationStatus}
    (found : db.reservations.find? id = some row) (isOpen : row.status = .reserved) :
    Table.Revised SameReservation db.reservations (db.reservations.put { row with status }) := by
  have located : db.reservations.find? row.id = some row := by
    rw [Table.key_of_find? found]
    exact found
  exact Table.revised_put SameReservation.refl (r := { row with status }) located
    ⟨rfl, fun closed => (closed isOpen).elim⟩

theorem Configured.amends {account : AccountId} {input : SetAgentPaymentAccessInput}
    (configured : Configured db account input db') : Amends db db' := by
  cases configured with
  | @updated row found =>
    have located : db.accounts.find? (row.configure input).key = some row := by
      show db.accounts.find? row.key = some row
      rw [Table.key_of_find? found]
      exact found
    exact { Amends.refl db with accounts := (Table.revised_put (fun _ => trivial) located trivial).grows }
  | opened key missing inserted unused budget =>
    exact { Amends.refl db with accounts := Table.grows_insert? (fun _ => trivial) inserted }

theorem JobMoved.sameJobs {job job' : EscrowJobRow} (moved : JobMoved db job job' db') : SameJobs db db' := by
  obtain ⟨reservations, rfl, -⟩ := moved.tables
  intro j member id reserved
  rcases Table.mem_put.mp member with ⟨member, -⟩ | ⟨rfl, -⟩
  · exact ⟨j, member, rfl, reserved⟩
  · rw [moved.same] at reserved ⊢
    exact ⟨job, Table.mem_of_find? moved.found, rfl, reserved⟩

theorem JobMoved.amends {job job' : EscrowJobRow} (moved : JobMoved db job job' db') : Amends db db' := by
  obtain ⟨reservations, rfl, outcome⟩ := moved.tables
  rcases outcome with rfl | ⟨id, status, reserved, closing, rfl⟩
  · exact { Amends.refl db with }
  · exact { Amends.refl db with reservations := closeReservation_revised _ _ _ _ }

theorem OperatorWrite.amends {s : State} {label : Label} (write : OperatorWrite hashes s label db) :
    (Amends s.db db ∧ SameJobs s.db db) ∨ ∃ id reservationId onchain, label = .fundEscrowJob id reservationId onchain ∧
      fundEscrowJob hashes s.db s.now id reservationId onchain = .ok db := by
  cases write with
  | unchanged => exact .inl ⟨.refl s.db, .refl s.db⟩
  | registry kept => exact .inl ⟨{ Amends.refl s.db with sources := kept }, .refl s.db⟩
  | configured free configured =>
    refine .inl ⟨configured.amends, ?_⟩
    cases configured <;> exact .refl s.db
  | resolved free resolved =>
    obtain ⟨row, found, isOpen, -, resolved⟩ := resolveUnknownAttempt_ok resolved
    cases resolved with
    | failed counted covers =>
      exact .inl ⟨{ Amends.refl s.db with reservations := close_revised found isOpen, accounts := counted.grows },
        .refl s.db⟩
    | settled counted covers =>
      exact .inl ⟨{ Amends.refl s.db with reservations := close_revised found isOpen, accounts := counted.grows },
        .refl s.db⟩
  | released free released =>
    obtain ⟨row, accounts, found, isOpen, counted, covers, rfl⟩ := releaseOnProof_ok released
    exact .inl ⟨{ Amends.refl s.db with reservations := close_revised found isOpen, accounts := counted.grows },
      .refl s.db⟩
  | purged =>
    obtain ⟨attempts, purged, scrubbed⟩ := purge_scrubbed s.db s.now _ _
    rw [purged]
    exact .inl ⟨.scrub scrubbed, .refl s.db⟩
  | jobCreated unfunded inserted =>
    refine .inl ⟨{ Amends.refl s.db with }, ?_⟩
    intro j member id reserved
    rcases (Table.mem_insert? inserted).mp member with rfl | member
    · rw [unfunded] at reserved
      cases reserved
    · exact ⟨j, member, rfl, reserved⟩
  | jobFunded funded => exact .inr ⟨_, _, _, rfl, funded⟩
  | jobMoved moved => exact .inl ⟨moved.amends, moved.sameJobs⟩

theorem Funded.keeps {now : Time} {id : EscrowJobId} {reservationId : ReservationId}
    (funded : Funded hashes db now id reservationId db') : Keeps db db' := by
  cases funded with
  | funded found isOpen inserted =>
    exact { Keeps.refl db with reservations := Table.grows_insert? SameReservation.refl inserted }

theorem OperatorWrite.keeps {s : State} {label : Label} (write : OperatorWrite hashes s label db) : Keeps s.db db := by
  rcases write.amends with ⟨amends, -⟩ | ⟨id, reservationId, onchain, -, funded⟩
  · exact amends.keeps
  · exact (fundEscrowJob_ok funded).keeps

theorem Linked.operator {s : State} {label : Label} (linked : Linked s.db) (write : OperatorWrite hashes s label db) :
    Linked db := by
  rcases write.amends with ⟨amends, jobs⟩ | ⟨id, reservationId, onchain, -, funded⟩
  · exact linked.amend amends jobs
  · cases fundEscrowJob_ok funded with
    | funded found isOpen inserted => exact linked.fund inserted rfl

theorem validScope_spec {input : CreateX402AttemptInput} (valid : validScope db input = true) :
    (∃ row, db.connections.find? input.connectionId = some row ∧ row.org_id = input.orgId ∧
      row.agent_id = input.agentId) ∧
    ∃ row, db.sources.find? input.sourceId = some row ∧ row.org_id = input.orgId := by
  unfold validScope at valid
  simp only [Bool.and_eq_true, Option.any_eq_true, decide_eq_true_eq] at valid
  exact ⟨valid.1.1, valid.2⟩

section Prepared

variable {began : Time} {auth : ConnectionAuthResult} {key : String} {requestHash : Hash} {quote : RuntimeQuote}
  {source : PaymentSourceRow} {resource : JsonObject} {gate : PolicyGate} {attemptId : AttemptId}
  {reservationId : ReservationId} {payment : PreparedPaidHttpPayment}

theorem Prepared.keeps
    (prepared : Prepared hashes db began auth key requestHash quote source resource gate attemptId reservationId db' payment) :
    Keeps db db' := by
  obtain ⟨attempts, reservations, accounts, insertedAttempt, insertedReservation, counted, rfl⟩ := prepared.tables
  exact ⟨Table.grows_insert? Revises.refl insertedAttempt, Table.grows_insert? SameReservation.refl insertedReservation,
    counted.grows, .refl SameSource.refl _, rfl⟩

theorem reservationOf_backs (quoted : quoteFromAccept quote.accept orgPaymentMode = .ok (some quote)) (quoteHash : Hash)
    (mode : ProviderMode) :
    Backs (reservationOf reservationId began auth quote source attemptId quoteHash (quotePayloadOf quote resource source))
      (preparedAttempt attemptId (attemptInput auth key requestHash quoteHash quote source) gate mode reservationId) :=
  ⟨rfl, rfl, rfl, rfl, rfl, quotePayloadOf quote resource source, quote, rfl, quoted, rfl⟩

theorem Linked.prepare (linked : Linked db)
    (prepared : Prepared hashes db began auth key requestHash quote source resource gate attemptId reservationId db' payment)
    (fresh : db.attemptFor auth.connection_id key = none)
    (quoted : quoteFromAccept quote.accept orgPaymentMode = .ok (some quote))
    (active : ∃ row, db.sources.find? source.id = some row ∧ row.status = .active)
    (open? : ∃ row, db.accounts.find? (accountOf auth) = some row) : Linked db' := by
  have keeps := prepared.keeps
  obtain ⟨connectionStored, sourceStored⟩ := validScope_spec prepared.scope
  obtain ⟨attempts, reservations, accounts, insertedAttempt, insertedReservation, counted, rfl⟩ := prepared.tables
  rw [prepared.payload] at insertedReservation
  set attempt := preparedAttempt attemptId (attemptInput auth key requestHash payment.quoteHash quote source) gate
    payment.quotePayload.mode reservationId with attemptDef
  set row := reservationOf reservationId began auth quote source attemptId payment.quoteHash
    (quotePayloadOf quote resource source) with rowDef
  have backs : Backs row attempt := reservationOf_backs quoted payment.quoteHash payment.quotePayload.mode
  have unused : db.attempts.find? attemptId = none := (Table.insert?_eq_some insertedAttempt).2
  -- no older reservation names the new attempt
  have apart (r : PaymentReservationRow) (member : r ∈ db.reservations) (id : AttemptId)
      (reason : r.reason_code = .x402Attempt id) : attemptId ≠ id := by
    rintro rfl
    obtain ⟨t, found, -⟩ := linked.owner r member attemptId reason
    rw [unused] at found
    cases found
  have newKey (t : X402AttemptRow) (member : t ∈ db.attempts) (connection : t.connection_id = attempt.connection_id) :
      t.idempotency_key ≠ attempt.idempotency_key :=
    attemptFor_eq_none.mp fresh t member connection
  have inAttempts (t : X402AttemptRow) : t ∈ attempts ↔ t = attempt ∨ t ∈ db.attempts :=
    Table.mem_insert? insertedAttempt
  have inReservations (r : PaymentReservationRow) : r ∈ reservations ↔ r = row ∨ r ∈ db.reservations :=
    Table.mem_insert? insertedReservation
  constructor
  · intro t member t' member' connection sameKey
    rcases (inAttempts t).mp member with rfl | member <;> rcases (inAttempts t').mp member' with rfl | member'
    · rfl
    · exact (newKey t' member' connection.symm sameKey.symm).elim
    · exact (newKey t member connection sameKey).elim
    · exact linked.key t member t' member' connection sameKey
  · intro t member
    rcases (inAttempts t).mp member with rfl | member
    · exact ⟨row, (inReservations row).mpr (.inl rfl), backs⟩
    · obtain ⟨r, stored, backs⟩ := linked.backed t member
      exact ⟨r, (inReservations r).mpr (.inr stored), backs⟩
  · intro r member id reason
    rcases (inReservations r).mp member with rfl | member
    · obtain rfl : attemptId = id := ReasonCode.x402Attempt.inj reason
      exact ⟨attempt, Table.find?_insert?_self insertedAttempt, backs⟩
    · obtain ⟨t, found, backs⟩ := linked.owner r member id reason
      exact ⟨t, Table.find?_insert?_of_find? insertedAttempt found, backs⟩
  · intro r member r' member' id reason reason'
    rcases (inReservations r).mp member with rfl | member <;> rcases (inReservations r').mp member' with rfl | member'
    · rfl
    · exact (apart r' member' id reason' (ReasonCode.x402Attempt.inj reason)).elim
    · exact (apart r member id reason (ReasonCode.x402Attempt.inj reason')).elim
    · exact linked.single r member r' member' id reason reason'
  · intro r member id reason
    have stored : ∃ account, db.accounts.find? r.account = some account := by
      rcases (inReservations r).mp member with rfl | member
      · exact open?
      · exact linked.account r member id reason
    obtain ⟨account, found⟩ := stored
    obtain ⟨account', found', -⟩ := keeps.accounts _ _ found
    exact ⟨account', found'⟩
  · intro t member
    rcases (inAttempts t).mp member with rfl | member
    · exact connectionStored
    · exact linked.connection t member
  · intro t member
    rcases (inAttempts t).mp member with rfl | member
    · obtain ⟨stored, found, org⟩ := sourceStored
      obtain ⟨stored', found', active⟩ := active
      obtain rfl : stored = stored' := Option.some.inj (found.symm.trans found')
      exact ⟨stored, found, org, active⟩
    · exact linked.source t member
  · intro j member id reserved
    obtain ⟨r, found, reason⟩ := linked.job j member id reserved
    exact ⟨r, Table.find?_insert?_of_find? insertedReservation found, reason⟩

end Prepared

end AgentOps.Payments
