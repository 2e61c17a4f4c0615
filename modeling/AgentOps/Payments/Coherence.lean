import AgentOps.Payments.Calls

namespace AgentOps.Payments
open Lib Identity

variable {hashes : Hashes} {db db' : Db} {s s' : State} {call : Call} {label : Label}

/-! # Attempts, their events and their reservations -/

def EventOk (db : Db) (event : PaymentEventRow) : Prop :=
  ∃ r t, db.reservations.find? event.reservation_id = some r ∧ r.reason_code = .x402Attempt t.id ∧
    db.attempts.find? t.id = some t ∧ t.status.stage = 2 ∧ (event.result.isUnknown = true → t.status = .unknown)

def UnknownRecorded (db : Db) (t : X402AttemptRow) : Prop :=
  ∃ event ∈ db.events, event.result.isUnknown = true ∧ event.org_id = t.org_id ∧
    ∃ r, db.reservations.find? event.reservation_id = some r ∧ r.reason_code = .x402Attempt t.id

structure Recorded (db : Db) : Prop where
  event : ∀ event ∈ db.events, EventOk db event
  unknown : ∀ t ∈ db.attempts, t.status = .unknown → UnknownRecorded db t

def NoneUnknown (db db' : Db) : Prop :=
  ∀ t' ∈ db'.attempts, t'.status = .unknown → ∃ t ∈ db.attempts, t.status = .unknown ∧ SameAttempt t t' ∧ t.id = t'.id

theorem NoneUnknown.refl (db : Db) : NoneUnknown db db := fun t member unknown => ⟨t, member, unknown, rfl, rfl⟩

theorem NoneUnknown.trans {db₁ db₂ db₃ : Db} (first : NoneUnknown db₁ db₂) (second : NoneUnknown db₂ db₃) :
    NoneUnknown db₁ db₃ := by
  intro t₃ member₃ unknown₃
  obtain ⟨t₂, member₂, unknown₂, same₂, id₂⟩ := second t₃ member₃ unknown₃
  obtain ⟨t₁, member₁, unknown₁, same₁, id₁⟩ := first t₂ member₂ unknown₂
  exact ⟨t₁, member₁, unknown₁, same₁.trans same₂, id₁.trans id₂⟩

theorem NoneUnknown.put {row : X402AttemptRow} (known : row.status ≠ .unknown) :
    NoneUnknown db { db with attempts := db.attempts.put row } := by
  intro t member unknown
  rcases Table.mem_put.mp member with ⟨member, -⟩ | ⟨rfl, -⟩
  · exact ⟨t, member, unknown, rfl, rfl⟩
  · exact (known unknown).elim

theorem NoneUnknown.scrub {now : Time} {attempts : Table X402AttemptRow.id}
    (scrubbed : Scrubbed now db.attempts attempts) : NoneUnknown db { db with attempts } := by
  intro t member unknown
  obtain ⟨t', found, revises⟩ := scrubbed.revised.source (Table.find?_of_mem member)
  refine ⟨t', Table.mem_of_find? found, ?_, revises.same, Table.key_of_find? found⟩
  rcases scrubbed t.id with same | dropped
  · rw [Table.find?_of_mem member, found] at same
    rw [← Option.some.inj same]
    exact unknown
  · rw [Table.find?_of_mem member, found] at dropped
    have same : t = t'.scrub now := Option.some.inj dropped
    rw [same, scrub_status] at unknown
    exact unknown

theorem EventOk.keep {event : PaymentEventRow} (ok : EventOk db event) (keeps : Keeps db db') : EventOk db' event := by
  obtain ⟨r, t, found, reason, stored, final, unknown⟩ := ok
  obtain ⟨r', found', sameRow⟩ := keeps.reservations _ _ found
  obtain ⟨t', stored', revises⟩ := keeps.attempts _ _ stored
  have sameId : t'.id = t.id := Table.key_of_find? stored'
  have sameStatus : t'.status = t.status := by
    rcases revises.advances with same | later
    · exact same
    · have bound := t'.status.stage_le
      omega
  refine ⟨r', t', found', ?_, by rw [sameId]; exact stored', by rw [sameStatus]; exact final, ?_⟩
  · rw [sameRow.same, sameId]
    exact reason
  · rw [sameStatus]
    exact unknown

theorem UnknownRecorded.keep {t t' : X402AttemptRow} (recorded : UnknownRecorded db t) (keeps : Keeps db db')
    (events : ∀ event ∈ db.events, event ∈ db'.events) (same : SameAttempt t t') : UnknownRecorded db' t' := by
  obtain ⟨event, member, unknown, org, r, found, reason⟩ := recorded
  obtain ⟨r', found', sameRow⟩ := keeps.reservations _ _ found
  refine ⟨event, events event member, unknown, by rw [same]; exact org, r', found', ?_⟩
  rw [sameRow.same, same]
  exact reason

theorem Recorded.keep (recorded : Recorded db) (keeps : Keeps db db') (events : db'.events = db.events)
    (none : NoneUnknown db db') : Recorded db' := by
  constructor
  · intro event member
    rw [events] at member
    exact (recorded.event event member).keep keeps
  · intro t' member unknown
    obtain ⟨t, stored, unknown, same, -⟩ := none t' member unknown
    exact (recorded.unknown t stored unknown).keep keeps (fun event member => by rw [events]; exact member) same

theorem OperatorWrite.noneUnknown (write : OperatorWrite hashes s label db) :
    db.events = s.db.events ∧ NoneUnknown s.db db := by
  cases write with
  | configured free configured => cases configured <;> exact ⟨rfl, .refl s.db⟩
  | resolved free resolved =>
    obtain ⟨row, found, isOpen, -, resolved⟩ := resolveUnknownAttempt_ok resolved
    cases resolved <;> exact ⟨rfl, .refl s.db⟩
  | released free released =>
    obtain ⟨row, accounts, found, isOpen, counted, covers, rfl⟩ := releaseOnProof_ok released
    exact ⟨rfl, .refl s.db⟩
  | @purged locked batchLimit =>
    obtain ⟨attempts, purged, scrubbed⟩ := purge_scrubbed s.db s.now locked batchLimit
    rw [purged]
    exact ⟨rfl, .scrub scrubbed⟩
  | jobFunded funded =>
    cases fundEscrowJob_ok funded with
    | funded found isOpen inserted => exact ⟨rfl, .refl s.db⟩
  | jobMoved moved =>
    obtain ⟨reservations, rfl, -⟩ := moved.tables
    exact ⟨rfl, .refl s.db⟩
  | unchanged | registry | jobCreated => exact ⟨rfl, .refl s.db⟩

theorem cancelCandidates_noneUnknown {auth : ConnectionAuthResult} {candidates : List StrandedCandidate}
    (cancelled : cancelCandidates auth db candidates = .ok db') : db'.events = db.events ∧ NoneUnknown db db' := by
  refine cancelCandidates_invariant (fun db' => db'.events = db.events ∧ NoneUnknown db db') cancelled
    ⟨rfl, .refl db⟩ ?_
  rintro candidate - db₁ db₂ ⟨events, none⟩ one
  cases one with
  | passed => exact ⟨events, none⟩
  | released foundReservation isOpen foundAccount covers foundAttempt reserved =>
    refine ⟨events, none.trans ?_⟩
    intro t member unknown
    rcases Table.mem_put.mp member with ⟨member, -⟩ | ⟨rfl, -⟩
    · exact ⟨t, member, unknown, rfl, rfl⟩
    · cases unknown

theorem PaymentOk.row {payment : PreparedPaidHttpPayment} {stage : Nat} (ok : PaymentOk db call payment stage) :
    ∃ r, db.reservations.find? payment.reservationId = some r ∧ r.reason_code = .x402Attempt payment.attempt.id ∧
      r.account = accountOf call.auth ∧ r.org_id = call.auth.org_id ∧ r.amount_usdc = payment.quote.amountMicros := by
  obtain ⟨r, found, backs⟩ := ok.reservation
  have account : r.account = accountOf call.auth := by
    rw [backs.account, accountOf, ok.attempt.org, ok.attempt.agent]
  exact ⟨r, found, backs.reason, account, congrArg Prod.fst account, backs.amount.trans ok.amount⟩

theorem recordedStatus_settled {settlement : RuntimeX402SettlementResult} {answer : ProviderPayment}
    (answered : settlement.payment = some answer) (status : answer.status = .settled) :
    recordedStatus settlement = .settled := by
  simp [recordedStatus, settlementStatus, answered, status]

theorem recordedStatus_failed {settlement : RuntimeX402SettlementResult}
    (status : settlementStatus settlement = some .failed) : recordedStatus settlement = .failed := by
  simp [recordedStatus, status]

theorem Finalized.recorded {now : Time} {auth : ConnectionAuthResult} {payment : PreparedPaidHttpPayment}
    {settlement : RuntimeX402SettlementResult} {eventId : EventId} {result : RuntimeX402PaymentResult}
    (finalized : Finalized db now auth payment settlement eventId db' result) :
    ∃ event row final, db'.attempts = db.attempts.put final ∧ db.events.insert? event = some db'.events ∧
      Scoped db auth payment.attempt.id .submitting row ∧ SameAttempt row final ∧
      final.status = recordedStatus settlement ∧ event.reservation_id = payment.reservationId ∧
      event.org_id = auth.org_id ∧ (event.result.isUnknown = true ↔ recordedStatus settlement = .unknown) := by
  cases finalized with
  | settled answered status inScope counted covers debited inserted =>
    exact ⟨_, _, _, rfl, inserted, inScope, rfl, (recordedStatus_settled answered status).symm, rfl, rfl,
      by simp [eventOf, PaymentEventResult.isUnknown, recordedStatus_settled answered status]⟩
  | failed status inScope counted covers inserted =>
    exact ⟨_, _, _, rfl, inserted, inScope, rfl, (recordedStatus_failed status).symm, rfl, rfl,
      by simp [eventOf, PaymentEventResult.isUnknown, recordedStatus_failed status]⟩
  | unknown status inScope inserted =>
    exact ⟨_, _, _, rfl, inserted, inScope, rfl, status.symm, rfl, rfl,
      by simp [eventOf, PaymentEventResult.isUnknown, status]⟩

theorem recordedStatus_stage (settlement : RuntimeX402SettlementResult) : (recordedStatus settlement).stage = 2 := by
  unfold recordedStatus
  split <;> rfl

theorem Recorded.finalize {now : Time} {payment : PreparedPaidHttpPayment} {settlement : RuntimeX402SettlementResult}
    {eventId : EventId} {result : RuntimeX402PaymentResult} (recorded : Recorded db) (ok : PaymentOk db call payment 1)
    (finalized : Finalized db now call.auth payment settlement eventId db' result) : Recorded db' := by
  have keeps := finalized.amends.keeps
  obtain ⟨r, foundRow, reason, -⟩ := ok.row
  obtain ⟨r', foundRow', sameRow⟩ := keeps.reservations _ _ foundRow
  have reason' : r'.reason_code = .x402Attempt payment.attempt.id := by
    rw [sameRow.same]
    exact reason
  obtain ⟨event, row, final, attempts, inserted, inScope, same, status, names, org, unknownIff⟩ := finalized.recorded
  have sameId : final.id = payment.attempt.id := (by rw [same] : final.id = row.id).trans (Table.key_of_find? inScope.found)
  have stored : db'.attempts.find? final.id = some final := by
    rw [attempts]
    exact Table.find?_put_self (by rw [sameId]; exact inScope.found)
  have older (event' : PaymentEventRow) (member : event' ∈ db.events) : event' ∈ db'.events :=
    (Table.mem_insert? inserted).mpr (.inr member)
  constructor
  · intro event' member
    rcases (Table.mem_insert? inserted).mp member with rfl | member
    · refine ⟨r', final, by rw [names]; exact foundRow', by rw [sameId]; exact reason', stored, ?_, ?_⟩
      · rw [status]
        exact recordedStatus_stage settlement
      · intro unknown
        rw [status]
        exact unknownIff.mp unknown
    · exact (recorded.event event' member).keep keeps
  · intro t member unknown
    rw [attempts] at member
    rcases Table.mem_put.mp member with ⟨member, -⟩ | ⟨rfl, -⟩
    · exact (recorded.unknown t member unknown).keep keeps older rfl
    · refine ⟨event, (Table.mem_insert? inserted).mpr (.inl rfl), unknownIff.mpr (status.symm.trans unknown), ?_, r',
        by rw [names]; exact foundRow', by rw [sameId]; exact reason'⟩
      rw [org, same]
      exact inScope.org.symm

theorem Sound.call_recorded {id : CallId} {event : CallEvent} (sound : Sound s) (recorded : Recorded s.db)
    (found : s.calls.find? id = some call) (write : CallWrite hashes s call event db) : Recorded db := by
  have keeps := sound.call_keeps found write
  cases write with
  | unchanged => exact recorded
  | stranded phase free cancelled =>
    obtain ⟨events, none⟩ := cancelCandidates_noneUnknown cancelled
    exact recorded.keep keeps events none
  | scrubbed scrubbed => exact recorded.keep keeps rfl (.scrub scrubbed)
  | prepared phase written =>
    obtain ⟨attempts, reservations, accounts, insertedAttempt, -, -, rfl⟩ := (sound.prepared found phase written).tables
    refine recorded.keep keeps rfl ?_
    intro t member unknown
    rcases (Table.mem_insert? insertedAttempt).mp member with rfl | member
    · cases unknown
    · exact ⟨t, member, unknown, rfl, rfl⟩
  | @revised event row row' located revises early =>
    refine recorded.keep keeps rfl (.put ?_)
    intro unknown
    rw [unknown] at early
    exact absurd early (by decide)
  | finalized phase free finalized =>
    exact recorded.finalize (sound.known found phase) (finalizePaidHttpPayment_ok finalized)

theorem Recorded.write (recorded : Recorded s.db) (sound : Sound s) (write : Write hashes s label db) : Recorded db := by
  cases write with
  | unchanged => exact recorded
  | operator write =>
    obtain ⟨events, none⟩ := write.noneUnknown
    exact recorded.keep write.keeps events none
  | call found write => exact sound.call_recorded recorded found write

theorem Initial.recorded {s : State} (initial : Initial s) : Recorded s.db := by
  constructor <;> simp [initial.events, initial.attempts]

def NoProof (account : AccountId) (s : State) : Label → Prop
  | .releaseOnProof reservationId _ => ∀ r, s.db.reservations.find? reservationId = some r → r.account ≠ account
  | _ => True

structure Coherent (r : PaymentReservationRow) (t : X402AttemptRow) : Prop where
  open? : t.status.stage < 2 → r.status = .reserved
  settled : t.status = .settled → r.status = .settled
  failed : t.status = .failed → r.status = .released

theorem Coherent.ofSettled {r : PaymentReservationRow} {t : X402AttemptRow} (row : r.status = .settled)
    (attempt : t.status = .settled) : Coherent r t := by
  constructor <;> simp [row, attempt, X402AttemptStatus.stage]

theorem Coherent.ofFailed {r : PaymentReservationRow} {t : X402AttemptRow} (row : r.status = .released)
    (attempt : t.status = .failed) : Coherent r t := by
  constructor <;> simp [row, attempt, X402AttemptStatus.stage]

theorem Coherent.ofUnknown {r : PaymentReservationRow} {t : X402AttemptRow} (attempt : t.status = .unknown) :
    Coherent r t := by
  constructor <;> simp [attempt, X402AttemptStatus.stage]

def CoherentFor (account : AccountId) (db : Db) : Prop :=
  ∀ r ∈ db.reservations, r.account = account → ∀ t, r.reason_code = .x402Attempt t.id →
    db.attempts.find? t.id = some t → Coherent r t

structure PairMoves (db db' : Db) (account : AccountId) (r r' : PaymentReservationRow) (t t' : X402AttemptRow) : Prop where
  account : r.account = account
  reason : r.reason_code = .x402Attempt t.id
  reservation : db.reservations.find? r.id = some r
  reservation' : db'.reservations.find? r.id = some r'
  attempt : db.attempts.find? t.id = some t
  attempt' : db'.attempts.find? t.id = some t'

theorem CoherentFor.amend {account : AccountId} (coherent : CoherentFor account db) (amends : Amends db db')
    (pair : ∀ r r' t t', PairMoves db db' account r r' t t' → Coherent r t → Coherent r' t') : CoherentFor account db' := by
  intro r' member inAccount t' reason stored'
  obtain ⟨r, found, sameRow⟩ := amends.reservations.source (Table.find?_of_mem member)
  obtain ⟨t, stored, revises⟩ := amends.attempts.source stored'
  have rowId : r.id = r'.id := Table.key_of_find? found
  have attemptId : t.id = t'.id := Table.key_of_find? stored
  have moves : PairMoves db db' account r r' t t' := by
    refine ⟨sameRow.account.symm.trans inAccount, ?_, by rw [rowId]; exact found, ?_, by rw [attemptId]; exact stored, ?_⟩
    · rw [attemptId, ← reason, sameRow.same]
    · rw [rowId]
      exact Table.find?_of_mem member
    · rw [attemptId]
      exact stored'
  exact pair r r' t t' moves (coherent r (Table.mem_of_find? found) moves.account t moves.reason moves.attempt)

theorem PairMoves.same {account : AccountId} {r r' : PaymentReservationRow} {t t' : X402AttemptRow}
    (moves : PairMoves db db' account r r' t t') (reservations : db'.reservations = db.reservations)
    (attempts : db'.attempts = db.attempts) (coherent : Coherent r t) : Coherent r' t' := by
  have rowIs := moves.reservation'
  have attemptIs := moves.attempt'
  rw [reservations, moves.reservation] at rowIs
  rw [attempts, moves.attempt] at attemptIs
  obtain rfl := Option.some.inj rowIs
  obtain rfl := Option.some.inj attemptIs
  exact coherent

theorem CoherentFor.cancel {auth : ConnectionAuthResult} {candidate : StrandedCandidate} {account : AccountId}
    (coherent : CoherentFor account db) (linked : Linked db) (known : CandidateOk db auth candidate)
    (cancelled : Cancelled db auth candidate db') : CoherentFor account db' := by
  refine coherent.amend cancelled.amends fun r r' t t' moves pair => ?_
  obtain ⟨r₀, found₀, -, -, reason₀⟩ := known
  cases cancelled with
  | passed => exact moves.same rfl rfl pair
  | @released reservation accountRow attempt foundReservation isOpen foundAccount covers foundAttempt reserved =>
    obtain rfl : reservation = r₀ := Option.some.inj (foundReservation.symm.trans found₀)
    have attemptId : attempt.id = candidate.attempt_id := Table.key_of_find? foundAttempt
    -- the candidate's reservation and attempt are a pair
    have together : reservation.id = r.id ↔ attempt.id = t.id := by
      rw [attemptId]
      constructor
      · intro same
        obtain rfl := Table.eq_of_key (Table.mem_of_find? found₀) (Table.mem_of_find? moves.reservation) same
        exact ReasonCode.x402Attempt.inj (reason₀.symm.trans moves.reason)
      · intro same
        have reason := moves.reason
        rw [← same] at reason
        rw [linked.single reservation (Table.mem_of_find? found₀) r (Table.mem_of_find? moves.reservation) _ reason₀ reason]
    have rowIs := Option.some.inj (moves.reservation'.symm.trans (Table.find?_put moves.reservation))
    have attemptIs := Option.some.inj (moves.attempt'.symm.trans (Table.find?_put moves.attempt))
    by_cases same : reservation.id = r.id
    · rw [rowIs.trans (if_pos same), attemptIs.trans (if_pos (together.mp same))]
      exact .ofFailed rfl rfl
    · rw [rowIs.trans (if_neg same), attemptIs.trans (if_neg fun other => same (together.mpr other))]
      exact pair

theorem CoherentFor.cancelAll {auth : ConnectionAuthResult} {candidates : List StrandedCandidate} {account : AccountId}
    (coherent : CoherentFor account db) (linked : Linked db)
    (known : ∀ candidate ∈ candidates, CandidateOk db auth candidate)
    (cancelled : cancelCandidates auth db candidates = .ok db') : CoherentFor account db' := by
  have kept : CoherentFor account db' ∧ Linked db' ∧ Amends db db' := by
    refine cancelCandidates_invariant (fun db' => CoherentFor account db' ∧ Linked db' ∧ Amends db db') cancelled
      ⟨coherent, linked, .refl db⟩ ?_
    rintro candidate member db₁ db₂ ⟨coherent₁, linked₁, amends₁⟩ one
    refine ⟨coherent₁.cancel linked₁ ((known candidate member).keep amends₁.keeps) one,
      linked₁.amend one.amends ?_, amends₁.trans one.amends⟩
    cases one <;> exact .refl db₁
  exact kept.1

theorem CoherentFor.finalize {now : Time} {payment : PreparedPaidHttpPayment} {settlement : RuntimeX402SettlementResult}
    {eventId : EventId} {result : RuntimeX402PaymentResult} {account : AccountId} (coherent : CoherentFor account db)
    (linked : Linked db) (ok : PaymentOk db call payment 1)
    (finalized : Finalized db now call.auth payment settlement eventId db' result) : CoherentFor account db' := by
  obtain ⟨r₀, found₀, reason₀, -, org₀, -⟩ := ok.row
  refine coherent.amend finalized.amends fun r r' t t' moves pair => ?_
  have together : payment.reservationId = r.id ↔ payment.attempt.id = t.id := by
    constructor
    · intro same
      obtain rfl : r₀ = r := Option.some.inj (found₀.symm.trans (same ▸ moves.reservation))
      exact ReasonCode.x402Attempt.inj (reason₀.symm.trans moves.reason)
    · intro same
      obtain rfl := linked.single r₀ (Table.mem_of_find? found₀) r (Table.mem_of_find? moves.reservation) _ reason₀
        (by rw [same]; exact moves.reason)
      exact (Table.key_of_find? found₀).symm
  -- a submitting attempt has its reservation open
  have isOpen {row : X402AttemptRow} (inScope : Scoped db call.auth payment.attempt.id .submitting row)
      (same : payment.attempt.id = t.id) : r.org_id = call.auth.org_id ∧ r.status = .reserved := by
    obtain rfl : row = t := Option.some.inj (inScope.found.symm.trans (same ▸ moves.attempt))
    obtain rfl : r₀ = r := Option.some.inj (found₀.symm.trans (together.mpr same ▸ moves.reservation))
    refine ⟨org₀, pair.open? ?_⟩
    rw [inScope.status]
    decide
  have sameId {row : X402AttemptRow} (inScope : Scoped db call.auth payment.attempt.id .submitting row) :
      row.id = t.id ↔ payment.attempt.id = t.id := by rw [Table.key_of_find? inScope.found]
  cases finalized with
  | settled answered status inScope counted covers debited inserted =>
    have rowIs := Option.some.inj (moves.reservation'.symm.trans (closeReservation_find? _ moves.reservation))
    have attemptIs := Option.some.inj (moves.attempt'.symm.trans (Table.find?_put moves.attempt))
    by_cases same : payment.attempt.id = t.id
    · rw [rowIs.trans (if_pos ⟨together.mpr same, isOpen inScope same⟩),
        attemptIs.trans (if_pos ((sameId inScope).mpr same))]
      exact .ofSettled rfl rfl
    · rw [rowIs.trans (if_neg fun both => same (together.mp both.1)),
        attemptIs.trans (if_neg fun other => same ((sameId inScope).mp other))]
      exact pair
  | failed status inScope counted covers inserted =>
    have rowIs := Option.some.inj (moves.reservation'.symm.trans (closeReservation_find? _ moves.reservation))
    have attemptIs := Option.some.inj (moves.attempt'.symm.trans (Table.find?_put moves.attempt))
    by_cases same : payment.attempt.id = t.id
    · rw [rowIs.trans (if_pos ⟨together.mpr same, isOpen inScope same⟩),
        attemptIs.trans (if_pos ((sameId inScope).mpr same))]
      exact .ofFailed rfl rfl
    · rw [rowIs.trans (if_neg fun both => same (together.mp both.1)),
        attemptIs.trans (if_neg fun other => same ((sameId inScope).mp other))]
      exact pair
  | unknown status inScope inserted =>
    have rowIs := Option.some.inj (moves.reservation'.symm.trans moves.reservation)
    have attemptIs := Option.some.inj (moves.attempt'.symm.trans (Table.find?_put moves.attempt))
    by_cases same : payment.attempt.id = t.id
    · rw [attemptIs.trans (if_pos ((sameId inScope).mpr same))]
      exact .ofUnknown rfl
    · rw [rowIs, attemptIs.trans (if_neg fun other => same ((sameId inScope).mp other))]
      exact pair

theorem CoherentFor.scrub {now : Time} {attempts : Table X402AttemptRow.id} {account : AccountId}
    (coherent : CoherentFor account db) (scrubbed : Scrubbed now db.attempts attempts) :
    CoherentFor account { db with attempts } := by
  refine coherent.amend (.scrub scrubbed) fun r r' t t' moves pair => ?_
  obtain rfl := Option.some.inj (moves.reservation'.symm.trans moves.reservation)
  rcases scrubbed t.id with same | dropped
  · obtain rfl := Option.some.inj (moves.attempt'.symm.trans (same.trans moves.attempt))
    exact pair
  · rw [moves.attempt] at dropped
    obtain rfl := Option.some.inj (moves.attempt'.symm.trans dropped)
    exact ⟨by simpa using pair.open?, by simpa using pair.settled, by simpa using pair.failed⟩

theorem CoherentFor.revise {row row' : X402AttemptRow} {account : AccountId} (coherent : CoherentFor account db)
    (revises : Revises row row') (found : db.attempts.find? row'.id = some row) (early : row'.status.stage < 2) :
    CoherentFor account { db with attempts := db.attempts.put row' } := by
  refine coherent.amend (.putAttempt revises found) fun r r' t t' moves pair => ?_
  obtain rfl := Option.some.inj (moves.reservation'.symm.trans moves.reservation)
  have attemptIs := Option.some.inj (moves.attempt'.symm.trans (Table.find?_put moves.attempt))
  by_cases same : row'.id = t.id
  · rw [attemptIs.trans (if_pos same)]
    obtain rfl : row = t := Option.some.inj (found.symm.trans (same ▸ moves.attempt))
    have before := revises.stage_le
    refine ⟨fun _ => pair.open? (by omega), fun settled => ?_, fun failed => ?_⟩
    · rw [settled] at early
      exact absurd early (by decide)
    · rw [failed] at early
      exact absurd early (by decide)
  · rw [attemptIs.trans (if_neg same)]
    exact pair

theorem CoherentFor.close {row : PaymentReservationRow} {id : ReservationId} {status : ReservationStatus}
    {account : AccountId} (coherent : CoherentFor account db) (amends : Amends db db')
    (found : db.reservations.find? id = some row)
    (reservations : db'.reservations = db.reservations.put { row with status }) (attempts : db'.attempts = db.attempts)
    (apart : row.account = account → ∀ t, row.reason_code = .x402Attempt t.id → db.attempts.find? t.id = some t →
      t.status = .unknown) : CoherentFor account db' := by
  refine coherent.amend amends fun r r' t t' moves pair => ?_
  have attemptIs := moves.attempt'
  rw [attempts] at attemptIs
  obtain rfl := Option.some.inj (attemptIs.symm.trans moves.attempt)
  have rowIs := moves.reservation'
  rw [reservations] at rowIs
  replace rowIs := Option.some.inj (rowIs.symm.trans (Table.find?_put moves.reservation))
  by_cases same : row.id = r.id
  · obtain rfl := Table.eq_of_key (Table.mem_of_find? found) (Table.mem_of_find? moves.reservation) same
    exact .ofUnknown (apart moves.account _ moves.reason moves.attempt)
  · rw [rowIs.trans (if_neg same)]
    exact pair

theorem CoherentFor.operator {account : AccountId} (coherent : CoherentFor account s.db) (linked : Linked s.db)
    (recorded : Recorded s.db) (unproved : NoProof account s label) (write : OperatorWrite hashes s label db) :
    CoherentFor account db := by
  cases write with
  | unchanged | registry | jobCreated => exact coherent
  | configured free configured => cases configured <;> exact coherent
  | resolved free resolved =>
    obtain ⟨row, found, isOpen, ⟨event, member, names, unknown⟩, resolved⟩ := resolveUnknownAttempt_ok resolved
    obtain ⟨r, t, foundRow, reason, stored, -, isUnknown⟩ := recorded.event event member
    rw [names] at foundRow
    obtain rfl : row = r := Option.some.inj (found.symm.trans foundRow)
    have final : ∀ t, row.reason_code = .x402Attempt t.id → s.db.attempts.find? t.id = some t → t.status = .unknown := by
      intro t' reason' stored'
      rw [← ReasonCode.x402Attempt.inj (reason.symm.trans reason'), stored] at stored'
      rw [← Option.some.inj stored']
      exact isUnknown unknown
    cases resolved with
    | failed counted covers =>
      exact coherent.close { Amends.refl s.db with reservations := close_revised found isOpen, accounts := counted.grows }
        found rfl rfl fun _ => final
    | settled counted covers =>
      exact coherent.close { Amends.refl s.db with reservations := close_revised found isOpen, accounts := counted.grows }
        found rfl rfl fun _ => final
  | released free released =>
    obtain ⟨row, accounts, found, isOpen, counted, covers, rfl⟩ := releaseOnProof_ok released
    exact coherent.close { Amends.refl s.db with reservations := close_revised found isOpen, accounts := counted.grows }
      found rfl rfl fun inAccount => (unproved row found inAccount).elim
  | @purged locked batchLimit =>
    obtain ⟨attempts, purged, scrubbed⟩ := purge_scrubbed s.db s.now locked batchLimit
    rw [purged]
    exact coherent.scrub scrubbed
  | jobFunded funded =>
    cases fundEscrowJob_ok funded with
    | funded found isOpen inserted =>
      intro r member inAccount t reason stored
      rcases (Table.mem_insert? inserted).mp member with rfl | member
      · cases reason
      · exact coherent r member inAccount t reason stored
  | @jobMoved label job job' db moved =>
    have amends := moved.amends
    have jobRow := linked.job job (Table.mem_of_find? moved.found)
    obtain ⟨reservations, rfl, outcome⟩ := moved.tables
    rcases outcome with rfl | ⟨id, status, reserved, closing, rfl⟩
    · exact coherent
    · obtain ⟨row, found, reason⟩ := jobRow id reserved
      by_cases eligible : row.org_id = job.org_id ∧ row.status = .reserved
      · have closed : (s.db.closeReservation id job.org_id status).reservations =
            s.db.reservations.put { row with status } := by
          rw [closeReservation_of_open _ found eligible.1 eligible.2]
        refine coherent.close amends found closed rfl fun _ t reason' => ?_
        rw [reason] at reason'
        cases reason'
      · have same : (s.db.closeReservation id job.org_id status).reservations = s.db.reservations := by
          simp [Db.closeReservation, found, eligible]
        intro r member
        exact coherent r (same ▸ member)

theorem CoherentFor.write {account : AccountId} (coherent : CoherentFor account s.db) (sound : Sound s)
    (recorded : Recorded s.db) (unproved : NoProof account s label) (write : Write hashes s label db) :
    CoherentFor account db := by
  cases write with
  | unchanged => exact coherent
  | operator write => exact coherent.operator sound.linked recorded unproved write
  | call found write =>
    cases write with
    | unchanged => exact coherent
    | stranded phase free cancelled => exact coherent.cancelAll sound.linked (sound.known found phase) cancelled
    | scrubbed scrubbed => exact coherent.scrub scrubbed
    | prepared phase written =>
      obtain ⟨attempts, reservations, accounts, insertedAttempt, insertedReservation, -, rfl⟩ :=
        (sound.prepared found phase written).tables
      intro r member inAccount t reason stored
      rcases (Table.mem_insert? insertedReservation).mp member with rfl | member
      · have sameId := ReasonCode.x402Attempt.inj reason
        rw [← sameId] at stored
        have attemptIs := Option.some.inj (stored.symm.trans (Table.find?_insert?_self insertedAttempt))
        rw [attemptIs]
        constructor <;> simp [reservationOf, preparedAttempt, attemptOf]
      · obtain ⟨t', located, -⟩ := sound.linked.owner r member t.id reason
        obtain rfl := Option.some.inj (stored.symm.trans (Table.find?_insert?_of_find? insertedAttempt located))
        exact coherent r member inAccount t reason located
    | revised located revises early => exact coherent.revise revises located early
    | finalized phase free finalized =>
      exact coherent.finalize sound.linked (sound.known found phase) (finalizePaidHttpPayment_ok finalized)

theorem coherent_of_run {s₀ s : State} {events : List (State × Label)} {account : AccountId} (initial : Initial s₀)
    (run : Run (step hashes) s₀ events s) (unproved : Conforms (NoProof account) events) :
    Sound s ∧ Recorded s.db ∧ CoherentFor account s.db := by
  refine run.invariant (fun s => Sound s ∧ Recorded s.db ∧ CoherentFor account s.db) unproved
    ⟨initial.sound, initial.recorded, ?_⟩ ?_
  · simp [CoherentFor, initial.reservations]
  · rintro s label s' ⟨sound, recorded, coherent⟩ ok taken
    have moved := step_inversion taken
    exact ⟨sound.step moved, recorded.write sound moved.write, coherent.write sound recorded ok moved.write⟩

end AgentOps.Payments
