import AgentOps.Payments.Cleanup
import AgentOps.Payments.Recovery
import AgentOps.Payments.Submissions

namespace AgentOps.Payments
open Lib Identity

variable {hashes : Hashes} {db db' : Db} {s s' : State} {label : Label} {t t' : X402AttemptRow}
  {r r' : PaymentReservationRow} {account : AccountId}

/-! # An attempt and the books -/

/-- The status of an attempt and that of its reservation say the same of the payment. -/
structure Agree (status : X402AttemptStatus) (books : ReservationStatus) : Prop where
  isOpen : status = .reserved ∨ status = .submitting ∨ status = .unknown ↔ books = .reserved
  settled : status = .settled ↔ books = .settled
  failed : status = .failed ↔ books = .released

instance (status : X402AttemptStatus) (books : ReservationStatus) : Decidable (Agree status books) :=
  decidable_of_iff ((status = .reserved ∨ status = .submitting ∨ status = .unknown ↔ books = .reserved) ∧
      (status = .settled ↔ books = .settled) ∧ (status = .failed ↔ books = .released))
    ⟨fun ⟨isOpen, settled, failed⟩ => ⟨isOpen, settled, failed⟩, fun agree => ⟨agree.isOpen, agree.settled, agree.failed⟩⟩

theorem Coherent.agree_iff (coherent : Coherent r t) :
    Agree t.status r.status ↔ (t.status = .unknown → r.status = .reserved) := by
  constructor
  · exact fun agree unknown => agree.isOpen.mp (.inr (.inr unknown))
  · intro held
    have isOpen := coherent.open?
    have settled := coherent.settled
    have failed := coherent.failed
    cases status : t.status <;> simp only [status, reduceCtorEq, X402AttemptStatus.stage] at isOpen settled failed held
    · exact ⟨by simp [isOpen], by simp [isOpen], by simp [isOpen]⟩
    · exact ⟨by simp [isOpen], by simp [isOpen], by simp [isOpen]⟩
    · exact ⟨by simp [settled], by simp [settled], by simp [settled]⟩
    · exact ⟨by simp [failed], by simp [failed], by simp [failed]⟩
    · exact ⟨by simp [held], by simp [held], by simp [held]⟩

/-! ## What an attempt retains -/

inductive RetainedOk (t : X402AttemptRow) : Prop where
  | nothing (retained : t.retained = none)
  | evidence {settlement : RuntimeX402SettlementResult}
      (retained : t.retained.map Retained.content = some (.evidence settlement)) (submitted : 1 ≤ t.status.stage)
  | result {evidence : RuntimeX402SettlementResult} {result : RuntimeX402PaymentResult}
      (retained : t.retained.map Retained.content = some (.result evidence result)) (final : t.status.stage = 2)
      (status : result.payment.status = t.status)

theorem RetainedOk.of_reserved (ok : RetainedOk t) (reserved : t.status = .reserved) : t.retained = none := by
  cases ok with
  | nothing retained => exact retained
  | evidence _ submitted =>
    rw [reserved] at submitted
    cases submitted
  | result _ final =>
    rw [reserved] at final
    cases final

theorem RetainedOk.scrub (ok : RetainedOk t) (now : Time) : RetainedOk (t.scrub now) := by
  unfold X402AttemptRow.scrub
  split
  · exact .nothing rfl
  · exact ok

section Answer

variable {now : Time} {auth : ConnectionAuthResult} {payment : PreparedPaidHttpPayment}
  {settlement : RuntimeX402SettlementResult} {eventId : EventId} {result : RuntimeX402PaymentResult}

def answeredNetwork (payment : PreparedPaidHttpPayment) (settlement : RuntimeX402SettlementResult) : String :=
  (settlement.payment.map ProviderPayment.network).getD payment.quote.x402Network

theorem finalizeTerminal_result {status : X402AttemptStatus}
    (finalized : finalizeTerminalPaidHttpPayment db now auth payment settlement status eventId = .ok (db', result)) :
    result = resultOf eventId auth payment settlement (answeredNetwork payment settlement)
      (some (terminalErrorCode settlement)) := by
  unfold finalizeTerminalPaidHttpPayment at finalized
  simp only at finalized
  split at finalized
  · obtain ⟨counted, -, finalized⟩ := bind_eq_ok.mp finalized
    obtain ⟨released, -, finalized⟩ := bind_eq_ok.mp finalized
    obtain ⟨parsed, -, finalized⟩ := bind_eq_ok.mp finalized
    obtain ⟨recorded, -, finalized⟩ := bind_eq_ok.mp finalized
    obtain ⟨row, -, finalized⟩ := bind_eq_ok.mp finalized
    obtain ⟨-, rfl⟩ := Prod.mk.inj (Except.ok.inj finalized)
    rfl
  · obtain ⟨released, -, finalized⟩ := bind_eq_ok.mp finalized
    obtain ⟨parsed, -, finalized⟩ := bind_eq_ok.mp finalized
    obtain ⟨recorded, -, finalized⟩ := bind_eq_ok.mp finalized
    obtain ⟨row, -, finalized⟩ := bind_eq_ok.mp finalized
    obtain ⟨-, rfl⟩ := Prod.mk.inj (Except.ok.inj finalized)
    rfl

theorem finalizePaidHttpPayment_result
    (finalized : finalizePaidHttpPayment db now auth payment settlement eventId = .ok (db', result)) :
    result = resultOf eventId auth payment settlement (answeredNetwork payment settlement)
      (answeredError settlement) := by
  have terminal {status : X402AttemptStatus} (unsettled : recordedStatus settlement ≠ .settled)
      (finalized : finalizeTerminalPaidHttpPayment db now auth payment settlement status eventId = .ok (db', result)) :
      result = resultOf eventId auth payment settlement (answeredNetwork payment settlement)
        (answeredError settlement) := by
    rw [answeredError, if_neg unsettled]
    exact finalizeTerminal_result finalized
  unfold finalizePaidHttpPayment at finalized
  split at finalized
  · rename_i answer answered
    split at finalized
    · rename_i status
      unfold finalizeSettledPaidHttpPayment at finalized
      obtain ⟨counted, -, finalized⟩ := bind_eq_ok.mp finalized
      obtain ⟨debited, -, finalized⟩ := bind_eq_ok.mp finalized
      obtain ⟨parsed, -, finalized⟩ := bind_eq_ok.mp finalized
      obtain ⟨recorded, -, finalized⟩ := bind_eq_ok.mp finalized
      obtain ⟨row, -, finalized⟩ := bind_eq_ok.mp finalized
      obtain ⟨-, rfl⟩ := Prod.mk.inj (Except.ok.inj finalized)
      rw [answeredNetwork, answered, answeredError, if_pos (recordedStatus_settled answered status)]
      rfl
    · rename_i status
      exact terminal (by simp [recordedStatus, settlementStatus, answered, status]) finalized
    · rename_i status
      exact terminal (by simp [recordedStatus, settlementStatus, answered, status]) finalized
  · rename_i unanswered
    exact terminal (by simp [recordedStatus, settlementStatus, unanswered]) finalized

theorem finalizePaidHttpPayment_status
    (finalized : finalizePaidHttpPayment db now auth payment settlement eventId = .ok (db', result)) :
    result.payment.status = recordedStatus settlement := by
  rw [finalizePaidHttpPayment_result finalized]
  rfl

end Answer

theorem Step.finalize_cases {id : CallId} {eventId : EventId}
    (taken : Step hashes s (.call id (.finalize eventId)) s') :
    s'.db.attempts = s.db.attempts ∨ ∃ call payment settlement result, s.calls.find? id = some call ∧
      call.phase = .evidenced payment settlement ∧
        finalizePaidHttpPayment s.db s.now call.auth payment settlement eventId = .ok (s'.db, result) := by
  cases taken with
  | operator write =>
    cases write with
    | jobMoved moved =>
      obtain ⟨reservations, rfl, -⟩ := moved.tables
      exact .inl rfl
    | unchanged | registry | jobCreated => exact .inl rfl
  | called found taken =>
    cases taken with
    | ends => exact .inl rfl
    | finalize phase free finalized => exact .inr ⟨_, _, _, _, found, phase, finalized⟩

theorem Step.finalizes {id : CallId} {eventId : EventId} (taken : Step hashes s (.call id (.finalize eventId)) s')
    (retained : ∀ t ∈ s.db.attempts, RetainedOk t) : ∀ t ∈ s'.db.attempts, RetainedOk t := by
  rcases taken.finalize_cases with same | ⟨call, payment, settlement, result, found, phase, finalized⟩
  · rw [same]
    exact retained
  · obtain ⟨row, metadata, errorCode, inScope, attempts, -⟩ := (finalizePaidHttpPayment_ok finalized).attempt
    intro t member
    rw [attempts] at member
    rcases Table.mem_put.mp member with ⟨member, -⟩ | ⟨rfl, -⟩
    · exact retained t member
    · exact .result rfl (recordedStatus_stage settlement) (finalizePaidHttpPayment_status finalized)

theorem Step.retained (taken : Step hashes s label s') (sound : Sound s) (retained : ∀ t ∈ s.db.attempts, RetainedOk t) :
    ∀ t ∈ s'.db.attempts, RetainedOk t := by
  by_cases finalizes : ∃ id eventId, label = .call id (.finalize eventId)
  · obtain ⟨id, eventId, rfl⟩ := finalizes
    exact taken.finalizes retained
  intro t' member
  rcases taken.attempt_source sound member with ⟨-, nothing, -⟩ | ⟨t, before, moved⟩
  · exact .nothing nothing
  have ok := retained t before
  cases moved with
  | kept => exact ok
  | scrubbed => exact ok.scrub _
  | cancelled reserved => exact .nothing (ok.of_reserved reserved)
  | retryable reserved => exact .nothing (ok.of_reserved reserved)
  | submitted _ _ _ _ reserved => exact .nothing (ok.of_reserved reserved)
  | evidenced _ _ _ _ submitting => exact .evidence rfl (by simp [withEvidence, submitting, X402AttemptStatus.stage])
  | finalized label => exact (finalizes ⟨_, _, label⟩).elim

theorem retained_of_run {s₀ : State} {events : List (State × Label)} (initial : Initial s₀)
    (run : Run (step hashes) s₀ events s) : ∀ t ∈ s.db.attempts, RetainedOk t := by
  have both : Sound s ∧ ∀ t ∈ s.db.attempts, RetainedOk t := by
    refine run.always (fun s => Sound s ∧ ∀ t ∈ s.db.attempts, RetainedOk t) ⟨initial.sound, by simp [initial.attempts]⟩ ?_
    intro s label s' ok taken
    have moved := step_inversion taken
    exact ⟨ok.1.step moved, moved.retained ok.1 ok.2⟩
  exact both.2

/-! ## Resolving by hand -/

/-- `resolveUnknownAttempt` finds the reservation open, and an event of the org that says that its payment is unknown. -/
def Resolvable (db : Db) (orgId : OrgId) (id : ReservationId) : Prop :=
  ∃ row, db.reservations.find? id = some row ∧ row.org_id = orgId ∧ row.status = .reserved ∧
    ∃ event ∈ db.events, event.reservation_id = id ∧ event.org_id = orgId ∧ event.result.isUnknown = true

def Resolves (id : ReservationId) (s : State) : Label → Prop
  | .resolveUnknownAttempt _ orgId reservationId _ => reservationId = id ∧ Resolvable s.db orgId id
  | _ => False

theorem resolveUnknownAttempt_resolvable {actorId : String} {orgId : OrgId} {id : ReservationId}
    {outcome : ResolveUnknownAttemptOutcome} (resolved : resolveUnknownAttempt db actorId orgId id outcome = .ok db') :
    Resolvable db orgId id := by
  unfold resolveUnknownAttempt at resolved
  split at resolved
  · cases resolved
  rename_i row filtered
  obtain ⟨found, eligible⟩ := Option.filter_eq_some_iff.mp filtered
  obtain ⟨inOrg, isOpen⟩ := of_decide_eq_true eligible
  split at resolved
  · cases resolved
  rename_i unknown
  simp only [Bool.not_eq_true', Bool.not_eq_false, List.any_eq_true] at unknown
  obtain ⟨event, member, org⟩ := unknown
  obtain ⟨stored, names⟩ := List.mem_filter.mp member
  obtain ⟨names, isUnknown⟩ := of_decide_eq_true names
  exact ⟨row, found, inOrg, isOpen, event, stored, names, of_decide_eq_true org, isUnknown⟩

theorem Resolvable.enabled {orgId : OrgId} {id : ReservationId} (resolvable : Resolvable db orgId id)
    (covers : ∀ row, db.reservations.find? id = some row → Covers db.accounts row.account row.amount_usdc)
    (actorId : String) (outcome : ResolveUnknownAttemptOutcome) :
    ∃ db', resolveUnknownAttempt db actorId orgId id outcome = .ok db' := by
  obtain ⟨row, found, inOrg, isOpen, event, stored, names, org, unknown⟩ := resolvable
  have located : db.reservations.find? row.id = some row := Table.find?_of_mem (Table.mem_of_find? found)
  have evidence : ((db.unknownEvents id).any fun event => event.org_id = orgId) = true :=
    List.any_eq_true.mpr ⟨event, List.mem_filter.mpr ⟨stored, by simp [names, unknown]⟩, by simp [org]⟩
  have covered := covers row found
  unfold resolveUnknownAttempt
  rw [found, Option.filter_some, if_pos (by simp [inOrg, isOpen])]
  simp only [evidence, Bool.not_true, Bool.false_eq_true, if_false]
  cases account : db.accounts.find? row.account with
  | none =>
    cases outcome <;> simp [closeReservation_of_open _ located rfl isOpen, Db.subReserved, Db.moveToSpent, account]
  | some stored =>
    have enough := Nat.not_lt.mpr (covered stored account)
    cases outcome <;>
      simp [closeReservation_of_open _ located rfl isOpen, Db.subReserved, Db.moveToSpent, account, enough]

/-! ## The reservation of an unknown attempt -/

def StillHeld (r r' : PaymentReservationRow) (t : X402AttemptRow) : Prop :=
  r' = r ∧ (t.status = .unknown ∨ r.status = .reserved)

theorem PairMoves.held (moves : PairMoves db db' account r r' t t') (unknown : t'.status = .unknown)
    (reservations : db'.reservations.find? r.id = db.reservations.find? r.id)
    (attempts : db'.attempts.find? t.id = db.attempts.find? t.id) : StillHeld r r' t := by
  have rowIs := moves.reservation'
  have attemptIs := moves.attempt'
  rw [reservations, moves.reservation] at rowIs
  rw [attempts, moves.attempt] at attemptIs
  obtain rfl := Option.some.inj rowIs
  obtain rfl := Option.some.inj attemptIs
  exact ⟨rfl, .inl unknown⟩

theorem PairMoves.scrubbed {now : Time} {attempts : Table X402AttemptRow.id}
    (moves : PairMoves db { db with attempts } account r r' t t') (unknown : t'.status = .unknown)
    (scrubbed : Scrubbed now db.attempts attempts) : StillHeld r r' t := by
  obtain rfl := Option.some.inj (moves.reservation'.symm.trans moves.reservation)
  rcases scrubbed t.id with same | dropped
  · exact moves.held unknown rfl same
  · rw [moves.attempt] at dropped
    obtain rfl := Option.some.inj (moves.attempt'.symm.trans dropped)
    exact ⟨rfl, .inl (by simpa using unknown)⟩

theorem OperatorWrite.held (linked : Linked s.db) (unproved : NoProof account s label)
    (write : OperatorWrite hashes s label db) (moves : PairMoves s.db db account r r' t t')
    (unknown : t'.status = .unknown) : StillHeld r r' t ∨ Resolves r.id s label := by
  cases write with
  | unchanged | registry | jobCreated => exact .inl (moves.held unknown rfl rfl)
  | configured free configured => cases configured <;> exact .inl (moves.held unknown rfl rfl)
  | @resolved actorId orgId reservationId outcome db free resolved =>
    by_cases own : reservationId = r.id
    · subst own
      exact .inr ⟨rfl, resolveUnknownAttempt_resolvable resolved⟩
    · obtain ⟨row, found, isOpen, -, resolved⟩ := resolveUnknownAttempt_ok resolved
      rw [← Table.key_of_find? found] at own
      cases resolved with
      | failed =>
        exact .inl (moves.held unknown (Table.find?_put_ne (r := { row with status := ReservationStatus.released }) own) rfl)
      | settled =>
        exact .inl (moves.held unknown (Table.find?_put_ne (r := { row with status := ReservationStatus.settled }) own) rfl)
  | released free released =>
    obtain ⟨row, accounts, found, isOpen, counted, covers, rfl⟩ := releaseOnProof_ok released
    have apart : row.id ≠ r.id := by
      intro same
      obtain rfl := Table.eq_of_key (Table.mem_of_find? found) (Table.mem_of_find? moves.reservation) same
      exact unproved row found moves.account
    exact .inl (moves.held unknown (Table.find?_put_ne (r := { row with status := ReservationStatus.released }) apart) rfl)
  | @purged locked batchLimit =>
    obtain ⟨attempts, purged, scrubbed⟩ := purge_scrubbed s.db s.now locked batchLimit
    rw [purged] at moves
    exact .inl (moves.scrubbed unknown scrubbed)
  | jobFunded funded =>
    cases fundEscrowJob_ok funded with
    | funded found isOpen inserted =>
      exact .inl (moves.held unknown
        ((Table.find?_insert?_of_find? inserted moves.reservation).trans moves.reservation.symm) rfl)
  | @jobMoved label job job' db moved =>
    have jobRow := linked.job job (Table.mem_of_find? moved.found)
    obtain ⟨reservations, rfl, outcome⟩ := moved.tables
    rcases outcome with rfl | ⟨id, status, reserved, closing, rfl⟩
    · exact .inl (moves.held unknown rfl rfl)
    · obtain ⟨row, found, reason⟩ := jobRow id reserved
      refine .inl (moves.held unknown ((closeReservation_find? status moves.reservation).trans ?_) rfl)
      rw [moves.reservation, if_neg]
      rintro ⟨rfl, -⟩
      obtain rfl := Option.some.inj (found.symm.trans moves.reservation)
      rw [moves.reason] at reason
      cases reason

theorem cancelCandidates_held {auth : ConnectionAuthResult} {candidates : List StrandedCandidate} (linked : Linked db)
    (known : ∀ candidate ∈ candidates, CandidateOk db auth candidate)
    (cancelled : cancelCandidates auth db candidates = .ok db') (moves : PairMoves db db' account r r' t t')
    (unknown : t.status = .unknown) : r' = r := by
  have kept : Linked db' ∧ Amends db db' ∧ db'.reservations.find? r.id = some r ∧ db'.attempts.find? t.id = some t := by
    refine cancelCandidates_invariant (fun db' => Linked db' ∧ Amends db db' ∧ db'.reservations.find? r.id = some r ∧
      db'.attempts.find? t.id = some t) cancelled ⟨linked, .refl db, moves.reservation, moves.attempt⟩ ?_
    rintro candidate member db₁ db₂ ⟨linked₁, amends₁, reservation₁, attempt₁⟩ one
    refine ⟨one.linked linked₁, amends₁.trans one.amends, ?_⟩
    cases one with
    | passed => exact ⟨reservation₁, attempt₁⟩
    | @released reservation accountRow attempt foundReservation isOpen foundAccount covers foundAttempt reserved =>
      obtain ⟨r₀, found₀, -, -, reason₀⟩ := (known candidate member).keep amends₁.keeps
      obtain rfl : reservation = r₀ := Option.some.inj (foundReservation.symm.trans found₀)
      have attemptApart : attempt.id ≠ t.id := by
        intro same
        obtain rfl := Table.eq_of_key (Table.mem_of_find? foundAttempt) (Table.mem_of_find? attempt₁) same
        rw [unknown] at reserved
        cases reserved
      have apart : reservation.id ≠ r.id := by
        intro same
        obtain rfl := Table.eq_of_key (Table.mem_of_find? foundReservation) (Table.mem_of_find? reservation₁) same
        refine attemptApart ((Table.key_of_find? foundAttempt).trans ?_)
        exact ReasonCode.x402Attempt.inj (reason₀.symm.trans moves.reason)
      exact ⟨(Table.find?_put_ne (r := { reservation with status := ReservationStatus.released }) apart).trans reservation₁,
        (Table.find?_put_ne (r := { attempt with
          status := X402AttemptStatus.failed, error_code := some candidate.error_code }) attemptApart).trans attempt₁⟩
  exact Option.some.inj (moves.reservation'.symm.trans kept.2.2.1)

theorem Finalized.held {now : Time} {payment : PreparedPaidHttpPayment} {settlement : RuntimeX402SettlementResult}
    {eventId : EventId} {result : RuntimeX402PaymentResult} {call : Call} (coherent : CoherentFor account db)
    (ok : PaymentOk db call payment 1)
    (finalized : Finalized db now call.auth payment settlement eventId db' result)
    (moves : PairMoves db db' account r r' t t') (unknown : t'.status = .unknown) : StillHeld r r' t := by
  obtain ⟨r₀, found₀, reason₀, -⟩ := ok.row
  have pair := coherent r (Table.mem_of_find? moves.reservation) moves.account t moves.reason moves.attempt
  have apart (other : payment.attempt.id ≠ t.id) : payment.reservationId ≠ r.id := by
    intro same
    obtain rfl : r₀ = r := Option.some.inj (found₀.symm.trans (same ▸ moves.reservation))
    exact other (ReasonCode.x402Attempt.inj (reason₀.symm.trans moves.reason))
  have final {row final : X402AttemptRow} (inScope : Scoped db call.auth payment.attempt.id .submitting row)
      (attempts : db'.attempts = db.attempts.put final) (same : final.id = row.id) :
      payment.attempt.id = t.id ∧ row = t ∧ t' = final ∨
        payment.attempt.id ≠ t.id ∧ db'.attempts.find? t.id = db.attempts.find? t.id := by
    have rowId := Table.key_of_find? inScope.found
    have attemptIs := Table.find?_put (r := final) moves.attempt
    rw [← attempts, moves.attempt', same, rowId] at attemptIs
    by_cases own : payment.attempt.id = t.id
    · rw [if_pos own] at attemptIs
      exact .inl ⟨own, Option.some.inj (inScope.found.symm.trans (own ▸ moves.attempt)), Option.some.inj attemptIs⟩
    · rw [if_neg own] at attemptIs
      exact .inr ⟨own, moves.attempt'.trans (attemptIs.trans moves.attempt.symm)⟩
  cases finalized with
  | settled answered status inScope =>
    rcases final inScope rfl rfl with ⟨-, -, rfl⟩ | ⟨other, same⟩
    · cases unknown
    · refine moves.held unknown ((closeReservation_find? _ moves.reservation).trans ?_) same
      rw [moves.reservation, if_neg fun both => apart other both.1]
  | failed status inScope =>
    rcases final inScope rfl rfl with ⟨-, -, rfl⟩ | ⟨other, same⟩
    · cases unknown
    · refine moves.held unknown ((closeReservation_find? _ moves.reservation).trans ?_) same
      rw [moves.reservation, if_neg fun both => apart other both.1]
  | unknown status inScope =>
    rcases final inScope rfl rfl with ⟨-, rfl, -⟩ | ⟨-, same⟩
    · refine ⟨Option.some.inj (moves.reservation'.symm.trans moves.reservation), .inr (pair.open? ?_)⟩
      rw [inScope.status]
      decide
    · exact moves.held unknown rfl same

theorem Write.held (sound : Sound s) (coherent : CoherentFor account s.db) (unproved : NoProof account s label)
    (write : Write hashes s label db) (moves : PairMoves s.db db account r r' t t') (unknown : t'.status = .unknown) :
    StillHeld r r' t ∨ Resolves r.id s label := by
  cases write with
  | unchanged => exact .inl (moves.held unknown rfl rfl)
  | operator write => exact write.held sound.linked unproved moves unknown
  | call found write =>
    left
    cases write with
    | unchanged => exact moves.held unknown rfl rfl
    | stranded phase free cancelled =>
      obtain ⟨-, none⟩ := cancelCandidates_noneUnknown cancelled
      obtain ⟨t₀, member, unknown₀, -, sameId⟩ := none t' (Table.mem_of_find? moves.attempt') unknown
      have located := Table.find?_of_mem member
      rw [sameId, Table.key_of_find? moves.attempt'] at located
      obtain rfl := Option.some.inj (located.symm.trans moves.attempt)
      exact ⟨cancelCandidates_held sound.linked (sound.known found phase) cancelled moves unknown₀, .inl unknown₀⟩
    | scrubbed scrubbed => exact moves.scrubbed unknown scrubbed
    | prepared phase written =>
      obtain ⟨attempts, reservations, accounts, insertedAttempt, insertedReservation, -, rfl⟩ :=
        (sound.prepared found phase written).tables
      exact moves.held unknown ((Table.find?_insert?_of_find? insertedReservation moves.reservation).trans
        moves.reservation.symm) ((Table.find?_insert?_of_find? insertedAttempt moves.attempt).trans moves.attempt.symm)
    | @revised event row row' located revises early =>
      have attemptIs := Option.some.inj (moves.attempt'.symm.trans (Table.find?_put moves.attempt))
      by_cases same : row'.id = t.id
      · rw [if_pos same] at attemptIs
        rw [← attemptIs, unknown] at early
        exact absurd early (by decide)
      · exact moves.held unknown rfl (Table.find?_put_ne same)
    | finalized phase free finalized =>
      exact (finalizePaidHttpPayment_ok finalized).held coherent (sound.known found phase) moves unknown

/-! ## Resolutions in a run -/

def ClosedUnknown (db : Db) (r : PaymentReservationRow) : Prop :=
  r.status ≠ .reserved ∧ ∃ t, r.reason_code = .x402Attempt t.id ∧ db.attempts.find? t.id = some t ∧ t.status = .unknown

theorem ClosedUnknown.keep (closed : ClosedUnknown db r) (keeps : Keeps db db') (same : SameReservation r r') :
    ClosedUnknown db' r' := by
  obtain ⟨status, t, reason, stored, unknown⟩ := closed
  obtain ⟨t', stored', revises⟩ := keeps.attempts _ _ stored
  have sameId : t'.id = t.id := Table.key_of_find? stored'
  refine ⟨by rw [same.closed status]; exact status, t', ?_, by rw [sameId]; exact stored', ?_⟩
  · rw [same.same, sameId]
    exact reason
  · rcases revises.advances with unchanged | later
    · rw [unchanged, unknown]
    · have bound := t'.status.stage_le
      rw [unknown] at later
      simp only [X402AttemptStatus.stage] at later bound
      omega

theorem Consistent.resolves (consistent : Consistent account s) {id : ReservationId} (resolves : Resolves id s label)
    (taken : Payments.step hashes s label = some s') (found : s.db.reservations.find? id = some r)
    (inAccount : r.account = account) :
    ∃ r', s'.db.reservations.find? id = some r' ∧ ClosedUnknown s'.db r' := by
  cases label with
  | resolveUnknownAttempt actorId orgId reservationId outcome =>
    obtain ⟨rfl, resolvable⟩ := resolves
    obtain ⟨row, located, -, isOpen, event, member, names, -, unknown⟩ := id resolvable
    obtain rfl := Option.some.inj (found.symm.trans located)
    obtain ⟨r₀, t, found₀, reason, stored, -, isUnknown⟩ := consistent.recorded.event event member
    rw [names] at found₀
    obtain rfl := Option.some.inj (found.symm.trans found₀)
    obtain ⟨db', resolved⟩ := resolvable.enabled (fun row located stored account => by
      obtain rfl := Option.some.inj (found.symm.trans located)
      rw [inAccount] at account
      exact consistent.balanced.covers (Table.mem_of_find? found) inAccount isOpen (by rw [reason]; rfl) account)
      actorId outcome
    simp only [Payments.step, Option.ite_none_left_eq_some, Option.some.injEq] at taken
    obtain ⟨-, rfl⟩ := taken
    have written : (s.commit (resolveUnknownAttempt s.db actorId orgId reservationId outcome)).db = db' := by
      rw [resolved]
      rfl
    rw [written]
    obtain ⟨row, located, -, -, closing⟩ := resolveUnknownAttempt_ok resolved
    obtain rfl := Option.some.inj (found.symm.trans located)
    obtain rfl := Table.key_of_find? found
    cases closing with
    | failed =>
      refine ⟨{ r with status := .released }, ?_, by simp, t, reason, stored, isUnknown unknown⟩
      exact Table.find?_put_self (r := { r with status := ReservationStatus.released }) found
    | settled =>
      refine ⟨{ r with status := .settled }, ?_, by simp, t, reason, stored, isUnknown unknown⟩
      exact Table.find?_put_self (r := { r with status := ReservationStatus.settled }) found
  | _ => cases resolves

structure ResolvedSoFar (account : AccountId) (events : List (State × Label)) (s : State) : Prop where
  held : ∀ r ∈ s.db.reservations, r.account = account → ∀ t, r.reason_code = .x402Attempt t.id →
    s.db.attempts.find? t.id = some t → t.status = .unknown →
      r.status = .reserved ∨ ∃ e ∈ events, Resolves r.id e.1 e.2
  resolved : ∀ e ∈ events, ∀ id, Resolves id e.1 e.2 →
    ∃ r, s.db.reservations.find? id = some r ∧ (r.account = account → ClosedUnknown s.db r)

theorem ResolvedSoFar.step {events : List (State × Label)} (soFar : ResolvedSoFar account events s)
    (consistent : Consistent account s) (unproved : NoProof account s label) (taken : Payments.step hashes s label = some s') :
    ResolvedSoFar account (events ++ [(s, label)]) s' := by
  have moved := step_inversion taken
  have keeps : Keeps s.db s'.db := consistent.sound.keeps moved.write
  constructor
  · intro r' member inAccount t' reason stored' unknown
    rcases moved.attempt_source consistent.sound (Table.mem_of_find? stored') with ⟨fresh, -⟩ | ⟨t, before, step⟩
    · rw [fresh] at unknown
      cases unknown
    have sameId : t.id = t'.id := by rw [step.revises.same]
    obtain ⟨r, storedRow, backs⟩ := consistent.sound.linked.backed t before
    obtain ⟨r'', found'', sameRow⟩ := keeps.reservations _ _ (Table.find?_of_mem storedRow)
    have isRow : r'' = r' := by
      refine (consistent.sound.step moved).linked.single r'' (Table.mem_of_find? found'') r' member t'.id ?_ reason
      rw [sameRow.same, ← sameId]
      exact backs.reason
    subst isRow
    have rowId : r''.id = r.id := Table.key_of_find? found''
    have moves : PairMoves s.db s'.db account r r'' t t' := by
      refine ⟨sameRow.account.symm.trans inAccount, backs.reason, Table.find?_of_mem storedRow, found'',
        Table.find?_of_mem before, ?_⟩
      rw [sameId]
      exact stored'
    rcases moved.write.held consistent.sound consistent.coherent unproved moves unknown with ⟨rfl, was⟩ | now
    · rcases was with unknown | reserved
      · rcases soFar.held r'' storedRow inAccount t backs.reason (Table.find?_of_mem before) unknown with
          reserved | ⟨e, earlier, resolves⟩
        · exact .inl reserved
        · exact .inr ⟨e, List.mem_append_left _ earlier, resolves⟩
      · exact .inl reserved
    · rw [rowId]
      exact .inr ⟨_, List.mem_append_right _ (List.mem_singleton_self _), now⟩
  · intro e member id resolves
    rcases List.mem_append.mp member with earlier | last
    · obtain ⟨r, found, closed⟩ := soFar.resolved e earlier id resolves
      obtain ⟨r', found', same⟩ := keeps.reservations _ _ found
      refine ⟨r', found', fun inAccount => (closed (same.account.symm.trans inAccount)).keep keeps same⟩
    · obtain rfl := List.mem_singleton.mp last
      have stored : ∃ r, s.db.reservations.find? id = some r := by
        cases label with
        | resolveUnknownAttempt =>
          obtain ⟨rfl, row, found, -⟩ := resolves
          exact ⟨row, found⟩
        | _ => cases resolves
      obtain ⟨r, found⟩ := stored
      by_cases inAccount : r.account = account
      · obtain ⟨r', found', closed⟩ := consistent.resolves resolves taken found inAccount
        exact ⟨r', found', fun _ => closed⟩
      · obtain ⟨r', found', same⟩ := keeps.reservations _ _ found
        exact ⟨r', found', fun here => (inAccount (same.account.symm.trans here)).elim⟩

theorem resolved_of_run {s₀ : State} {events : List (State × Label)} (initial : Initial s₀)
    (run : Run (step hashes) s₀ events s) (unproved : Conforms (NoProof account) events) :
    ResolvedSoFar account events s := by
  refine run.history (ResolvedSoFar account) unproved ⟨by simp [initial.reservations], by simp⟩ ?_
  intro events s label s' before conforms soFar unproved taken
  exact soFar.step (consistent_of_run initial before conforms) unproved taken

/-! ## What a retry reports -/

def Phase.answer : Phase → Option RuntimeX402PaymentResult
  | .returned result => some result
  | _ => none

def reported (hashes : Hashes) (s : State) (id : CallId) (event : CallEvent) : Option X402AttemptStatus :=
  (step hashes s (.call id event)).bind fun s' => (s'.calls.find? id).bind fun call =>
    call.phase.answer.map fun result => result.payment.status

/-- A call under the key of the attempt answers from it with this status. -/
def Reports (hashes : Hashes) (s : State) (t : X402AttemptRow) (status : X402AttemptStatus) : Prop :=
  ∃ id call event, s.calls.find? id = some call ∧
    s.db.attemptFor call.auth.connection_id call.idempotencyKey = some t ∧
    (event = .findAttempt ∨ event = .findRacedAttempt) ∧ reported hashes s id event = some status

theorem RetainedOk.raced (ok : RetainedOk t) : (racedResult t).payment.status = t.status := by
  unfold racedResult
  cases ok with
  | nothing retained =>
    rw [retained]
    rfl
  | evidence retained =>
    rw [retained]
    rfl
  | result retained _ status =>
    rw [retained]
    exact status

theorem afterFind_answer {call : Call} {result : RuntimeX402PaymentResult}
    (answers : (afterFind call (some t)).answer = some result) :
    t.request_hash = call.requestHash ∧ result = racedResult t := by
  simp only [afterFind] at answers
  split at answers
  · cases answers
  split at answers
  · cases answers
  rename_i requested
  refine ⟨not_not.mp requested, ?_⟩
  have fromAttempt {result : RuntimeX402PaymentResult} (answers : (if t.status ≠ .reserved then
      Phase.returned (paymentResultFromAttempt t) else .resuming t none).answer = some result) :
      result = paymentResultFromAttempt t := by
    split at answers
    · exact (Option.some.inj answers).symm
    · cases answers
  unfold racedResult
  cases retained : t.retained.map Retained.content with
  | none =>
    rw [retained] at answers
    exact fromAttempt answers
  | some content =>
    rw [retained] at answers
    cases content with
    | result => exact (Option.some.inj answers).symm
    | evidence =>
      simp only at answers
      split at answers
      · cases answers
      · exact fromAttempt answers

theorem RetainedOk.found (ok : RetainedOk t) {call : Call} {result : RuntimeX402PaymentResult}
    (answers : (afterFind call (some t)).answer = some result) : result.payment.status = t.status := by
  rw [(afterFind_answer answers).2]
  exact ok.raced

theorem Reports.eq {status : X402AttemptStatus} (reports : Reports hashes s t status) (ok : RetainedOk t) :
    status = t.status := by
  obtain ⟨id, call, event, found, stored, reads, answers⟩ := reports
  have same : call.id = id := Table.key_of_find? found
  subst same
  have read (now : Time) : findAttempt s.db now call.auth.connection_id call.idempotencyKey =
      ({ s.db with attempts := s.db.attempts.put (t.scrub now) }, some (t.scrub now)) := by
    rw [findAttempt, stored]
  obtain ⟨s', taken, answers⟩ := Option.bind_eq_some_iff.mp answers
  obtain ⟨call', found', answers⟩ := Option.bind_eq_some_iff.mp answers
  obtain ⟨result, answered, rfl⟩ := Option.map_eq_some_iff.mp answers
  simp only [step, found] at taken
  obtain ⟨effect, moved, rfl⟩ := Option.map_eq_some_iff.mp taken
  have phase : call'.phase = effect.phase := by
    have located := Table.find?_put_self (r := { call with phase := effect.phase }) found
    rw [← Option.some.inj (located.symm.trans found')]
  rw [phase] at answered
  rcases reads with rfl | rfl
  · simp only [callStep] at moved
    split at moved
    · obtain rfl := Option.some.inj moved
      simp only [read] at answered
      rw [(ok.scrub s.now).found answered, scrub_status]
    · cases moved
  · simp only [callStep, read] at moved
    split at moved
    · rename_i tx held
      split at moved <;> obtain rfl := Option.some.inj moved
      · cases answered
      · obtain rfl := Option.some.inj answered
        rw [(ok.scrub tx.began).raced, scrub_status]
    · cases moved

/-! ## Every state that is reached -/

/-- The attempt and its one reservation agree, and so does what a retry reports, unless the reservation has been resolved
by hand. -/
theorem attempt_agrees_iff {s₀ : State} {events : List (State × Label)} (initial : Initial s₀)
    (run : Run (step hashes) s₀ events s) (member : t ∈ s.db.attempts)
    (unproved : Conforms (NoProof (t.org_id, t.agent_id)) events) :
    ∃ r ∈ s.db.reservations, r.reason_code = .x402Attempt t.id ∧
      (∀ r' ∈ s.db.reservations, r'.reason_code = .x402Attempt t.id → r' = r) ∧
      ((Agree t.status r.status ∧ ∀ status, Reports hashes s t status → Agree status r.status) ↔
        ∀ e ∈ events, ¬Resolves r.id e.1 e.2) := by
  have consistent := consistent_of_run initial run unproved
  have soFar := resolved_of_run initial run unproved
  obtain ⟨r, stored, backs⟩ := consistent.sound.linked.backed t member
  have found := Table.find?_of_mem member
  have coherent := consistent.coherent r stored backs.account t backs.reason found
  refine ⟨r, stored, backs.reason, fun r' stored' reason' =>
    consistent.sound.linked.single r' stored' r stored t.id reason' backs.reason, ?_, ?_⟩
  · rintro ⟨agree, -⟩ e earlier resolves
    obtain ⟨r', located, closed⟩ := soFar.resolved e earlier r.id resolves
    rw [Table.find?_of_mem stored] at located
    obtain rfl := Option.some.inj located
    obtain ⟨status, t', reason, found', unknown⟩ := closed backs.account
    rw [← ReasonCode.x402Attempt.inj (backs.reason.symm.trans reason), found] at found'
    obtain rfl := Option.some.inj found'
    exact status (coherent.agree_iff.mp agree unknown)
  · intro unresolved
    have agree : Agree t.status r.status := coherent.agree_iff.mpr fun unknown =>
      (soFar.held r stored backs.account t backs.reason found unknown).elim id fun ⟨e, earlier, resolves⟩ =>
        (unresolved e earlier resolves).elim
    refine ⟨agree, fun status reports => ?_⟩
    rw [reports.eq (retained_of_run initial run t member)]
    exact agree

section Example

def leavesBooks (mayResolve : Bool) (_ : State) : Label → Bool
  | .releaseOnProof _ _ => false
  | .resolveUnknownAttempt _ _ _ _ => mayResolve
  | _ => true

theorem noProof_of_leavesBooks {mayResolve : Bool} (leaves : leavesBooks mayResolve s label = true) :
    NoProof account s label := by
  cases label with
  | releaseOnProof => cases leaves
  | _ => trivial

namespace Workspace

def doubts : List CallEvent :=
  prepares ++ submits (.error ⟨"The facilitator did not answer.", some "ambiguous_post_submit"⟩) ++
    [.persistEvidence, .finalize 1]

end Workspace

/-- An operator finds that the payment has settled. The attempt stays unknown, and a retry reports it so. -/
theorem resolved_attempt_disagrees : ∃ events s, Run (step Workspace.hashes) (Workspace.state .circleWallets) events s ∧
    Conforms (NoProof (1, 1)) events ∧ ∃ r ∈ s.db.reservations.rows, ∃ t ∈ s.db.attempts.rows,
      r.reason_code = .x402Attempt t.id ∧ r.status = .settled ∧ ¬Agree t.status r.status ∧
        Reports Workspace.hashes s t .unknown := by
  obtain ⟨events, s, run, conforms, r, stored, t, member, reason, settled, apart, reads, answers⟩ : ∃ events s,
      Run (step Workspace.hashes) (Workspace.state .circleWallets) events s ∧ Conforms (NoProof (1, 1)) events ∧
      ∃ r ∈ s.db.reservations.rows, ∃ t ∈ s.db.attempts.rows, r.reason_code = .x402Attempt t.id ∧ r.status = .settled ∧
        ¬Agree t.status r.status ∧ ((s.calls.find? 101).bind fun call =>
          (s.db.attemptFor call.auth.connection_id call.idempotencyKey).map (·.id)) = some t.id ∧
        reported Workspace.hashes s 101 .findAttempt = some .unknown :=
    exists_conforming_run (.setAgentPaymentAccess 1 1 (Workspace.access 5) :: Workspace.pays 100 Workspace.doubts ++
      .resolveUnknownAttempt "operator" 1 1 .settled :: Workspace.pays 101 [.selectStranded, .commitStranded])
      (leavesBooks true) _ (fun _ _ => noProof_of_leavesBooks) (by decide)
  obtain ⟨call, found, named⟩ := Option.bind_eq_some_iff.mp reads
  obtain ⟨t', located, sameId⟩ := Option.map_eq_some_iff.mp named
  obtain rfl := Table.eq_of_key (List.mem_of_find?_eq_some located) member sameId
  exact ⟨events, s, run, conforms, r, stored, t', member, reason, settled, apart, 101, call, .findAttempt, found, located,
    .inl rfl, answers⟩

/-- A payment that settles, and a retry that comes upon it -/
theorem attempt_agrees_settled : ∃ events s, Run (step Workspace.hashes) (Workspace.state .circleWallets) events s ∧
    ∃ t ∈ s.db.attempts.rows, t.status = .settled ∧ ∃ r ∈ s.db.reservations.rows, r.reason_code = .x402Attempt t.id ∧
      Agree t.status r.status ∧ ∀ status, Reports Workspace.hashes s t status → Agree status r.status := by
  obtain ⟨events, s, run, conforms, t, member, settled, org, agent⟩ : ∃ events s,
      Run (step Workspace.hashes) (Workspace.state .circleWallets) events s ∧
      Conforms (fun s label => leavesBooks false s label = true) events ∧
      ∃ t ∈ s.db.attempts.rows, t.status = .settled ∧ t.org_id = 1 ∧ t.agent_id = 1 :=
    exists_conforming_run (.setAgentPaymentAccess 1 1 (Workspace.access 5) :: Workspace.pays 100 Workspace.settles ++
      Workspace.pays 101 [.selectStranded, .commitStranded]) (leavesBooks false) _ (fun _ _ => id) (by decide)
  obtain ⟨r, stored, reason, -, agrees⟩ := attempt_agrees_iff (Workspace.state_initial _) run member
    (conforms.mono fun _ _ => noProof_of_leavesBooks)
  obtain ⟨agree, reports⟩ := agrees.mpr fun e earlier resolves => by
    have leaves := conforms e earlier
    obtain ⟨before, label⟩ := e
    cases label with
    | resolveUnknownAttempt => cases leaves
    | _ => cases resolves
  exact ⟨events, s, run, t, member, settled, r, stored, reason, agree, reports⟩

end Example

end AgentOps.Payments
