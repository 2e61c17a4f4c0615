import AgentOps.Payments.Coherence
import AgentOps.Payments.Idempotency

namespace AgentOps.Payments
open Lib Identity

variable {hashes : Hashes} {db db' : Db} {s s' : State} {call : Call} {label : Label} {t t' : X402AttemptRow}

/-! # What one step does to an attempt -/

/-- The rows that `purgeExpiredX402Results` takes up -/
def purgeBatch (db : Db) (now : Time) (locked : List AttemptId) (batchLimit : Nat) : List X402AttemptRow :=
  ((db.attempts.rows.filter fun row => row.resultExpired now ∧ row.id ∉ locked).insertionSort expiryOrder).take
    (min batchLimit maxResultPurgeBatchLimit)

def readsAt (s : State) (call : Call) (row : X402AttemptRow) : CallEvent → Option Time
  | .findAttempt =>
    match call.phase with
    | .cleaned => some s.now
    | _ => none
  | .findRacedAttempt =>
    match call.phase with
    | .locked tx => if row.request_hash = call.requestHash then some tx.began else none
    | _ => none
  | _ => none

def scrubsAt (s : State) (attemptId : AttemptId) : Label → Option Time
  | .purgeExpiredX402Results locked batchLimit =>
    if (purgeBatch s.db s.now locked batchLimit).any fun row => row.id = attemptId then some s.now else none
  | .call id event =>
    (s.calls.find? id).bind fun call =>
      ((s.db.attemptFor call.auth.connection_id call.idempotencyKey).filter fun row => row.id = attemptId).bind
        fun row => readsAt s call row event
  | _ => none

inductive AttemptStep (s : State) (label : Label) (db' : Db) (t : X402AttemptRow) : X402AttemptRow → Prop where
  | kept : AttemptStep s label db' t t
  | scrubbed {now : Time} (scrubs : scrubsAt s t.id label = some now) : AttemptStep s label db' t (t.scrub now)
  | cancelled {errorCode : String} (reserved : t.status = .reserved) :
      AttemptStep s label db' t { t with status := .failed, error_code := some errorCode }
  | retryable {reason : String} (reserved : t.status = .reserved) : AttemptStep s label db' t (withResumeReason t reason)
  | submitted {id : CallId} {call : Call} {payment : PreparedPaidHttpPayment} (taken : label = .call id .markSubmitting)
      (found : s.calls.find? id = some call)
      (phase : call.phase = .preflighted payment ∧ payment.policyGate.approvalId = none ∨ call.phase = .approved payment)
      (names : payment.attempt.id = t.id) (reserved : t.status = .reserved) :
      AttemptStep s label db' t { t with status := .submitting }
  | evidenced {id : CallId} {call : Call} {payment : PreparedPaidHttpPayment} {settlement : RuntimeX402SettlementResult}
      (taken : label = .call id .persistEvidence) (found : s.calls.find? id = some call)
      (phase : call.phase = .answered payment settlement) (names : payment.attempt.id = t.id)
      (submitting : t.status = .submitting) : AttemptStep s label db' t (withEvidence t settlement s.now)
  | finalized {id : CallId} {call : Call} {payment : PreparedPaidHttpPayment} {settlement : RuntimeX402SettlementResult}
      {eventId : EventId} {result : RuntimeX402PaymentResult} {metadata : X402PaymentMetadata}
      {errorCode : Option String} (taken : label = .call id (.finalize eventId)) (found : s.calls.find? id = some call)
      (phase : call.phase = .evidenced payment settlement) (names : payment.attempt.id = t.id)
      (submitting : t.status = .submitting)
      (finalized : Finalized s.db s.now call.auth payment settlement eventId db' result) :
      AttemptStep s label db' t
        (finalAttempt t (recordedStatus settlement) metadata settlement result errorCode s.now)

theorem purge_find? {now : Time} {locked : List AttemptId} {batchLimit : Nat} {id : AttemptId}
    (passed : ∀ row ∈ purgeBatch db now locked batchLimit, row.id ≠ id) :
    (purgeExpiredX402Results db now locked batchLimit).attempts.find? id = db.attempts.find? id := by
  have fold (batch : List X402AttemptRow) : ∀ attempts : Table X402AttemptRow.id, (∀ row ∈ batch, row.id ≠ id) →
      (batch.foldl (fun attempts row => attempts.put (row.scrub now)) attempts).find? id = attempts.find? id := by
    induction batch with
    | nil => exact fun _ _ => rfl
    | cons row batch ih =>
      intro attempts others
      have apart : (row.scrub now).id ≠ id := by
        rw [scrub_id]
        exact others row (List.mem_cons_self ..)
      rw [List.foldl_cons, ih _ fun row' member => others row' (List.mem_cons_of_mem _ member)]
      exact Table.find?_put_ne apart
  exact fold _ _ passed

def answeredError (settlement : RuntimeX402SettlementResult) : Option String :=
  if recordedStatus settlement = .settled then none else some (terminalErrorCode settlement)

theorem Finalized.attempt {now : Time} {auth : ConnectionAuthResult} {payment : PreparedPaidHttpPayment}
    {settlement : RuntimeX402SettlementResult} {eventId : EventId} {result : RuntimeX402PaymentResult}
    (finalized : Finalized db now auth payment settlement eventId db' result) :
    ∃ row metadata errorCode, Scoped db auth payment.attempt.id .submitting row ∧
      db'.attempts = db.attempts.put
        (finalAttempt row (recordedStatus settlement) metadata settlement result errorCode now) ∧
      (metadata = finalMetadata eventId payment settlement ∨
        metadata = row.payment_metadata.merge (finalMetadata eventId payment settlement)) ∧
      errorCode = answeredError settlement := by
  cases finalized with
  | settled answered status inScope counted covers debited inserted =>
    rw [answeredError, recordedStatus_settled answered status]
    exact ⟨_, _, _, inScope, rfl, .inl rfl, rfl⟩
  | failed status inScope counted covers inserted =>
    rw [answeredError, recordedStatus_failed status]
    exact ⟨_, _, _, inScope, rfl, .inr rfl, rfl⟩
  | unknown status inScope inserted =>
    rw [answeredError, status]
    exact ⟨_, _, _, inScope, rfl, .inr rfl, rfl⟩

theorem OperatorWrite.attempt (write : OperatorWrite hashes s label db) (found : s.db.attempts.find? t.id = some t) :
    ∃ t', db.attempts.find? t.id = some t' ∧ AttemptStep s label db t t' := by
  cases write with
  | configured free configured => cases configured <;> exact ⟨t, found, .kept⟩
  | resolved free resolved =>
    obtain ⟨row, -, -, -, resolved⟩ := resolveUnknownAttempt_ok resolved
    cases resolved <;> exact ⟨t, found, .kept⟩
  | released free released =>
    obtain ⟨row, accounts, -, -, -, -, rfl⟩ := releaseOnProof_ok released
    exact ⟨t, found, .kept⟩
  | @purged locked batchLimit =>
    by_cases reached : (purgeBatch s.db s.now locked batchLimit).any fun row => row.id = t.id
    · obtain ⟨attempts, purged, scrubbed⟩ := purge_scrubbed s.db s.now locked batchLimit
      rw [purged]
      rcases scrubbed t.id with same | dropped
      · exact ⟨t, same.trans found, .kept⟩
      · rw [found] at dropped
        exact ⟨t.scrub s.now, dropped, .scrubbed (by rw [scrubsAt, if_pos reached])⟩
    · have passed : ∀ row ∈ purgeBatch s.db s.now locked batchLimit, row.id ≠ t.id := by simpa using reached
      exact ⟨t, (purge_find? passed).trans found, .kept⟩
  | jobFunded funded =>
    cases fundEscrowJob_ok funded with
    | funded => exact ⟨t, found, .kept⟩
  | jobMoved moved =>
    obtain ⟨reservations, rfl, -⟩ := moved.tables
    exact ⟨t, found, .kept⟩
  | unchanged | registry | jobCreated => exact ⟨t, found, .kept⟩

theorem find?_put_attempt {row row' : X402AttemptRow} {attempts : Table X402AttemptRow.id} (same : row'.id = row.id)
    (stored : attempts.find? row.id = some row) (found : attempts.find? t.id = some t) :
    (row = t ∧ (attempts.put row').find? t.id = some row') ∨ (attempts.put row').find? t.id = some t := by
  by_cases here : row'.id = t.id
  · have sameId : row.id = t.id := same.symm.trans here
    have isRow : row = t := by
      rw [sameId, found] at stored
      exact (Option.some.inj stored).symm
    subst isRow
    left
    refine ⟨rfl, ?_⟩
    rw [← same] at found ⊢
    exact Table.find?_put_self found
  · right
    rw [Table.find?_put_ne here]
    exact found

theorem CallStep.attempt {id : CallId} {event : CallEvent} {effect : Effect} (sound : Sound s)
    (located : s.calls.find? id = some call) (taken : CallStep hashes s call event effect)
    (found : s.db.attempts.find? t.id = some t) :
    ∃ t', effect.db.attempts.find? t.id = some t' ∧ AttemptStep s (.call id event) effect.db t t' := by
  have keptBy {db : Db} (same : db.attempts.find? t.id = some t) :
      ∃ t', db.attempts.find? t.id = some t' ∧ AttemptStep s (.call id event) db t t' := ⟨t, same, .kept⟩
  -- a statement that reads the attempt of a key
  have read {now : Time} {row : X402AttemptRow}
      (stored : s.db.attemptFor call.auth.connection_id call.idempotencyKey = some row)
      (reads : readsAt s call row event = some now) :
      ∃ t', (s.db.attempts.put (row.scrub now)).find? t.id = some t' ∧
        AttemptStep s (.call id event) { s.db with attempts := s.db.attempts.put (row.scrub now) } t t' := by
    have member := (attemptFor_eq_some stored).1
    rcases find?_put_attempt (scrub_id row now) (Table.find?_of_mem member) found with ⟨rfl, scrubbed⟩ | same
    · refine ⟨_, scrubbed, .scrubbed ?_⟩
      rw [scrubsAt, located, Option.bind_some, stored, Option.filter_some, if_pos (by simp), Option.bind_some]
      exact reads
    · exact ⟨t, same, .kept⟩
  cases taken with
  | commitStranded phase free cancelled =>
    rcases cancelCandidates_attempt cancelled found with same | ⟨candidate, -, -, reserved, failed⟩
    · exact keptBy same
    · exact ⟨_, failed, .cancelled reserved⟩
  | findAttempt phase answer =>
    rcases findAttempt_some answer with ⟨-, rfl, -⟩ | ⟨row, stored, -, rfl⟩
    · exact keptBy found
    · exact read stored (by simp [readsAt, phase])
  | raced phase answer same =>
    rcases findAttempt_some answer with ⟨missing, -⟩ | ⟨row, stored, isRow, rfl⟩
    · cases missing
    · have requested : row.request_hash = call.requestHash := by
        rw [Option.some.inj isRow, (scrub_revises row _).same] at same
        exact same
      exact read stored (by simp [readsAt, phase, requested])
  | commitPrepare phase written goes =>
    obtain ⟨attempts, reservations, accounts, inserted, -, -, rfl⟩ := (sound.prepared located phase written).tables
    exact keptBy (Table.find?_insert?_of_find? inserted found)
  | @markRetryable payment failure phase =>
    rcases markRetryable_cases s.db call.auth payment.attempt.id (preflightReason failure) with same | ⟨row, inScope, same⟩
    · simp only [same]
      exact keptBy found
    · simp only [same]
      have sameId : (withResumeReason row (preflightReason failure)).id = row.id := rfl
      rcases find?_put_attempt sameId inScope.located found with ⟨rfl, written⟩ | other
      · exact ⟨_, written, .retryable inScope.status⟩
      · exact ⟨t, other, .kept⟩
  | markSubmitting phase marked =>
    obtain ⟨row, inScope, rfl⟩ := markSubmitting_ok marked
    have sameId : X402AttemptRow.id { row with status := .submitting } = row.id := rfl
    rcases find?_put_attempt sameId inScope.located found with ⟨rfl, written⟩ | other
    · exact ⟨_, written, .submitted rfl located phase (Table.key_of_find? inScope.found).symm inScope.status⟩
    · exact keptBy other
  | @persistEvidence payment settlement db phase persisted =>
    obtain ⟨row, inScope, rfl⟩ := persistEvidence_ok persisted
    have sameId : (withEvidence row settlement s.now).id = row.id := rfl
    rcases find?_put_attempt sameId inScope.located found with ⟨rfl, written⟩ | other
    · exact ⟨_, written, .evidenced rfl located phase (Table.key_of_find? inScope.found).symm inScope.status⟩
    · exact keptBy other
  | @finalize payment settlement eventId db result phase free finalized =>
    have written := finalizePaidHttpPayment_ok finalized
    obtain ⟨row, metadata, errorCode, inScope, attempts, -⟩ := written.attempt
    have sameId : (finalAttempt row (recordedStatus settlement) metadata settlement result errorCode s.now).id = row.id := rfl
    have names := (Table.key_of_find? inScope.found).symm
    simp only [attempts]
    rcases find?_put_attempt sameId inScope.located found with ⟨rfl, stored⟩ | other
    · exact ⟨_, stored, .finalized rfl located phase names inScope.status written⟩
    · exact ⟨t, other, .kept⟩
  | ends | selectStranded | discover | snapshotAccount | lockAccount | fresh | selectQuote | selectSource | permitted
  | approvalRequested | checkLimits | readReservation | readSource | readApproval | readEvidence | preflighted | unready
  | consumeApproval | consumed | simulateSettlement | callProvider | answer => exact keptBy found

theorem Step.attempt (taken : Step hashes s label s') (sound : Sound s) (found : s.db.attempts.find? t.id = some t) :
    ∃ t', s'.db.attempts.find? t.id = some t' ∧ AttemptStep s label s'.db t t' := by
  cases taken with
  | approvals | opened => exact ⟨t, found, .kept⟩
  | operator write => exact write.attempt found
  | called located taken => exact taken.attempt sound located found

end AgentOps.Payments
