import AgentOps.Payments.Agreement
import AgentOps.Payments.Requotes

namespace AgentOps.Payments
open Lib Identity

variable {hashes : Hashes} {db db' : Db} {s s' : State} {call call' : Call} {label : Label} {t t' : X402AttemptRow}
  {settlement : RuntimeX402SettlementResult} {connectionId : ConnectionId} {key : String} {now : Time}

/-! # An attempt reads as the answer that it retains -/

def RuntimeX402PaymentResult.purged (result : RuntimeX402PaymentResult) : RuntimeX402PaymentResult :=
  ⟨{ result.payment with responseAvailable := false }, none⟩

/-! ## Evidence and its attempt -/

def RuntimeX402SettlementResult.names (settlement : RuntimeX402SettlementResult) (network : String) : Bool :=
  settlement.payment.all fun payment => payment.network = network

structure Reflects (t : X402AttemptRow) (settlement : RuntimeX402SettlementResult) : Prop where
  payer : t.payment_metadata.payer = settlement.payment.bind ProviderPayment.payer
  transaction : t.payment_metadata.transactionHash = settlement.payment.bind ProviderPayment.transaction

structure Blank (t : X402AttemptRow) : Prop where
  retained : t.retained = none
  payer : t.payment_metadata.payer = none
  transaction : t.payment_metadata.transactionHash = none

theorem scrub_metadata (t : X402AttemptRow) (now : Time) : (t.scrub now).payment_metadata = t.payment_metadata := by
  unfold X402AttemptRow.scrub
  split <;> rfl

theorem scrub_network (t : X402AttemptRow) (now : Time) : (t.scrub now).network = t.network := by
  rw [(scrub_revises t now).same]

theorem scrub_cases (t : X402AttemptRow) (now : Time) : (t.scrub now).retained = none ∨ t.scrub now = t := by
  unfold X402AttemptRow.scrub
  split
  · exact .inl rfl
  · exact .inr rfl

theorem Reflects.scrub (reflects : Reflects t settlement) (now : Time) : Reflects (t.scrub now) settlement := by
  constructor <;> rw [scrub_metadata]
  · exact reflects.payer
  · exact reflects.transaction

theorem Blank.scrub (blank : Blank t) (now : Time) : Blank (t.scrub now) := by
  constructor
  · rcases scrub_cases t now with dropped | same
    · exact dropped
    · rw [same]
      exact blank.retained
  · rw [scrub_metadata]
    exact blank.payer
  · rw [scrub_metadata]
    exact blank.transaction

theorem Blank.evidence (blank : Blank t) (settlement : RuntimeX402SettlementResult) (now : Time) :
    Reflects (withEvidence t settlement now) settlement := by
  constructor
  · simp [withEvidence, X402PaymentMetadata.merge, blank.payer]
  · simp [withEvidence, X402PaymentMetadata.merge, blank.transaction]

/-! ## The answer and the attempt -/

section Echo

variable {auth : ConnectionAuthResult} {payment : PreparedPaidHttpPayment} {eventId : EventId}
  {metadata : X402PaymentMetadata}

theorem Reflects.final (reflects : Reflects t settlement)
    (written : metadata = finalMetadata eventId payment settlement ∨
      metadata = t.payment_metadata.merge (finalMetadata eventId payment settlement)) :
    metadata.eventId = some eventId ∧ metadata.providerMode = some settlement.providerMode ∧
      metadata.reservationId = some payment.reservationId ∧
      metadata.payer = settlement.payment.bind ProviderPayment.payer ∧
      metadata.transactionHash = settlement.payment.bind ProviderPayment.transaction := by
  rcases written with rfl | rfl
  · exact ⟨rfl, rfl, rfl, rfl, rfl⟩
  · refine ⟨rfl, rfl, rfl, ?_, ?_⟩
    · simp [X402PaymentMetadata.merge, finalMetadata, reflects.payer]
    · simp [X402PaymentMetadata.merge, finalMetadata, reflects.transaction]

theorem answeredNetwork_iff (network : t.network = payment.quote.x402Network) :
    t.network = answeredNetwork payment settlement ↔ settlement.names t.network = true := by
  unfold answeredNetwork RuntimeX402SettlementResult.names
  cases settlement.payment with
  | none => simp [network]
  | some answer => simp [eq_comm]

theorem final_reads_iff (ok : PaymentOk db call payment 1) (terms : OnTerms payment)
    (stored : db.attempts.find? payment.attempt.id = some t) (reflects : Reflects t settlement)
    (written : metadata = finalMetadata eventId payment settlement ∨
      metadata = t.payment_metadata.merge (finalMetadata eventId payment settlement)) (now : Time) :
    let result := resultOf eventId call.auth payment settlement (answeredNetwork payment settlement)
      (answeredError settlement)
    paymentResultFromAttempt (finalAttempt t (recordedStatus settlement) metadata settlement result
      (answeredError settlement) now) = result.purged ↔ settlement.names t.network = true := by
  obtain ⟨row, found, same, -⟩ := ok.attempt.stored
  obtain rfl : t = row := Option.some.inj (stored.symm.trans found)
  obtain ⟨event, mode, reservation, payer, transaction⟩ := reflects.final written
  have agreed := terms.terms.revise same
  have chain : payment.quote.rail.chain = payment.quote.chain := quoteFromAccept_rail ok.quote
  have attempt : t.id = payment.attempt.id := Table.key_of_find? stored
  have amount : t.amount_usdc = payment.quote.amountMicros := by
    rw [same]
    exact ok.amount
  have agent : t.agent_id = call.auth.agent_id := by
    rw [same]
    exact ok.attempt.agent
  have connection : t.connection_id = call.auth.connection_id := by
    rw [same]
    exact ok.attempt.connection
  have source : t.source_id = payment.source.id := by
    rw [same]
    exact terms.source
  rw [← answeredNetwork_iff agreed.network]
  simp [paymentResultFromAttempt, finalAttempt, resultOf, RuntimeX402PaymentResult.purged, event, mode, reservation, payer,
    transaction, agreed.rail, agreed.recipient, chain, attempt, amount, agent, connection, source]

end Echo

/-! ## Calls that go on from a submission -/

inductive Submission where
  | pending
  | evidence (settlement : RuntimeX402SettlementResult)

def Phase.submission : Phase → Option Submission
  | .submitted _ | .settling _ | .answered _ _ => some .pending
  | .resuming _ (some settlement) | .resumingSource _ (some settlement) _ | .resumingApproval _ (some settlement) _ _
  | .evidenced _ settlement => some (.evidence settlement)
  | _ => none

theorem submission_of_ended {phase : Phase} (ended : phase.ended = true) : phase.submission = none := by
  cases phase <;> first | rfl | cases ended

theorem AttemptOk.reached {attempt : X402AttemptRow} {stage : Nat} (ok : AttemptOk db call attempt stage)
    (linked : Linked db) : ∃ t, db.attemptFor call.auth.connection_id call.idempotencyKey = some t ∧
      db.attempts.find? attempt.id = some t ∧ SameAttempt attempt t ∧ stage ≤ t.status.stage := by
  obtain ⟨t, found, keyed, -⟩ := ok.attemptFor linked
  obtain ⟨t', found', same, reached⟩ := ok.stored
  obtain rfl : t = t' := Option.some.inj (found.symm.trans found')
  exact ⟨t, keyed, found, same, reached⟩

theorem Sound.submitted_of_submission (sound : Sound s) (member : call ∈ s.calls) {submission : Submission}
    (stands : call.phase.submission = some submission) :
    ∃ t, s.db.attemptFor call.auth.connection_id call.idempotencyKey = some t ∧ t.status ≠ .reserved := by
  have reached {attempt : X402AttemptRow} (ok : AttemptOk s.db call attempt 1) :
      ∃ t, s.db.attemptFor call.auth.connection_id call.idempotencyKey = some t ∧ t.status ≠ .reserved := by
    obtain ⟨t, keyed, -, -, later⟩ := ok.reached sound.linked
    refine ⟨t, keyed, fun reserved => ?_⟩
    rw [reserved] at later
    cases later
  have known := (sound.calls call member).phase
  cases phase : call.phase <;> rw [phase] at known stands
  case resuming attempt evidence | resumingSource attempt evidence reservation
      | resumingApproval attempt evidence reservation source =>
    cases evidence with
    | none => cases stands
    | some settlement => first | exact reached known | exact reached known.1
  case submitted | settling | answered | evidenced => exact reached (PaymentOk.attempt known)
  all_goals cases stands

theorem afterFind_resuming {row attempt : X402AttemptRow} (resumes : afterFind call (some row) = .resuming attempt
    (some settlement)) : row.retained.map Retained.content = some (.evidence settlement) := by
  simp only [afterFind] at resumes
  split at resumes
  · cases resumes
  split at resumes
  · cases resumes
  split at resumes
  · cases resumes
  · rename_i retained
    split at resumes
    · obtain ⟨-, same⟩ := Phase.resuming.inj resumes
      rw [← Option.some.inj same]
      exact retained
    · split at resumes <;> cases resumes
  · split at resumes <;> cases resumes

inductive Submits (s : State) (call : Call) (effect : Effect) : Submission → Prop where
  | kept {submission : Submission} (stood : call.phase.submission = some submission) (same : effect.db = s.db) :
      Submits s call effect submission
  | marked {payment : PreparedPaidHttpPayment} (phase : call.phase = .preflighted payment ∨ call.phase = .approved payment)
      (marked : markSubmitting s.db call.auth payment.attempt.id = .ok effect.db) : Submits s call effect .pending
  | found {row : X402AttemptRow} {settlement : RuntimeX402SettlementResult}
      (stored : s.db.attemptFor call.auth.connection_id call.idempotencyKey = some row)
      (retained : (row.scrub s.now).retained.map Retained.content = some (.evidence settlement))
      (scrubbed : effect.db = { s.db with attempts := s.db.attempts.put (row.scrub s.now) }) :
      Submits s call effect (.evidence settlement)
  | persisted {payment : PreparedPaidHttpPayment} {settlement : RuntimeX402SettlementResult}
      (phase : call.phase = .answered payment settlement)
      (persisted : persistPaidHttpProviderEvidence s.db s.now call.auth payment.attempt.id settlement = .ok effect.db) :
      Submits s call effect (.evidence settlement)

theorem CallStep.submits {event : CallEvent} {effect : Effect} {submission : Submission}
    (taken : CallStep hashes s call event effect) (stands : effect.phase.submission = some submission) :
    Submits s call effect submission := by
  cases taken with
  | ends ended =>
    rw [State.move, submission_of_ended ended] at stands
    cases stands
  | @findAttempt db found phase read =>
    rcases findAttempt_some read with ⟨rfl, rfl, -⟩ | ⟨row, stored, rfl, rfl⟩
    · cases stands
    · rcases afterFind_cases call (row.scrub s.now) with ended | ⟨evidence, next, -⟩
      · simp only [submission_of_ended ended] at stands
        cases stands
      · cases evidence with
        | none =>
          simp only [next] at stands
          cases stands
        | some settlement =>
          simp only [next] at stands
          obtain rfl := Option.some.inj stands
          exact .found stored (afterFind_resuming next) rfl
  | commitPrepare phase written goes =>
    rcases goes with ⟨-, rfl⟩ | ended
    · cases stands
    · simp only [submission_of_ended ended] at stands
      cases stands
  | @readReservation attempt evidence reservation phase located =>
    cases evidence with
    | none => cases stands
    | some settlement => exact .kept (by rw [phase]; exact stands) rfl
  | @readSource attempt evidence reservation source phase located =>
    cases evidence with
    | none => cases stands
    | some settlement => exact .kept (by rw [phase]; exact stands) rfl
  | readEvidence phase resumed | simulateSettlement phase | callProvider phase | answer phase =>
    exact .kept (by rw [phase]; exact stands) rfl
  | markSubmitting phase marked =>
    obtain rfl := Option.some.inj stands
    exact .marked (phase.imp_left And.left) marked
  | persistEvidence phase persisted =>
    obtain rfl := Option.some.inj stands
    exact .persisted phase persisted
  | selectStranded | commitStranded | discover | snapshotAccount | lockAccount | fresh | raced | selectQuote
  | selectSource | permitted | approvalRequested | checkLimits | readApproval | preflighted | unready | markRetryable
  | consumeApproval | consumed | finalize => cases stands

/-! ## The attempt of a key -/

def Knows (t : X402AttemptRow) : Submission → Prop
  | .pending => Blank t
  | .evidence settlement => Reflects t settlement ∧ settlement.names t.network = true

theorem Knows.scrub {submission : Submission} (knows : Knows t submission) (now : Time) :
    Knows (t.scrub now) submission := by
  cases submission with
  | pending => exact Blank.scrub knows now
  | evidence settlement =>
    refine ⟨knows.1.scrub now, ?_⟩
    rw [scrub_network]
    exact knows.2

structure Faithful (t : X402AttemptRow) : Prop where
  reserved : t.status = .reserved → Blank t
  evidence : ∀ settlement, t.retained.map Retained.content = some (.evidence settlement) →
    t.status = .submitting ∧ Knows t (.evidence settlement)
  result : ∀ evidence result, t.retained.map Retained.content = some (.result evidence result) →
    t.status.stage = 2 ∧ paymentResultFromAttempt t = result.purged

theorem paymentResultFromAttempt_scrub (t : X402AttemptRow) (now : Time) :
    paymentResultFromAttempt (t.scrub now) = paymentResultFromAttempt t := by
  unfold X402AttemptRow.scrub
  split <;> rfl

theorem Faithful.scrub (faithful : Faithful t) (now : Time) : Faithful (t.scrub now) := by
  have retained {content : StoredResult} (kept : (t.scrub now).retained.map Retained.content = some content) :
      t.retained.map Retained.content = some content := by
    rcases scrub_cases t now with dropped | same
    · rw [dropped] at kept
      cases kept
    · rw [same] at kept
      exact kept
  constructor
  · intro reserved
    rw [scrub_status] at reserved
    exact (faithful.reserved reserved).scrub now
  · intro settlement kept
    obtain ⟨submitting, knows⟩ := faithful.evidence settlement (retained kept)
    exact ⟨by rw [scrub_status]; exact submitting, knows.scrub now⟩
  · intro evidence result kept
    rw [scrub_status, paymentResultFromAttempt_scrub]
    exact faithful.result evidence result (retained kept)

theorem Faithful.of_nothing (retained : t.retained = none) (reserved : t.status = .reserved → Blank t) : Faithful t := by
  refine ⟨reserved, ?_, ?_⟩ <;> simp [retained]

def PhaseNames : Phase → Prop
  | .answered payment settlement => settlement.names payment.attempt.network = true
  | _ => True

structure Replayable (connectionId : ConnectionId) (key : String) (s : State) : Prop where
  attempt : ∀ t, s.db.attemptFor connectionId key = some t → Faithful t
  names : ∀ call ∈ s.calls, call.uses connectionId key = true → PhaseNames call.phase
  knows : ∀ call ∈ s.calls, call.uses connectionId key = true → ∀ submission, call.phase.submission = some submission →
    ∀ t, s.db.attemptFor connectionId key = some t → t.status = .submitting → Knows t submission
  alone : ∀ call ∈ s.calls, ∀ call' ∈ s.calls, call.uses connectionId key = true → call'.uses connectionId key = true →
    call.phase.submission = some .pending → call'.phase.submission ≠ none → call' = call

theorem Call.uses_iff : call.uses connectionId key = true ↔
    call.auth.connection_id = connectionId ∧ call.idempotencyKey = key := by
  simp [Call.uses]

theorem AttemptOk.uses {attempt : X402AttemptRow} {stage : Nat} (ok : AttemptOk db call attempt stage)
    (linked : Linked db) (found : db.attempts.find? attempt.id = some t)
    (keyed : db.attemptFor connectionId key = some t) : call.uses connectionId key = true := by
  obtain ⟨t', keyed', found', -⟩ := ok.reached linked
  obtain rfl : t = t' := Option.some.inj (found.symm.trans found')
  obtain ⟨-, connection, named⟩ := attemptFor_eq_some keyed
  obtain ⟨-, connection', named'⟩ := attemptFor_eq_some keyed'
  exact Call.uses_iff.mpr ⟨connection'.symm.trans connection, named'.symm.trans named⟩

theorem Step.attemptFor_origin (taken : Step hashes s label s') (sound : Sound s)
    (keyed : s'.db.attemptFor connectionId key = some t') :
    (∃ id input gate mode reservationId, t' = preparedAttempt id input gate mode reservationId) ∨
      ∃ t, s.db.attemptFor connectionId key = some t ∧ AttemptStep s label s'.db t t' := by
  obtain ⟨member, connection, named⟩ := attemptFor_eq_some keyed
  refine (taken.attempt_origin sound member).imp_right ?_
  rintro ⟨t, stored, moved⟩
  rw [moved.revises.same] at connection named
  exact ⟨t, sound.linked.attemptFor stored connection named, moved⟩

/-! ## What a step does to the attempt of a key -/

theorem Replayable.finalized {id : CallId} {eventId : EventId} (replayable : Replayable connectionId key s)
    (sound : Sound s) (kept : TermsKept s) (taken : Step hashes s (.call id (.finalize eventId)) s')
    (keyed : s'.db.attemptFor connectionId key = some t') : Faithful t' := by
  rcases taken.finalize_cases with same | ⟨call, payment, settlement, result, found, phase, finalized⟩
  · unfold Db.attemptFor at keyed
    rw [same] at keyed
    exact replayable.attempt t' keyed
  · obtain ⟨member, connection, named⟩ := attemptFor_eq_some keyed
    obtain ⟨row, metadata, errorCode, inScope, attempts, written, rfl⟩ := (finalizePaidHttpPayment_ok finalized).attempt
    rw [attempts] at member
    rcases Table.mem_put.mp member with ⟨member, -⟩ | ⟨rfl, -⟩
    · exact replayable.attempt t' (sound.linked.attemptFor member connection named)
    · have stored := Table.mem_of_find? inScope.found
      have keyed := sound.linked.attemptFor stored connection named
      have ok : PaymentOk s.db call payment 1 := sound.known found phase
      have terms : OnTerms payment := by
        have terms := kept.calls call (Table.mem_of_find? found)
        rw [phase] at terms
        exact terms
      obtain ⟨reflects, names⟩ := replayable.knows call (Table.mem_of_find? found)
        (ok.attempt.uses sound.linked inScope.found keyed) (.evidence settlement) (by rw [phase]; rfl) row keyed
        inScope.status
      have reads := (final_reads_iff ok terms inScope.found reflects written s.now).mpr names
      rw [← finalizePaidHttpPayment_result finalized] at reads
      have final := recordedStatus_stage settlement
      constructor
      · intro reserved
        rw [show recordedStatus settlement = .reserved from reserved] at final
        cases final
      · intro evidence retained
        cases retained
      · intro evidence result' retained
        cases retained
        exact ⟨final, reads⟩

theorem Replayable.attempt_step (replayable : Replayable connectionId key s) (sound : Sound s) (kept : TermsKept s)
    (taken : Step hashes s label s') (keyed : s'.db.attemptFor connectionId key = some t') : Faithful t' := by
  by_cases finalizes : ∃ id eventId, label = .call id (.finalize eventId)
  · obtain ⟨id, eventId, rfl⟩ := finalizes
    exact replayable.finalized sound kept taken keyed
  rcases taken.attemptFor_origin sound keyed with ⟨id, input, gate, mode, reservationId, rfl⟩ | ⟨t, before, moved⟩
  · exact .of_nothing rfl fun _ => ⟨rfl, rfl, rfl⟩
  have faithful := replayable.attempt t before
  cases moved with
  | kept => exact faithful
  | scrubbed => exact faithful.scrub _
  | cancelled reserved => exact .of_nothing (faithful.reserved reserved).retained fun again => by cases again
  | retryable reserved =>
    have blank := faithful.reserved reserved
    exact .of_nothing blank.retained fun _ => ⟨blank.retained, by simp [withResumeReason, X402PaymentMetadata.merge,
      X402PaymentMetadata.empty, blank.payer], by simp [withResumeReason, X402PaymentMetadata.merge,
      X402PaymentMetadata.empty, blank.transaction]⟩
  | submitted _ _ _ _ reserved => exact .of_nothing (faithful.reserved reserved).retained fun again => by cases again
  | @evidenced id call payment settlement _ found phase names submitting =>
    have ok : PaymentOk s.db call payment 1 := sound.known found phase
    have stored := Table.find?_of_mem (attemptFor_eq_some before).1
    rw [← names] at stored
    have member := Table.mem_of_find? found
    have uses := ok.attempt.uses sound.linked stored before
    have blank : Blank t := replayable.knows call member uses .pending (by rw [phase]; rfl) t before submitting
    have named := replayable.names call member uses
    rw [phase] at named
    obtain ⟨row, found', same, -⟩ := ok.attempt.stored
    obtain rfl : t = row := Option.some.inj (stored.symm.trans found')
    constructor
    · intro reserved
      rw [show t.status = .reserved from reserved] at submitting
      cases submitting
    · intro settlement' retained
      cases retained
      refine ⟨submitting, blank.evidence settlement s.now, ?_⟩
      show settlement.names t.network = true
      rw [same]
      exact named
    · intro evidence result retained
      cases retained
  | finalized label => exact (finalizes ⟨_, _, label⟩).elim

/-! ## What a step does to the calls of a key -/

theorem OperatorWrite.scrubs (write : OperatorWrite hashes s label db) :
    Scrubbed s.now s.db.attempts db.attempts := by
  cases write with
  | configured free configured => cases configured <;> exact .refl _ _
  | resolved free resolved =>
    obtain ⟨row, -, -, -, resolved⟩ := resolveUnknownAttempt_ok resolved
    cases resolved <;> exact .refl _ _
  | released free released =>
    obtain ⟨row, accounts, -, -, -, -, rfl⟩ := releaseOnProof_ok released
    exact .refl _ _
  | @purged locked batchLimit =>
    obtain ⟨attempts, purged, scrubbed⟩ := purge_scrubbed s.db s.now locked batchLimit
    rw [purged]
    exact scrubbed
  | jobFunded funded =>
    cases fundEscrowJob_ok funded with
    | funded => exact .refl _ _
  | jobMoved moved =>
    obtain ⟨reservations, rfl, -⟩ := moved.tables
    exact .refl _ _
  | unchanged | registry | jobCreated => exact .refl _ _

theorem Scrubbed.attemptFor (scrubbed : Scrubbed now db.attempts db'.attempts) (linked : Linked db)
    (keyed : db'.attemptFor connectionId key = some t') :
    ∃ t, db.attemptFor connectionId key = some t ∧ (t' = t ∨ t' = t.scrub now) := by
  obtain ⟨member, connection, named⟩ := attemptFor_eq_some keyed
  have stored := Table.find?_of_mem member
  obtain ⟨t, found, revises⟩ := scrubbed.revised.source stored
  rw [revises.same] at connection named
  refine ⟨t, linked.attemptFor (Table.mem_of_find? found) connection named, ?_⟩
  rcases scrubbed t'.id with same | dropped
  · exact .inl (Option.some.inj (stored.symm.trans (same.trans found)))
  · rw [found] at dropped
    exact .inr (Option.some.inj (stored.symm.trans dropped))

theorem attemptFor_revised (linked : Linked db') (keyed : db.attemptFor connectionId key = some t)
    (stored : db'.attempts.find? t.id = some t') (same : SameAttempt t t') :
    db'.attemptFor connectionId key = some t' := by
  obtain ⟨-, connection, named⟩ := attemptFor_eq_some keyed
  refine linked.attemptFor (Table.mem_of_find? stored) ?_ ?_
  · rw [same]
    exact connection
  · rw [same]
    exact named

section Calls

variable {id : CallId} {event : CallEvent} {effect : Effect} {submission : Submission}

theorem Replayable.knows_other (replayable : Replayable connectionId key s) (sound : Sound s)
    (found : s.calls.find? id = some call) (taken : CallStep hashes s call event effect) (member : call' ∈ s.calls)
    (uses : call'.uses connectionId key = true) (apart : call'.id ≠ call.id)
    (stands : call'.phase.submission = some submission)
    (keyed : effect.db.attemptFor connectionId key = some t') (submitting : t'.status = .submitting) :
    Knows t' submission := by
  have before := replayable.knows call' member uses submission stands
  have unreserved (t : X402AttemptRow) (stored : s.db.attemptFor connectionId key = some t) : t.status ≠ .reserved := by
    obtain ⟨t₀, stored₀, status⟩ := sound.submitted_of_submission member stands
    obtain ⟨connection, named⟩ := Call.uses_iff.mp uses
    rw [connection, named, stored] at stored₀
    rw [Option.some.inj stored₀]
    exact status
  rcases (Step.called found taken).attemptFor_origin sound keyed with ⟨_, _, _, _, _, rfl⟩ | ⟨t, keyed₀, moved⟩
  · cases submitting
  cases moved with
  | kept => exact before _ keyed₀ submitting
  | scrubbed =>
    rw [scrub_status] at submitting
    exact (before t keyed₀ submitting).scrub _
  | cancelled reserved | retryable reserved | submitted _ _ _ _ reserved => exact (unreserved t keyed₀ reserved).elim
  | @evidenced id' call₀ payment settlement label located phase names submitting =>
    obtain ⟨rfl, -⟩ := Label.call.inj label
    obtain rfl : call = call₀ := Option.some.inj (found.symm.trans located)
    have ok : PaymentOk s.db call payment 1 := sound.known found phase
    have stored := Table.find?_of_mem (attemptFor_eq_some keyed₀).1
    rw [← names] at stored
    have same := replayable.alone call (Table.mem_of_find? found) call' member (ok.attempt.uses sound.linked stored keyed₀)
      uses (by rw [phase]; rfl) (by simp [stands])
    exact (apart (by rw [same])).elim
  | @finalized id' call₀ payment settlement =>
    have final := recordedStatus_stage settlement
    rw [show recordedStatus settlement = .submitting from submitting] at final
    cases final

theorem Replayable.knows_own (replayable : Replayable connectionId key s) (sound : Sound s) (linked : Linked effect.db)
    (found : s.calls.find? id = some call) (taken : CallStep hashes s call event effect)
    (uses : call.uses connectionId key = true) (stands : effect.phase.submission = some submission)
    (keyed : effect.db.attemptFor connectionId key = some t') (submitting : t'.status = .submitting) :
    Knows t' submission := by
  have member := Table.mem_of_find? found
  obtain ⟨connection, named⟩ := Call.uses_iff.mp uses
  -- what the statement has written for the attempt of the key
  have isRow {t row : X402AttemptRow} (stored : s.db.attemptFor connectionId key = some t) (same : SameAttempt t row)
      (written : effect.db.attempts.find? t.id = some row) : t' = row :=
    Option.some.inj (keyed.symm.trans (attemptFor_revised linked stored written same))
  have payment {payment : PreparedPaidHttpPayment} {stage : Nat} {row : X402AttemptRow}
      (ok : PaymentOk s.db call payment stage) (located : s.db.attempts.find? payment.attempt.id = some row) :
      s.db.attemptFor connectionId key = some row ∧ SameAttempt payment.attempt row := by
    obtain ⟨t, stored, located', same, -⟩ := ok.attempt.reached sound.linked
    rw [connection, named] at stored
    obtain rfl : row = t := Option.some.inj (located.symm.trans located')
    exact ⟨stored, same⟩
  cases taken.submits stands with
  | kept stood same =>
    rw [same] at keyed
    exact replayable.knows call member uses submission stood t' keyed submitting
  | @marked payment' phase marked =>
    have ok : PaymentOk s.db call payment' 0 := by
      rcases phase with phase | phase <;> exact sound.known found phase
    obtain ⟨row, inScope, written⟩ := markSubmitting_ok marked
    obtain ⟨stored, -⟩ := payment ok inScope.found
    have blank := (replayable.attempt row stored).reserved inScope.status
    obtain rfl : t' = { row with status := .submitting } := isRow stored rfl (by
      rw [written]
      exact Table.find?_put_self (r := { row with status := X402AttemptStatus.submitting }) inScope.located)
    exact ⟨blank.retained, blank.payer, blank.transaction⟩
  | @found row settlement stored retained scrubbed =>
    rw [connection, named] at stored
    have located := Table.find?_of_mem (attemptFor_eq_some stored).1
    obtain rfl : t' = row.scrub s.now := isRow stored (scrub_revises row s.now).same (by
      rw [scrubbed, ← scrub_id row s.now]
      exact Table.find?_put_self (by rw [scrub_id]; exact located))
    exact (((replayable.attempt row stored).scrub s.now).evidence settlement retained).2
  | @persisted payment' settlement phase persisted =>
    have ok : PaymentOk s.db call payment' 1 := sound.known found phase
    obtain ⟨row, inScope, written⟩ := persistEvidence_ok persisted
    obtain ⟨stored, same⟩ := payment ok inScope.found
    have blank : Blank row := replayable.knows call member uses .pending (by rw [phase]; rfl) row stored inScope.status
    have names := replayable.names call member uses
    rw [phase] at names
    obtain rfl : t' = withEvidence row settlement s.now := isRow stored rfl (by
      rw [written]
      exact Table.find?_put_self (r := withEvidence row settlement s.now) inScope.located)
    refine ⟨blank.evidence settlement s.now, ?_⟩
    show settlement.names row.network = true
    rw [same]
    exact names

theorem Replayable.alone_called (replayable : Replayable connectionId key s) (sound : Sound s)
    (found : s.calls.find? id = some call) (taken : CallStep hashes s call event effect) (member : call' ∈ s.calls)
    (uses : call.uses connectionId key = true) (uses' : call'.uses connectionId key = true) (apart : call'.id ≠ call.id)
    (stands : effect.phase.submission = some submission) (stands' : call'.phase.submission ≠ none) :
    submission ≠ .pending ∧ call'.phase.submission ≠ some .pending := by
  have member₀ := Table.mem_of_find? found
  obtain ⟨connection, named⟩ := Call.uses_iff.mp uses
  have alone (pending : call.phase.submission = some .pending) : False :=
    apart (congrArg Call.id (replayable.alone call member₀ call' member uses uses' pending stands'))
  cases taken.submits stands with
  | kept stood same =>
    constructor
    · rintro rfl
      exact alone stood
    · intro pending
      exact apart (congrArg Call.id (replayable.alone call' member call member₀ uses' uses pending (by simp [stood]))).symm
  | @marked payment phase marked =>
    have ok : PaymentOk s.db call payment 0 := by
      rcases phase with phase | phase <;> exact sound.known found phase
    obtain ⟨row, inScope, -⟩ := markSubmitting_ok marked
    obtain ⟨t, stored, located, -⟩ := ok.attempt.reached sound.linked
    obtain rfl : row = t := Option.some.inj (inScope.found.symm.trans located)
    obtain ⟨submission', stood⟩ := Option.ne_none_iff_exists'.mp stands'
    obtain ⟨t, stored', unreserved⟩ := sound.submitted_of_submission member stood
    obtain ⟨connection', named'⟩ := Call.uses_iff.mp uses'
    rw [connection, named] at stored
    rw [connection', named', stored] at stored'
    obtain rfl := Option.some.inj stored'
    exact (unreserved inScope.status).elim
  | @found row settlement stored retained =>
    refine ⟨nofun, fun pending => ?_⟩
    rw [connection, named] at stored
    obtain ⟨submitting, -⟩ := ((replayable.attempt row stored).scrub s.now).evidence settlement retained
    rw [scrub_status] at submitting
    have blank : Blank row := replayable.knows call' member uses' .pending pending row stored submitting
    rw [(blank.scrub s.now).retained] at retained
    cases retained
  | persisted phase => exact (alone (by rw [phase]; rfl)).elim

end Calls

theorem simulated_names {quote : RuntimeQuote} {network : String} (same : network = quote.x402Network) :
    (simulatedSettlement quote).names network = true := by
  simp [RuntimeX402SettlementResult.names, simulatedSettlement, same]

theorem refused_names {mode : PaymentMode} {quote : RuntimeQuote} {error : ProviderError} {network : String}
    (same : network = quote.x402Network) : (settlementOfError mode quote error).names network = true := by
  simp [RuntimeX402SettlementResult.names, settlementOfError, same]

def answersNetwork (connectionId : ConnectionId) (key : String) (s : State) : Label → Bool
  | .call id (.answer (.ok settlement)) =>
    (s.calls.find? id).all fun call =>
      match call.phase with
      | .settling payment => !call.uses connectionId key || settlement.names payment.attempt.network
      | _ => true
  | _ => true

theorem PhaseNames.of_ended {phase : Phase} (ended : phase.ended = true) : PhaseNames phase := by
  cases phase <;> trivial

theorem CallStep.names {id : CallId} {event : CallEvent} {effect : Effect} (found : s.calls.find? id = some call)
    (taken : CallStep hashes s call event effect) (uses : call.uses connectionId key = true)
    (terms : PhaseOnTerms call.phase) (named : answersNetwork connectionId key s (.call id event) = true) :
    PhaseNames effect.phase := by
  cases taken with
  | ends ended => exact .of_ended ended
  | @findAttempt db found phase read =>
    cases found with
    | none => trivial
    | some row =>
      rcases afterFind_cases call row with ended | ⟨evidence, next, -⟩
      · exact .of_ended ended
      · simp only [next]
        trivial
  | commitPrepare phase written goes =>
    rcases goes with ⟨-, rfl⟩ | ended
    · trivial
    · exact .of_ended ended
  | simulateSettlement phase =>
    rw [phase] at terms
    exact simulated_names terms.terms.network
  | @answer payment answer phase =>
    rw [phase] at terms
    cases answer with
    | error error => exact refused_names terms.terms.network
    | ok settlement =>
      simp only [answersNetwork, found, Option.all_some, phase, uses, Bool.not_true, Bool.false_or] at named
      exact named
  | selectStranded | commitStranded | discover | snapshotAccount | lockAccount | fresh | raced | selectQuote
  | selectSource | permitted | approvalRequested | checkLimits | readReservation | readSource | readApproval
  | readEvidence | preflighted | unready | markRetryable | consumeApproval | consumed | markSubmitting | callProvider
  | persistEvidence | finalize => trivial

theorem Replayable.step (replayable : Replayable connectionId key s) (sound : Sound s) (kept : TermsKept s)
    (named : answersNetwork connectionId key s label = true) (taken : Step hashes s label s') :
    Replayable connectionId key s' := by
  have linked : Linked s'.db := sound.linked_of_write taken.write
  have attempt (t : X402AttemptRow) (keyed : s'.db.attemptFor connectionId key = some t) : Faithful t :=
    replayable.attempt_step sound kept taken keyed
  cases taken with
  | approvals => exact ⟨attempt, replayable.names, replayable.knows, replayable.alone⟩
  | operator write =>
    refine ⟨attempt, replayable.names, ?_, replayable.alone⟩
    intro call member uses submission stands t keyed submitting
    obtain ⟨t₀, before, rfl | rfl⟩ := write.scrubs.attemptFor sound.linked keyed
    · exact replayable.knows call member uses submission stands t before submitting
    · rw [scrub_status] at submitting
      exact (replayable.knows call member uses submission stands t₀ before submitting).scrub s.now
  | @opened id auth idempotencyKey requestHash calls auths inserted =>
    have old (call : Call) (member : call ∈ calls) (stands : call.phase.submission ≠ none) : call ∈ s.calls := by
      rcases (Table.mem_insert? inserted).mp member with rfl | member
      · exact (stands rfl).elim
      · exact member
    refine ⟨attempt, ?_, ?_, ?_⟩
    · intro call member uses
      rcases (Table.mem_insert? inserted).mp member with rfl | member
      · trivial
      · exact replayable.names call member uses
    · intro call member uses submission stands
      exact replayable.knows call (old call member (by simp [stands])) uses submission stands
    · intro call member call' member' uses uses' pending stands
      exact replayable.alone call (old call member (by simp [pending])) call' (old call' member' stands) uses uses' pending
        stands
  | @called id event call effect found taken =>
    have member₀ := Table.mem_of_find? found
    refine ⟨attempt, ?_, ?_, ?_⟩
    · intro other member uses
      rcases Table.mem_put.mp member with ⟨member, -⟩ | ⟨rfl, -⟩
      · exact replayable.names other member uses
      · exact taken.names found uses (kept.calls call member₀) named
    · intro other member uses submission stands t keyed submitting
      rcases Table.mem_put.mp member with ⟨member, apart⟩ | ⟨rfl, -⟩
      · exact replayable.knows_other sound found taken member uses apart stands keyed submitting
      · exact replayable.knows_own sound linked found taken uses stands keyed submitting
    · intro call₁ member₁ call₂ member₂ uses₁ uses₂ pending stands
      rcases Table.mem_put.mp member₁ with ⟨member₁, apart₁⟩ | ⟨rfl, -⟩ <;>
        rcases Table.mem_put.mp member₂ with ⟨member₂, apart₂⟩ | ⟨rfl, -⟩
      · exact replayable.alone call₁ member₁ call₂ member₂ uses₁ uses₂ pending stands
      · obtain ⟨submission, landed⟩ := Option.ne_none_iff_exists'.mp stands
        exact ((replayable.alone_called sound found taken member₁ uses₂ uses₁ apart₁ landed (by simp [pending])).2
          pending).elim
      · exact ((replayable.alone_called sound found taken member₂ uses₁ uses₂ apart₂ pending stands).1 rfl).elim
      · rfl

theorem Initial.replayable {s : State} (initial : Initial s) : Replayable connectionId key s where
  attempt := by simp [Db.attemptFor, initial.attempts, Table.empty]
  names := by simp [initial.calls]
  knows := by simp [initial.calls]
  alone := by simp [initial.calls]

theorem replayable_of_run {s₀ : State} {events : List (State × Label)} (initial : Initial s₀)
    (run : Run (step hashes) s₀ events s)
    (named : Conforms (fun s label => answersNetwork connectionId key s label = true) events) :
    Replayable connectionId key s := by
  refine run.history (fun _ s => Replayable connectionId key s) named initial.replayable ?_
  intro events s label s' before _ replayable named taken
  exact replayable.step (sound_of_run initial before) (termsKept_of_run initial before) named (step_inversion taken)

end AgentOps.Payments
