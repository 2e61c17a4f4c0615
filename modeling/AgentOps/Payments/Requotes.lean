import AgentOps.Payments.Submissions

namespace AgentOps.Payments
open Lib Identity

variable {hashes : Hashes} {db db' : Db} {s s' : State} {call : Call} {label : Label} {t t' : X402AttemptRow}
  {r r' : PaymentReservationRow} {quote : RuntimeQuote}

/-! # The quote that an attempt was made for -/

theorem quoteFromAccept_rail {accept : RuntimeX402Accept} {mode : PaymentMode}
    (quoted : quoteFromAccept accept mode = .ok (some quote)) : quote.rail.chain = quote.chain := by
  unfold quoteFromAccept at quoted
  split at quoted
  · cases quoted
  split at quoted
  · cases quoted
  split at quoted
  · cases quoted
  split at quoted
  · cases quoted
  split at quoted
  · cases quoted
  split at quoted
  · cases quoted
  split at quoted
  · cases quoted
  obtain rfl := Option.some.inj (Except.ok.inj quoted)
  rfl

structure Terms (quote : RuntimeQuote) (t : X402AttemptRow) : Prop where
  rail : t.rail = quote.rail
  network : t.network = quote.x402Network
  recipient : t.recipient = quote.recipient

theorem Terms.revise (terms : Terms quote t) (same : SameAttempt t t') : Terms quote t' := by
  constructor
  · rw [same]
    exact terms.rail
  · rw [same]
    exact terms.network
  · rw [same]
    exact terms.recipient

def Requotes (r : PaymentReservationRow) (t : X402AttemptRow) : Prop :=
  ∀ payload quote, r.quote = some payload → quoteFromAccept payload.accept orgPaymentMode = .ok (some quote) →
    Terms quote t

theorem Requotes.revise (requotes : Requotes r t) (sameRow : SameReservation r r') (same : SameAttempt t t') :
    Requotes r' t' := by
  intro payload quote stored quoted
  rw [sameRow.same] at stored
  exact (requotes payload quote stored quoted).revise same

def Requoted (db : Db) : Prop :=
  ∀ r ∈ db.reservations, ∀ t ∈ db.attempts, r.reason_code = .x402Attempt t.id → Requotes r t

theorem Requoted.amend (requoted : Requoted db) (amends : Amends db db') : Requoted db' := by
  intro r' storedRow t' stored reason
  obtain ⟨r, foundRow, sameRow⟩ := amends.reservations.source (Table.find?_of_mem storedRow)
  obtain ⟨t, found, revises⟩ := amends.attempts.source (Table.find?_of_mem stored)
  refine (requoted r (Table.mem_of_find? foundRow) t (Table.mem_of_find? found) ?_).revise sameRow revises.same
  rw [sameRow.same, revises.same] at reason
  exact reason

theorem Requoted.prepare {began : Time} {auth : ConnectionAuthResult} {key : String} {requestHash : Hash}
    {source : PaymentSourceRow} {resource : JsonObject} {gate : PolicyGate} {attemptId : AttemptId}
    {reservationId : ReservationId} {payment : PreparedPaidHttpPayment} (requoted : Requoted db) (linked : Linked db)
    (prepared : Prepared hashes db began auth key requestHash quote source resource gate attemptId reservationId db'
      payment) (quoted : Quoted quote) : Requoted db' := by
  obtain ⟨attempts, reservations, accounts, insertedAttempt, insertedReservation, -, rfl⟩ := prepared.tables
  have unused : db.attempts.find? attemptId = none := (Table.insert?_eq_some insertedAttempt).2
  intro r storedRow t stored reason
  rcases (Table.mem_insert? insertedReservation).mp storedRow with rfl | storedRow <;>
    rcases (Table.mem_insert? insertedAttempt).mp stored with rfl | stored
  · intro payload quote' stored' quoted'
    obtain rfl := Option.some.inj stored'
    rw [prepared.payload] at quoted'
    obtain rfl := Option.some.inj (Except.ok.inj (quoted.symm.trans quoted'))
    exact ⟨rfl, rfl, rfl⟩
  · -- the new reservation names the new attempt only
    have sameId : attemptId = t.id := ReasonCode.x402Attempt.inj reason
    rw [sameId, Table.find?_of_mem stored] at unused
    cases unused
  · obtain ⟨owner, found, -⟩ := linked.owner r storedRow attemptId reason
    rw [unused] at found
    cases found
  · exact requoted r storedRow t stored reason

theorem OperatorWrite.requoted (write : OperatorWrite hashes s label db) (requoted : Requoted s.db) : Requoted db := by
  rcases write.amends with ⟨amends, -⟩ | ⟨id, reservationId, onchain, -, funded⟩
  · exact requoted.amend amends
  · cases fundEscrowJob_ok funded with
    | funded found isOpen inserted =>
      intro r storedRow t stored reason
      rcases (Table.mem_insert? inserted).mp storedRow with rfl | storedRow
      · cases reason
      · exact requoted r storedRow t stored reason

theorem Write.requoted (write : Write hashes s label db) (sound : Sound s) (requoted : Requoted s.db) : Requoted db := by
  cases write with
  | unchanged => exact requoted
  | operator write => exact write.requoted requoted
  | call found write =>
    cases write with
    | unchanged => exact requoted
    | stranded phase free cancelled => exact requoted.amend (cancelCandidates_amends cancelled)
    | scrubbed scrubbed => exact requoted.amend (.scrub scrubbed)
    | prepared phase written =>
      obtain ⟨-, quoted, -⟩ := sound.known found phase
      exact requoted.prepare sound.linked (sound.prepared found phase written) quoted
    | revised located revises early => exact requoted.amend (.putAttempt revises located)
    | finalized phase free finalized => exact requoted.amend (finalizePaidHttpPayment_ok finalized).amends

structure OnTerms (payment : PreparedPaidHttpPayment) : Prop where
  terms : Terms payment.quote payment.attempt
  source : payment.attempt.source_id = payment.source.id

def PhaseOnTerms : Phase → Prop
  | .resumingSource attempt _ reservation => Requotes reservation attempt
  | .resumingApproval attempt _ reservation source => Requotes reservation attempt ∧ attempt.source_id = source.id
  | .prepared payment | .unready payment _ | .preflighted payment | .consuming payment _ | .approved payment
  | .submitted payment | .settling payment | .answered payment _ | .evidenced payment _ => OnTerms payment
  | _ => True

theorem phaseOnTerms_of_ended {phase : Phase} (ended : phase.ended = true) : PhaseOnTerms phase := by
  cases phase <;> trivial

theorem attemptSource_id {attempt : X402AttemptRow} {orgId : OrgId} {source : PaymentSourceRow}
    (found : db.attemptSource attempt orgId = .ok source) : attempt.source_id = source.id := by
  unfold Db.attemptSource at found
  split at found
  · cases found
  rename_i row located
  split at found
  · obtain rfl := Except.ok.inj found
    exact (Table.key_of_find? located).symm
  · cases found

theorem Requotes.resumed {approvals : Approvals.Requests} {auth : ConnectionAuthResult} {finalizing hookAllows : Bool}
    {source : PaymentSourceRow} {destination : Except Failure Unit} {payment : PreparedPaidHttpPayment}
    (requotes : Requotes r t) (sameSource : t.source_id = source.id)
    (resumed : resumePayment approvals auth t finalizing r source hookAllows destination = .ok payment) :
    OnTerms payment := by
  obtain ⟨quote, payload, resumedQuote, -, rfl⟩ := resumePayment_ok resumed
  obtain ⟨stored, quoted, -⟩ := resumeQuote_ok resumedQuote
  exact ⟨requotes payload quote stored quoted, sameSource⟩

theorem CallStep.onTerms {id : CallId} {event : CallEvent} {effect : Effect} (sound : Sound s)
    (found : s.calls.find? id = some call) (requoted : Requoted s.db) (terms : PhaseOnTerms call.phase)
    (taken : CallStep hashes s call event effect) : PhaseOnTerms effect.phase := by
  cases taken with
  | ends ended => exact phaseOnTerms_of_ended ended
  | @findAttempt db found phase read =>
    cases found with
    | none => trivial
    | some row =>
      rcases afterFind_cases call row with ended | ⟨evidence, next, -⟩
      · exact phaseOnTerms_of_ended ended
      · simp only [next]
        trivial
  | commitPrepare phase written goes =>
    rcases goes with ⟨-, rfl⟩ | ended
    · have prepared := sound.prepared found phase written
      obtain ⟨-, -, quoteIs, -, sourceIs⟩ := prepared.rest
      show OnTerms _
      constructor
      · rw [prepared.attempt, quoteIs]
        exact ⟨rfl, rfl, rfl⟩
      · rw [prepared.attempt, sourceIs]
        rfl
    · exact phaseOnTerms_of_ended ended
  | @readReservation attempt evidence reservation phase located =>
    have ok : AttemptOk s.db call attempt _ := sound.known found phase
    obtain ⟨stored, reason, -⟩ := openReservation_spec located
    obtain ⟨row, foundRow, same, -⟩ := ok.stored
    have sameId : row.id = attempt.id := Table.key_of_find? foundRow
    show Requotes reservation attempt
    exact (requoted reservation stored row (Table.mem_of_find? foundRow) (by rw [sameId]; exact reason)).revise
      (.refl reservation) same.symm
  | readSource phase located =>
    rw [phase] at terms
    exact ⟨terms, attemptSource_id located⟩
  | readApproval phase resumed | readEvidence phase resumed =>
    rw [phase] at terms
    exact terms.1.resumed terms.2 resumed
  | markSubmitting phase marked =>
    rcases phase with ⟨phase, -⟩ | phase <;> rw [phase] at terms <;> exact terms
  | preflighted phase | unready phase | consumeApproval phase | consumed phase | simulateSettlement phase
  | callProvider phase | answer phase | persistEvidence phase =>
    rw [phase] at terms
    exact terms
  | selectStranded | commitStranded | discover | snapshotAccount | lockAccount | fresh | raced | selectQuote
  | selectSource | permitted | approvalRequested | checkLimits | markRetryable | finalize => trivial

structure TermsKept (s : State) : Prop where
  stored : Requoted s.db
  calls : ∀ call ∈ s.calls, PhaseOnTerms call.phase

theorem TermsKept.step (kept : TermsKept s) (sound : Sound s) (taken : Step hashes s label s') : TermsKept s' := by
  refine ⟨taken.write.requoted sound kept.stored, ?_⟩
  cases taken with
  | approvals | operator => exact kept.calls
  | opened auths inserted =>
    intro call member
    rcases (Table.mem_insert? inserted).mp member with rfl | member
    · trivial
    · exact kept.calls call member
  | called found taken =>
    intro other member
    rcases Table.mem_put.mp member with ⟨member, -⟩ | ⟨rfl, -⟩
    · exact kept.calls other member
    · exact taken.onTerms sound found kept.stored (kept.calls _ (Table.mem_of_find? found))

/-- The payment of a call is always that of the quote its attempt was made for, however often the call was resumed. -/
theorem termsKept_of_run {s₀ : State} {events : List (State × Label)} (initial : Initial s₀)
    (run : Run (step hashes) s₀ events s) : TermsKept s := by
  have both : Sound s ∧ TermsKept s := by
    refine run.always (fun s => Sound s ∧ TermsKept s) ⟨initial.sound, ?_, by simp [initial.calls]⟩ ?_
    · simp [Requoted, initial.reservations]
    · intro s label s' ok taken
      have moved := step_inversion taken
      exact ⟨ok.1.step moved, ok.2.step ok.1 moved⟩
  exact both.2

end AgentOps.Payments
