import AgentOps.Payments.Calls

namespace AgentOps.Payments
open Lib Identity

variable {hashes : Hashes} {db db' : Db} {s s' : State} {call : Call} {label : Label} {connectionId : ConnectionId}
  {key : String}

/-! # One payment for each idempotency key -/

def Call.uses (call : Call) (connectionId : ConnectionId) (key : String) : Bool :=
  call.auth.connection_id = connectionId ∧ call.idempotencyKey = key

def asksProvider (connectionId : ConnectionId) (key : String) (s : State) : Label → Bool
  | .call id .callProvider => (s.calls.find? id).any fun call => call.uses connectionId key
  | _ => false

def Phase.isSubmitted : Phase → Bool
  | .submitted _ => true
  | _ => false

def Call.pending (connectionId : ConnectionId) (key : String) (call : Call) : Nat :=
  if call.uses connectionId key && call.phase.isSubmitted then 1 else 0

theorem Call.pending_eq_zero (idle : call.uses connectionId key = false ∨ call.phase.isSubmitted = false) :
    call.pending connectionId key = 0 := by
  rcases idle with idle | idle <;> simp [Call.pending, idle]

theorem Call.pending_eq_one (uses : call.uses connectionId key = true) (submitted : call.phase.isSubmitted = true) :
    call.pending connectionId key = 1 := by
  simp [Call.pending, uses, submitted]

def State.pendingCalls (s : State) (connectionId : ConnectionId) (key : String) : Nat :=
  s.calls.sum (Call.pending connectionId key)

def Db.submissions (db : Db) (connectionId : ConnectionId) (key : String) : Nat :=
  match db.attemptFor connectionId key with
  | none => 0
  | some attempt => min 1 attempt.status.stage

theorem Linked.attemptFor (linked : Linked db) {t : X402AttemptRow} (member : t ∈ db.attempts)
    (connection : t.connection_id = connectionId) (keyed : t.idempotency_key = key) :
    db.attemptFor connectionId key = some t := by
  cases found : db.attemptFor connectionId key with
  | none => exact (attemptFor_eq_none.mp found t member connection keyed).elim
  | some t' =>
    obtain ⟨member', connection', keyed'⟩ := attemptFor_eq_some found
    rw [linked.key t' member' t member (connection'.trans connection.symm) (keyed'.trans keyed.symm)]

theorem submissions_mono (keeps : Keeps db db') (linked : Linked db') (connectionId : ConnectionId) (key : String) :
    db.submissions connectionId key ≤ db'.submissions connectionId key := by
  unfold Db.submissions
  cases found : db.attemptFor connectionId key with
  | none => exact Nat.zero_le _
  | some t =>
    obtain ⟨member, connection, keyed⟩ := attemptFor_eq_some found
    obtain ⟨t', member', -, revises⟩ := keeps.attempts.mem member
    have connection' : t'.connection_id = connectionId := by
      rw [revises.same]
      exact connection
    have keyed' : t'.idempotency_key = key := by
      rw [revises.same]
      exact keyed
    have later := revises.stage_le
    simp only [linked.attemptFor member' connection' keyed']
    omega

theorem AttemptOk.attemptFor {attempt : X402AttemptRow} {stage : Nat} (ok : AttemptOk db call attempt stage)
    (linked : Linked db) : ∃ t, db.attempts.find? attempt.id = some t ∧
      db.attemptFor call.auth.connection_id call.idempotencyKey = some t ∧ t.request_hash = call.requestHash := by
  obtain ⟨t, found, same, -⟩ := ok.stored
  refine ⟨t, found, linked.attemptFor (Table.mem_of_find? found) ?_ ?_, ?_⟩
  · rw [same]
    exact ok.connection
  · rw [same]
    exact ok.key
  · rw [same]
    exact ok.request

theorem pendingCalls_put {id : CallId} (found : s.calls.find? id = some call) (phase : Phase)
    (moved : s'.calls = s.calls.put { call with phase }) (connectionId : ConnectionId) (key : String) :
    s'.pendingCalls connectionId key + call.pending connectionId key =
      s.pendingCalls connectionId key + Call.pending connectionId key { call with phase } := by
  have located : s.calls.find? call.id = some call := by
    rw [Table.key_of_find? found]
    exact found
  unfold State.pendingCalls
  rw [moved]
  exact Table.sum_put (r := { call with phase }) _ located

theorem submitted_of_step {event : CallEvent} {effect : Effect} (taken : CallStep hashes s call event effect)
    (submitted : effect.phase.isSubmitted = true) : ∃ payment db, event = .markSubmitting ∧
      (call.phase = .preflighted payment ∨ call.phase = .approved payment) ∧
      markSubmitting s.db call.auth payment.attempt.id = .ok db ∧ effect.db = db := by
  cases taken with
  | @markSubmitting payment db phase marked =>
    refine ⟨payment, db, rfl, ?_, marked, rfl⟩
    rcases phase with ⟨phase, -⟩ | phase
    · exact .inl phase
    · exact .inr phase
  | ends ended =>
    rename_i phase
    simp only [State.move] at submitted
    cases phase <;> simp [Phase.ended, Phase.isSubmitted] at ended submitted
  | findAttempt phase read =>
    rename_i found
    cases found with
    | none => cases submitted
    | some row =>
      rcases afterFind_cases call row with ended | ⟨evidence, next, -⟩
      · simp only at submitted
        cases landed : afterFind call (some row) <;> simp [landed, Phase.ended, Phase.isSubmitted] at ended submitted
      · simp [next, Phase.isSubmitted] at submitted
  | commitPrepare phase written goes =>
    rcases goes with ⟨-, rfl⟩ | ended
    · cases submitted
    · rename_i next
      simp only at submitted
      cases next <;> simp [Phase.ended, Phase.isSubmitted] at ended submitted
  | selectStranded | commitStranded | discover | snapshotAccount | lockAccount | fresh | raced | selectQuote
  | selectSource | permitted | approvalRequested | checkLimits | readReservation | readSource | readApproval
  | readEvidence | preflighted | unready | markRetryable | consumeApproval | consumed | simulateSettlement
  | callProvider | answer | persistEvidence | finalize => cases submitted

theorem submissions_of_mark {id : CallId} (sound : Sound s) (found : s.calls.find? id = some call)
    {payment : PreparedPaidHttpPayment} (phase : call.phase = .preflighted payment ∨ call.phase = .approved payment)
    (marked : markSubmitting s.db call.auth payment.attempt.id = .ok db) (linked : Linked db) :
    s.db.submissions call.auth.connection_id call.idempotencyKey = 0 ∧
      db.submissions call.auth.connection_id call.idempotencyKey = 1 := by
  have ok : PaymentOk s.db call payment 0 := by
    rcases phase with phase | phase
    · exact sound.known found phase
    · exact sound.known found phase
  obtain ⟨row, inScope, rfl⟩ := markSubmitting_ok marked
  obtain ⟨t, located, keyed, -⟩ := ok.attempt.attemptFor sound.linked
  obtain rfl : row = t := Option.some.inj (inScope.found.symm.trans located)
  obtain ⟨-, connection, sameKey⟩ := attemptFor_eq_some keyed
  have stored := Table.find?_put_self (r := { row with status := X402AttemptStatus.submitting }) inScope.located
  have keyed' := linked.attemptFor (Table.mem_of_find? stored) connection sameKey
  unfold Db.submissions
  rw [keyed, keyed']
  simp [inScope.status, X402AttemptStatus.stage]

theorem asks_once {id : CallId} {event : CallEvent} (sound : Sound s) (linked : Linked s'.db) (keeps : Keeps s.db s'.db)
    (found : s.calls.find? id = some call) {effect : Effect} (taken : callStep hashes s call event = some effect)
    (landed : s' = ⟨effect.approvals, effect.db, s.calls.put { call with phase := effect.phase }⟩) :
    (if asksProvider connectionId key s (.call id event) = true then 1 else 0) + s'.pendingCalls connectionId key +
        s.db.submissions connectionId key ≤
      s.pendingCalls connectionId key + s'.db.submissions connectionId key := by
  have moved : s'.pendingCalls connectionId key + call.pending connectionId key =
      s.pendingCalls connectionId key + Call.pending connectionId key { call with phase := effect.phase } :=
    pendingCalls_put found effect.phase (by rw [landed]) connectionId key
  have grows := submissions_mono keeps linked connectionId key
  by_cases asks : asksProvider connectionId key s (.call id event) = true
  · have isProvider : event = .callProvider ∧ call.uses connectionId key = true := by
      cases event <;> simp [asksProvider, found] at asks ⊢
      exact asks
    obtain ⟨rfl, uses⟩ := isProvider
    have submitted : call.phase.isSubmitted = true ∧ effect.phase.isSubmitted = false := by
      cases phase : call.phase
      case submitted payment =>
        simp only [callStep, phase, Option.ite_none_left_eq_some, Option.some.injEq] at taken
        obtain ⟨-, rfl⟩ := taken
        exact ⟨rfl, rfl⟩
      all_goals simp [callStep, phase] at taken
    have before := Call.pending_eq_one uses submitted.1
    have after : Call.pending connectionId key { call with phase := effect.phase } = 0 :=
      Call.pending_eq_zero (.inr submitted.2)
    rw [if_pos asks]
    omega
  · rw [if_neg asks]
    cases submitted : effect.phase.isSubmitted with
    | false =>
      have after : Call.pending connectionId key { call with phase := effect.phase } = 0 :=
        Call.pending_eq_zero (.inr submitted)
      omega
    | true =>
      obtain ⟨payment, db, rfl, phase, marked, sameDb⟩ := submitted_of_step (callStep_inversion taken) submitted
      have before : call.phase.isSubmitted = false := by
        rcases phase with phase | phase <;> rw [phase] <;> rfl
      have none : call.pending connectionId key = 0 := Call.pending_eq_zero (.inr before)
      cases uses : call.uses connectionId key with
      | false =>
        have after : Call.pending connectionId key { call with phase := effect.phase } = 0 :=
          Call.pending_eq_zero (.inl uses)
        omega
      | true =>
        have same : call.auth.connection_id = connectionId ∧ call.idempotencyKey = key := by
          simpa [Call.uses] using uses
        have isDb : s'.db = db := by rw [landed, ← sameDb]
        have marks := submissions_of_mark sound found phase marked (isDb ▸ linked)
        rw [same.1, same.2, ← isDb] at marks
        have after : Call.pending connectionId key { call with phase := effect.phase } = 1 :=
          Call.pending_eq_one uses submitted
        omega

theorem provider_asked_once {s₀ : State} {events : List (State × Label)} (initial : Initial s₀)
    (run : Run (step hashes) s₀ events s) (connectionId : ConnectionId) (key : String) :
    events.countP (fun e => asksProvider connectionId key e.1 e.2) ≤ 1 := by
  have bounded := run.countP_le (asksProvider connectionId key) (fun s => s.pendingCalls connectionId key)
    (fun s => s.db.submissions connectionId key) (by simp [State.pendingCalls, initial.calls]) ?_
  · have atMost : s.db.submissions connectionId key ≤ 1 := by
      unfold Db.submissions
      split
      · exact Nat.zero_le _
      · exact Nat.min_le_left _ _
    omega
  · intro events s label s' before taken
    have sound := sound_of_run initial before
    have moved := step_inversion taken
    have keeps := sound.keeps moved.write
    have linked := sound.linked_of_write moved.write
    have grows := submissions_mono keeps linked connectionId key
    cases label with
    | call id event =>
      simp only [step] at taken
      split at taken
      · cases taken
      · rename_i call found
        obtain ⟨effect, stepped, landed⟩ := Option.map_eq_some_iff.mp taken
        exact asks_once sound linked keeps found stepped landed.symm
    | payRuntimeX402 id auth idempotencyKey requestHash =>
      simp only [step, Option.ite_none_right_eq_some, Option.map_eq_some_iff] at taken
      obtain ⟨auths, calls, inserted, rfl⟩ := taken
      have total := Table.sum_insert? (Call.pending connectionId key) inserted
      rw [Call.pending_eq_zero (.inr rfl)] at total
      have opened : State.pendingCalls { s with calls } connectionId key = s.pendingCalls connectionId key := by
        simp [State.pendingCalls, total]
      rw [opened, if_neg (by simp [asksProvider])]
      omega
    | _ =>
      have same : s'.pendingCalls connectionId key = s.pendingCalls connectionId key := by
        cases moved <;> rfl
      rw [same, if_neg (by simp [asksProvider])]
      omega

/-- What a call may do to an attempt that is stored under its key for another request: clean it up, as any call of the
agent does. -/
inductive CleansUp (s : State) (call : Call) (t : X402AttemptRow) : CallEvent → X402AttemptRow → Prop
  | leaves {event : CallEvent} : CleansUp s call t event t
  | cancels {candidates : List StrandedCandidate} {candidate : StrandedCandidate}
      (phase : call.phase = .cancelling candidates) (selected : candidate ∈ candidates)
      (names : candidate.attempt_id = t.id) (reserved : t.status = .reserved) :
      CleansUp s call t .commitStranded { t with status := .failed, error_code := some candidate.error_code }
  | scrubs : CleansUp s call t .findAttempt (t.scrub s.now)

theorem cancelCandidates_attempt {auth : ConnectionAuthResult} {candidates : List StrandedCandidate}
    {t : X402AttemptRow} (cancelled : cancelCandidates auth db candidates = .ok db')
    (found : db.attempts.find? t.id = some t) :
    db'.attempts.find? t.id = some t ∨ ∃ candidate ∈ candidates, candidate.attempt_id = t.id ∧ t.status = .reserved ∧
      db'.attempts.find? t.id = some { t with status := .failed, error_code := some candidate.error_code } := by
  refine cancelCandidates_invariant (fun db' => db'.attempts.find? t.id = some t ∨
    ∃ candidate ∈ candidates, candidate.attempt_id = t.id ∧ t.status = .reserved ∧
      db'.attempts.find? t.id = some { t with status := .failed, error_code := some candidate.error_code })
    cancelled (.inl found) ?_
  rintro candidate member db₁ db₂ kept one
  cases one with
  | passed => exact kept
  | @released reservation account attempt foundReservation isOpen foundAccount covers foundAttempt reserved =>
    have attemptId := Table.key_of_find? foundAttempt
    by_cases same : candidate.attempt_id = t.id
    · rw [same] at foundAttempt attemptId
      rcases kept with kept | ⟨earlier, -, -, -, kept⟩
      · obtain rfl : attempt = t := Option.some.inj (foundAttempt.symm.trans kept)
        exact .inr ⟨candidate, member, same, reserved, Table.find?_put_self (r := { attempt with
          status := X402AttemptStatus.failed, error_code := some candidate.error_code }) foundAttempt⟩
      · obtain rfl := Option.some.inj (foundAttempt.symm.trans kept)
        cases reserved
    · have apart : attempt.id ≠ t.id := by
        rw [attemptId]
        exact same
      have others : (db₁.attempts.put { attempt with
          status := .failed, error_code := some candidate.error_code }).find? t.id = db₁.attempts.find? t.id :=
        Table.find?_put_ne apart
      simp only [others]
      exact kept

theorem CallStep.cleansUp {id : CallId} {event : CallEvent} {effect : Effect} {t : X402AttemptRow} (sound : Sound s)
    (found : s.calls.find? id = some call)
    (stored : s.db.attemptFor call.auth.connection_id call.idempotencyKey = some t)
    (other : t.request_hash ≠ call.requestHash) (taken : CallStep hashes s call event effect) :
    ∃ t', effect.db.attempts.find? t.id = some t' ∧ CleansUp s call t event t' := by
  have located := Table.find?_of_mem (attemptFor_eq_some stored).1
  have foreign {attempt : X402AttemptRow} {stage : Nat} (ok : AttemptOk s.db call attempt stage) : False := by
    obtain ⟨t', -, stored', requested⟩ := ok.attemptFor sound.linked
    obtain rfl : t = t' := Option.some.inj (stored.symm.trans stored')
    exact other requested
  cases taken with
  | commitStranded phase free cancelled =>
    rcases cancelCandidates_attempt cancelled located with kept | ⟨candidate, selected, names, reserved, failed⟩
    · exact ⟨t, kept, .leaves⟩
    · exact ⟨_, failed, .cancels phase selected names reserved⟩
  | findAttempt phase read =>
    rcases findAttempt_some read with ⟨-, -, missing⟩ | ⟨row, stored', rfl, rfl⟩
    · rw [stored] at missing
      cases missing
    · obtain rfl : t = row := Option.some.inj (stored.symm.trans stored')
      refine ⟨t.scrub s.now, ?_, .scrubs⟩
      rw [← scrub_id t s.now] at located ⊢
      exact Table.find?_put_self located
  | raced phase read same =>
    rcases findAttempt_some read with ⟨missing, -⟩ | ⟨row, stored', foundRow, -⟩
    · cases missing
    · obtain rfl : t = row := Option.some.inj (stored.symm.trans stored')
      rw [Option.some.inj foundRow, (scrub_revises t _).same] at same
      exact (other same).elim
  | commitPrepare phase written goes =>
    obtain ⟨⟨-, missing⟩, -⟩ := sound.known found phase
    rw [stored] at missing
    cases missing
  | markRetryable phase =>
    have ok : PaymentOk s.db call _ 0 := sound.known found phase
    exact (foreign ok.attempt).elim
  | markSubmitting phase marked =>
    rcases phase with ⟨phase, -⟩ | phase
    · have ok : PaymentOk s.db call _ 0 := sound.known found phase
      exact (foreign ok.attempt).elim
    · have ok : PaymentOk s.db call _ 0 := sound.known found phase
      exact (foreign ok.attempt).elim
  | persistEvidence phase | finalize phase =>
    have ok : PaymentOk s.db call _ 1 := sound.known found phase
    exact (foreign ok.attempt).elim
  | ends | selectStranded | discover | snapshotAccount | lockAccount | fresh | selectQuote | selectSource | permitted
  | approvalRequested | checkLimits | readReservation | readSource | readApproval | readEvidence | preflighted | unready
  | consumeApproval | consumed | simulateSettlement | callProvider | answer => exact ⟨t, located, .leaves⟩

def X402AttemptRow.isFor (row : X402AttemptRow) (connectionId : ConnectionId) (key : String) : Prop :=
  row.connection_id = connectionId ∧ row.idempotency_key = key

theorem payment_once_per_key {s₀ : State} {events : List (State × Label)} (initial : Initial s₀)
    (run : Run (step hashes) s₀ events s) (connectionId : ConnectionId) (key : String) :
    (∀ t ∈ s.db.attempts, ∀ t' ∈ s.db.attempts, t.isFor connectionId key → t'.isFor connectionId key → t = t') ∧
    (∀ r ∈ s.db.reservations, ∀ r' ∈ s.db.reservations, ∀ t ∈ s.db.attempts, ∀ t' ∈ s.db.attempts,
      t.isFor connectionId key → t'.isFor connectionId key → r.reason_code = .x402Attempt t.id →
      r'.reason_code = .x402Attempt t'.id → r = r') ∧
    events.countP (fun e => asksProvider connectionId key e.1 e.2) ≤ 1 ∧
    ∀ id event call t s', s.calls.find? id = some call → call.uses connectionId key = true →
      step hashes s (.call id event) = some s' → s.db.attemptFor connectionId key = some t →
      t.request_hash ≠ call.requestHash →
      event ≠ .callProvider ∧ ∃ t', s'.db.attempts.find? t.id = some t' ∧ CleansUp s call t event t' := by
  have sound := sound_of_run initial run
  have alone (t : X402AttemptRow) (member : t ∈ s.db.attempts) (t' : X402AttemptRow) (member' : t' ∈ s.db.attempts)
      (same : t.isFor connectionId key) (same' : t'.isFor connectionId key) : t = t' :=
    sound.linked.key t member t' member' (same.1.trans same'.1.symm) (same.2.trans same'.2.symm)
  refine ⟨alone, ?_, provider_asked_once initial run connectionId key, ?_⟩
  · intro r member r' member' t stored t' stored' same same' reason reason'
    obtain rfl := alone t stored t' stored' same same'
    exact sound.linked.single r member r' member' t.id reason reason'
  · intro id event call t s' found uses taken stored other
    obtain ⟨rfl, rfl⟩ : call.auth.connection_id = connectionId ∧ call.idempotencyKey = key := by
      simpa [Call.uses] using uses
    constructor
    · rintro rfl
      obtain ⟨call', payment, found', phase⟩ := submitted_of_callProvider (Option.isSome_iff_exists.mpr ⟨s', taken⟩)
      obtain rfl : call = call' := Option.some.inj (found.symm.trans found')
      have ok : PaymentOk s.db call payment 1 := sound.known found phase
      obtain ⟨t', -, stored', requested⟩ := ok.attempt.attemptFor sound.linked
      obtain rfl : t = t' := Option.some.inj (stored.symm.trans stored')
      exact other requested
    · simp only [step, found] at taken
      obtain ⟨effect, stepped, rfl⟩ := Option.map_eq_some_iff.mp taken
      exact (callStep_inversion stepped).cleansUp sound found stored other

/-- After the reservation has expired, a call that reuses the key for another request fails the stored attempt. -/
theorem other_request_cancels : ∃ events s, Run (step Workspace.hashes) (Workspace.state .circleWallets) events s ∧
    (∃ t ∈ s.db.attempts.rows, t.status = .reserved ∧ t.connection_id = 10 ∧ t.idempotency_key = "k" ∧
      (∃ call ∈ s.calls.find? 101, call.uses 10 "k" = true ∧ t.request_hash ≠ call.requestHash) ∧
        ∃ s' ∈ step Workspace.hashes s (.call 101 .commitStranded),
          (s'.db.attempts.find? t.id).map X402AttemptRow.status = some .failed) :=
  exists_run (.setAgentPaymentAccess 1 1 (Workspace.access 50) :: Workspace.pays 100 Workspace.prepares ++
    [.approvals (.tick fifteenMinutes), .payRuntimeX402 101 Workspace.auth "k" "other request",
      .call 101 .selectStranded]) _ (by decide)

theorem payment_once_settled : ∃ events s, Run (step Workspace.hashes) (Workspace.state .circleWallets) events s ∧
    (∃ t ∈ s.db.attempts.rows, t.status = .settled) ∧
      events.countP (fun e => asksProvider 10 "k" e.1 e.2) ≤ 1 := by
  obtain ⟨events, s, run, settled⟩ : ∃ events s, Run (step Workspace.hashes) (Workspace.state .circleWallets) events s ∧
      ∃ t ∈ s.db.attempts.rows, t.status = .settled :=
    exists_run (.setAgentPaymentAccess 1 1 (Workspace.access 50) :: Workspace.pays 100 Workspace.settles) _ (by decide)
  exact ⟨events, s, run, settled, (payment_once_per_key (Workspace.state_initial _) run 10 "k").2.2.1⟩

end AgentOps.Payments
