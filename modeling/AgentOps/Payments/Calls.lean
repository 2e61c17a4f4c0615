import AgentOps.Payments.Integrity

namespace AgentOps.Payments
open Lib Identity

variable {hashes : Hashes} {db db' : Db} {s s' : State} {call : Call} {label : Label}

/-! # What a call knows between two statements -/

def CandidateOk (db : Db) (auth : ConnectionAuthResult) (candidate : StrandedCandidate) : Prop :=
  ∃ r, db.reservations.find? candidate.reservation_id = some r ∧ r.account = accountOf auth ∧
    r.amount_usdc = candidate.amount_usdc ∧ r.reason_code = .x402Attempt candidate.attempt_id

def Holds (s : State) (call : Call) (tx : Preparation) : Prop :=
  s.db.accounts.find? (accountOf call.auth) = some tx.account ∧ tx.began ≤ s.now

def Fresh (s : State) (call : Call) (tx : Preparation) : Prop :=
  Holds s call tx ∧ s.db.attemptFor call.auth.connection_id call.idempotencyKey = none

def Quoted (quote : RuntimeQuote) : Prop := quoteFromAccept quote.accept orgPaymentMode = .ok (some quote)

def SourceOk (db : Db) (auth : ConnectionAuthResult) (source : PaymentSourceRow) : Prop :=
  ∃ row, db.sources.find? source.id = some row ∧ SameSource source row ∧ row.org_id = auth.org_id ∧ row.status = .active

structure AttemptOk (db : Db) (call : Call) (attempt : X402AttemptRow) (stage : Nat) : Prop where
  org : attempt.org_id = call.auth.org_id
  agent : attempt.agent_id = call.auth.agent_id
  connection : attempt.connection_id = call.auth.connection_id
  key : attempt.idempotency_key = call.idempotencyKey
  request : attempt.request_hash = call.requestHash
  stored : ∃ row, db.attempts.find? attempt.id = some row ∧ SameAttempt attempt row ∧ stage ≤ row.status.stage

def ReservationOk (db : Db) (attempt : X402AttemptRow) (reservationId : ReservationId) : Prop :=
  ∃ r, db.reservations.find? reservationId = some r ∧ Backs r attempt

structure PaymentOk (db : Db) (call : Call) (payment : PreparedPaidHttpPayment) (stage : Nat) : Prop where
  attempt : AttemptOk db call payment.attempt stage
  reservation : ReservationOk db payment.attempt payment.reservationId
  amount : payment.attempt.amount_usdc = payment.quote.amountMicros
  quote : Quoted payment.quote
  source : SourceOk db call.auth payment.source

def Limits (tx : Preparation) (quote : RuntimeQuote) : Prop :=
  tx.account.spent_usdc + tx.account.reserved_usdc + quote.amountMicros ≤ tx.account.budget_usdc

def evidenceStage : Option RuntimeX402SettlementResult → Nat
  | none => 0
  | some _ => 1

def PhaseOk (s : State) (call : Call) : Phase → Prop
  | .cancelling candidates => ∀ candidate ∈ candidates, CandidateOk s.db call.auth candidate
  | .locking began _ _ _ => began ≤ s.now
  | .locked tx => Holds s call tx
  | .fresh tx => Fresh s call tx
  | .quoted tx quote => Fresh s call tx ∧ Quoted quote
  | .sourced tx quote source | .gated tx quote source _ _ =>
    Fresh s call tx ∧ Quoted quote ∧ SourceOk s.db call.auth source
  | .cleared tx quote source _ _ => Fresh s call tx ∧ Quoted quote ∧ SourceOk s.db call.auth source ∧ Limits tx quote
  | .resuming attempt evidence => AttemptOk s.db call attempt (evidenceStage evidence)
  | .resumingSource attempt evidence reservation =>
    AttemptOk s.db call attempt (evidenceStage evidence) ∧ ReservationOk s.db attempt reservation.id ∧
      Backs reservation attempt
  | .resumingApproval attempt evidence reservation source =>
    AttemptOk s.db call attempt (evidenceStage evidence) ∧ ReservationOk s.db attempt reservation.id ∧
      Backs reservation attempt ∧ SourceOk s.db call.auth source
  | .prepared payment | .unready payment _ | .preflighted payment | .consuming payment _ | .approved payment =>
    PaymentOk s.db call payment 0
  | .submitted payment | .settling payment | .answered payment _ | .evidenced payment _ =>
    PaymentOk s.db call payment 1
  | .started | .cleaned | .discovering | .discovered _ | .returned _ | .failed _ | .crashed => True

structure CallOk (s : State) (call : Call) : Prop where
  authenticated : authenticated s.db call.auth = true
  phase : PhaseOk s call call.phase

/-! ## What a call knows stays true -/

theorem CandidateOk.keep {auth : ConnectionAuthResult} {candidate : StrandedCandidate}
    (ok : CandidateOk db auth candidate) (keeps : Keeps db db') : CandidateOk db' auth candidate := by
  obtain ⟨r, found, account, amount, reason⟩ := ok
  obtain ⟨r', found', same⟩ := keeps.reservations _ _ found
  exact ⟨r', found', same.account.trans account, same.amount.trans amount, by rw [same.same]; exact reason⟩

theorem SourceOk.keep {auth : ConnectionAuthResult} {source : PaymentSourceRow} (ok : SourceOk db auth source)
    (keeps : Keeps db db') : SourceOk db' auth source := by
  obtain ⟨row, found, same, org, active⟩ := ok
  obtain ⟨row', found', same'⟩ := keeps.sources _ _ found
  exact ⟨row', found', same.trans _ _ _ same', same'.2.1.trans org, same'.2.2.2.trans active⟩

theorem AttemptOk.keep {attempt : X402AttemptRow} {stage : Nat} (ok : AttemptOk db call attempt stage)
    (keeps : Keeps db db') : AttemptOk db' call attempt stage := by
  obtain ⟨row, found, same, reached⟩ := ok.stored
  obtain ⟨row', found', revises⟩ := keeps.attempts _ _ found
  exact { ok with stored := ⟨row', found', same.trans revises.same, reached.trans revises.stage_le⟩ }

theorem ReservationOk.keep {attempt : X402AttemptRow} {reservationId : ReservationId}
    (ok : ReservationOk db attempt reservationId) (keeps : Keeps db db') : ReservationOk db' attempt reservationId := by
  obtain ⟨r, found, backs⟩ := ok
  obtain ⟨r', found', same⟩ := keeps.reservations _ _ found
  exact ⟨r', found', backs.revise same rfl⟩

theorem PaymentOk.keep {payment : PreparedPaidHttpPayment} {stage : Nat} (ok : PaymentOk db call payment stage)
    (keeps : Keeps db db') : PaymentOk db' call payment stage where
  attempt := ok.attempt.keep keeps
  reservation := ok.reservation.keep keeps
  amount := ok.amount
  quote := ok.quote
  source := ok.source.keep keeps

/-- Nothing changes for a transaction that has its account locked: the account's row and the missing of its key. -/
structure Undisturbed (db db' : Db) (call : Call) : Prop where
  account : db'.accounts.find? (accountOf call.auth) = db.accounts.find? (accountOf call.auth)
  key : db.attemptFor call.auth.connection_id call.idempotencyKey = none →
    db'.attemptFor call.auth.connection_id call.idempotencyKey = none

theorem Holds.keep {tx : Preparation} (holds : Holds s call tx) (undisturbed : Undisturbed s.db s'.db call)
    (later : s.now ≤ s'.now) : Holds s' call tx :=
  ⟨undisturbed.account.trans holds.1, holds.2.trans later⟩

theorem Fresh.keep {tx : Preparation} (fresh : Fresh s call tx) (undisturbed : Undisturbed s.db s'.db call)
    (later : s.now ≤ s'.now) : Fresh s' call tx :=
  ⟨fresh.1.keep undisturbed later, undisturbed.key fresh.2⟩

theorem CallOk.keep (ok : CallOk s call) (keeps : Keeps s.db s'.db) (later : s.now ≤ s'.now)
    (undisturbed : call.phase.holdsAccount = true → Undisturbed s.db s'.db call) : CallOk s' call := by
  constructor
  · unfold Payments.authenticated
    rw [keeps.connections]
    exact ok.authenticated
  · have known := ok.phase
    cases phase : call.phase <;> rw [phase] at known undisturbed
    case cancelling candidates => exact fun candidate member => (known candidate member).keep keeps
    case locking => exact known.trans later
    case locked => exact known.keep (undisturbed rfl) later
    case fresh => exact known.keep (undisturbed rfl) later
    case quoted => exact ⟨known.1.keep (undisturbed rfl) later, known.2⟩
    case sourced | gated => exact ⟨known.1.keep (undisturbed rfl) later, known.2.1, known.2.2.keep keeps⟩
    case cleared => exact ⟨known.1.keep (undisturbed rfl) later, known.2.1, known.2.2.1.keep keeps, known.2.2.2⟩
    case resuming => exact known.keep keeps
    case resumingSource => exact ⟨known.1.keep keeps, known.2.1.keep keeps, known.2.2⟩
    case resumingApproval => exact ⟨known.1.keep keeps, known.2.1.keep keeps, known.2.2.1, known.2.2.2.keep keeps⟩
    case prepared | unready | preflighted | consuming | approved | submitted | settling | answered | evidenced =>
      exact PaymentOk.keep known keeps
    case started | cleaned | discovering | discovered | returned | failed | crashed => trivial

/-! ## Every state of a run -/

structure Sound (s : State) : Prop where
  linked : Linked s.db
  calls : ∀ call ∈ s.calls, CallOk s call
  exclusive : ∀ call ∈ s.calls, ∀ call' ∈ s.calls, call.phase.holdsAccount = true → call'.phase.holdsAccount = true →
    accountOf call.auth = accountOf call'.auth → call = call'

theorem accountLocked_eq_false {account : AccountId} :
    s.accountLocked account = false ↔
      ∀ call ∈ s.calls, call.phase.holdsAccount = true → accountOf call.auth ≠ account := by
  simp only [State.accountLocked, List.any_eq_false, decide_eq_true_eq, not_and, Table.mem_def]
  constructor
  · intro free call member holds same
    exact free call member same holds
  · intro free call member same holds
    exact free call member holds same

theorem reservationAccountLocked_eq_false {id : ReservationId} {row : PaymentReservationRow}
    (free : reservationAccountLocked s id = false) (found : s.db.reservations.find? id = some row) :
    s.accountLocked row.account = false := by
  simpa [reservationAccountLocked, found] using free

theorem Amends.attemptFor {connectionId : ConnectionId} {key : String} (amends : Amends db db')
    (missing : db.attemptFor connectionId key = none) : db'.attemptFor connectionId key = none := by
  rw [attemptFor_eq_none] at missing ⊢
  intro t' member connection
  obtain ⟨t, found, revises⟩ := amends.attempts.source (Table.find?_of_mem member)
  rw [revises.same] at connection ⊢
  exact missing t (Table.mem_of_find? found) connection

theorem Recounted.other {accounts accounts' : Table AgentPaymentAccountRow.key} {account other : AccountId}
    {reserved spent : Nat → Nat} (counted : Recounted accounts account reserved spent accounts')
    (apart : other ≠ account) : accounts'.find? other = accounts.find? other := by
  cases counted with
  | missing => rfl
  | @counted row found =>
    refine Table.find?_put_ne ?_
    show row.key ≠ other
    rw [Table.key_of_find? found]
    exact apart.symm

theorem Configured.other {account other : AccountId} {input : SetAgentPaymentAccessInput}
    (configured : Configured db account input db') (apart : other ≠ account) :
    db'.accounts.find? other = db.accounts.find? other := by
  cases configured with
  | @updated row found =>
    refine Table.find?_put_ne ?_
    show row.key ≠ other
    rw [Table.key_of_find? found]
    exact apart.symm
  | opened key missing inserted unused budget =>
    refine Table.find?_insert?_ne inserted ?_
    rw [key]
    exact apart.symm

theorem cancelCandidates_other {auth : ConnectionAuthResult} {candidates : List StrandedCandidate} {other : AccountId}
    (cancelled : cancelCandidates auth db candidates = .ok db') (apart : other ≠ accountOf auth) :
    db'.accounts.find? other = db.accounts.find? other := by
  refine cancelCandidates_invariant (fun db' => db'.accounts.find? other = db.accounts.find? other) cancelled rfl ?_
  rintro candidate - db₁ db₂ same one
  cases one with
  | passed => exact same
  | released foundReservation isOpen foundAccount covers foundAttempt reserved =>
    have counted : Recounted db₁.accounts (accountOf auth) (· - candidate.amount_usdc) id _ := .counted foundAccount
    exact (counted.other apart).trans same

theorem Finalized.other {now : Time} {auth : ConnectionAuthResult} {payment : PreparedPaidHttpPayment}
    {settlement : RuntimeX402SettlementResult} {eventId : EventId} {result : RuntimeX402PaymentResult}
    {other : AccountId} (finalized : Finalized db now auth payment settlement eventId db' result)
    (apart : recordedStatus settlement = .unknown ∨ other ≠ accountOf auth) :
    db'.accounts.find? other = db.accounts.find? other := by
  cases finalized with
  | settled answered status inScope counted covers debited inserted =>
    rcases apart with unknown | apart
    · simp [recordedStatus, settlementStatus, answered, status] at unknown
    · exact counted.other apart
  | failed status inScope counted covers inserted =>
    rcases apart with unknown | apart
    · simp [recordedStatus, status] at unknown
    · exact counted.other apart
  | unknown => rfl

theorem OperatorWrite.other {account : AccountId} (write : OperatorWrite hashes s label db)
    (locked : s.accountLocked account = true) : db.accounts.find? account = s.db.accounts.find? account := by
  have apart {other : AccountId} (free : s.accountLocked other = false) : account ≠ other := by
    rintro rfl
    rw [locked] at free
    cases free
  cases write with
  | configured free configured => exact configured.other (apart free)
  | resolved free resolved =>
    obtain ⟨row, found, isOpen, -, resolved⟩ := resolveUnknownAttempt_ok resolved
    have free := reservationAccountLocked_eq_false free found
    cases resolved with
    | failed counted covers => exact counted.other (apart free)
    | settled counted covers => exact counted.other (apart free)
  | released free released =>
    obtain ⟨row, accounts, found, isOpen, counted, covers, rfl⟩ := releaseOnProof_ok released
    exact counted.other (apart (reservationAccountLocked_eq_false free found))
  | jobFunded funded =>
    cases fundEscrowJob_ok funded with
    | funded found isOpen inserted => rfl
  | jobMoved moved =>
    obtain ⟨reservations, rfl, -⟩ := moved.tables
    rfl
  | unchanged | registry | purged | jobCreated => rfl

theorem OperatorWrite.attemptFor {connectionId : ConnectionId} {key : String} (write : OperatorWrite hashes s label db)
    (missing : s.db.attemptFor connectionId key = none) : db.attemptFor connectionId key = none := by
  rcases write.amends with ⟨amends, -⟩ | ⟨id, reservationId, onchain, -, funded⟩
  · exact amends.attemptFor missing
  · cases fundEscrowJob_ok funded with
    | funded found isOpen inserted => exact missing

theorem authenticated_spec {auth : ConnectionAuthResult} (auths : authenticated db auth = true) :
    ∃ c, db.connections.find? auth.connection_id = some c ∧ c.org_id = auth.org_id ∧ c.agent_id = auth.agent_id := by
  simpa [authenticated, Option.any_eq_true] using auths

theorem account_of_connection {auth auth' : ConnectionAuthResult} (auths : authenticated db auth = true)
    (auths' : authenticated db auth' = true) (same : auth.connection_id = auth'.connection_id) :
    accountOf auth = accountOf auth' := by
  obtain ⟨c, found, org, agent⟩ := authenticated_spec auths
  obtain ⟨c', found', org', agent'⟩ := authenticated_spec auths'
  rw [same, found'] at found
  obtain rfl := Option.some.inj found
  simp only [accountOf, Prod.mk.injEq]
  exact ⟨org.symm.trans org', agent.symm.trans agent'⟩

namespace Sound

theorem callOk (sound : Sound s) {id : CallId} (found : s.calls.find? id = some call) : CallOk s call :=
  sound.calls call (Table.mem_of_find? found)

theorem known (sound : Sound s) {id : CallId} (found : s.calls.find? id = some call) {phase : Phase}
    (located : call.phase = phase) : PhaseOk s call phase := by
  rw [← located]
  exact (sound.callOk found).phase

section Write

variable {id : CallId} {event : CallEvent}

theorem prepared (sound : Sound s) (found : s.calls.find? id = some call) {tx : Preparation} {quote : RuntimeQuote}
    {source : PaymentSourceRow} {gate : PolicyGate} {approvalRequired : Option String} {attemptId : AttemptId}
    {reservationId : ReservationId} {payment : PreparedPaidHttpPayment}
    (phase : call.phase = .cleared tx quote source gate approvalRequired)
    (written : writePrepared hashes s.db tx.began call.auth call.idempotencyKey call.requestHash quote source
      tx.required.resource gate attemptId reservationId = .ok (db, payment)) :
    Prepared hashes s.db tx.began call.auth call.idempotencyKey call.requestHash quote source tx.required.resource gate
      attemptId reservationId db payment := by
  obtain ⟨fresh, -⟩ := sound.known found phase
  exact writePrepared_ok fresh.2 written

theorem call_amends (sound : Sound s) (found : s.calls.find? id = some call) (write : CallWrite hashes s call event db) :
    Amends s.db db ∨ ∃ (tx : Preparation) (quote : RuntimeQuote) (source : PaymentSourceRow) (gate : PolicyGate)
        (attemptId : AttemptId) (reservationId : ReservationId) (payment : PreparedPaidHttpPayment),
      Prepared hashes s.db tx.began call.auth call.idempotencyKey call.requestHash quote source tx.required.resource gate
        attemptId reservationId db payment := by
  cases write with
  | unchanged => exact .inl (.refl s.db)
  | stranded phase free cancelled => exact .inl (cancelCandidates_amends cancelled)
  | scrubbed scrubbed => exact .inl (.scrub scrubbed)
  | prepared phase written => exact .inr ⟨_, _, _, _, _, _, _, sound.prepared found phase written⟩
  | revised located revises early => exact .inl (.putAttempt revises located)
  | finalized phase free finalized => exact .inl (finalizePaidHttpPayment_ok finalized).amends

theorem call_keeps (sound : Sound s) (found : s.calls.find? id = some call) (write : CallWrite hashes s call event db) :
    Keeps s.db db := by
  rcases sound.call_amends found write with amends | ⟨tx, quote, source, gate, attemptId, reservationId, payment, prepared⟩
  · exact amends.keeps
  · exact prepared.keeps

theorem call_linked (sound : Sound s) (found : s.calls.find? id = some call) (write : CallWrite hashes s call event db) :
    Linked db := by
  cases write with
  | unchanged => exact sound.linked
  | stranded phase free cancelled =>
    refine sound.linked.amend (cancelCandidates_amends cancelled) ?_
    refine cancelCandidates_invariant (SameJobs s.db) cancelled (.refl s.db) ?_
    rintro candidate - db₁ db₂ same one
    cases one <;> exact same
  | scrubbed scrubbed => exact sound.linked.amend (.scrub scrubbed) (.refl s.db)
  | prepared phase written =>
    obtain ⟨fresh, quoted, source, -⟩ := sound.known found phase
    obtain ⟨row, located, -, -, active⟩ := source
    exact sound.linked.prepare (sound.prepared found phase written) fresh.2 quoted ⟨row, located, active⟩ ⟨_, fresh.1.1⟩
  | revised located revises early => exact sound.linked.amend (.putAttempt revises located) (.refl s.db)
  | finalized phase free finalized =>
    have written := finalizePaidHttpPayment_ok finalized
    refine sound.linked.amend written.amends ?_
    cases written <;> exact .refl s.db

theorem call_undisturbed (sound : Sound s) (found : s.calls.find? id = some call)
    (write : CallWrite hashes s call event db) {other : Call} (member : other ∈ s.calls)
    (holds : other.phase.holdsAccount = true) (apart : other ≠ call) : Undisturbed s.db db other := by
  have free {account : AccountId} (unlocked : s.accountLocked account = false) : accountOf other.auth ≠ account :=
    accountLocked_eq_false.mp unlocked other member holds
  cases write with
  | unchanged => exact ⟨rfl, fun missing => missing⟩
  | stranded phase unlocked cancelled =>
    refine ⟨?_, (cancelCandidates_amends cancelled).attemptFor⟩
    rcases unlocked with rfl | unlocked
    · obtain rfl := Except.ok.inj cancelled
      rfl
    · exact cancelCandidates_other cancelled (free unlocked)
  | scrubbed scrubbed => exact ⟨rfl, (Amends.scrub scrubbed).attemptFor⟩
  | prepared phase written =>
    have held : call.phase.holdsAccount = true := by rw [phase]; rfl
    have accountsApart : accountOf other.auth ≠ accountOf call.auth := fun same =>
      apart (sound.exclusive other member call (Table.mem_of_find? found) holds held same)
    obtain ⟨attempts, reservations, accounts, insertedAttempt, -, counted, rfl⟩ := (sound.prepared found phase written).tables
    refine ⟨counted.other accountsApart, ?_⟩
    intro missing
    rw [attemptFor_eq_none] at missing ⊢
    intro t stored connection
    rcases (Table.mem_insert? insertedAttempt).mp stored with rfl | stored
    · exact (accountsApart (account_of_connection (sound.calls other member).authenticated
        (sound.callOk found).authenticated connection.symm)).elim
    · exact missing t stored connection
  | revised located revises early => exact ⟨rfl, (Amends.putAttempt revises located).attemptFor⟩
  | finalized phase unlocked finalized =>
    have written := finalizePaidHttpPayment_ok finalized
    refine ⟨written.other ?_, written.amends.attemptFor⟩
    rcases unlocked with unknown | unlocked
    · exact .inl unknown
    · exact .inr (free unlocked)

end Write

theorem keeps (sound : Sound s) (write : Write hashes s label db) : Keeps s.db db := by
  cases write with
  | unchanged => exact .refl s.db
  | operator write => exact write.keeps
  | call found write => exact sound.call_keeps found write

end Sound

theorem Sound.linked_of_write (sound : Sound s) (write : Write hashes s label db) : Linked db := by
  cases write with
  | unchanged => exact sound.linked
  | operator write => exact sound.linked.operator write
  | call found write => exact sound.call_linked found write

/-! ## What a call learns from a statement -/

theorem mem_strandedCandidates {approvals : Approvals.Requests} {now : Time} {auth : ConnectionAuthResult}
    {candidate : StrandedCandidate} (member : candidate ∈ strandedCandidates db approvals now auth) :
    ∃ t ∈ db.attempts, ∃ r ∈ db.reservations, isStranded approvals now auth t r = true ∧
      candidate = candidateOf approvals now t r := by
  unfold strandedCandidates at member
  rw [List.mem_insertionSort, List.mem_flatMap] at member
  obtain ⟨t, stored, member⟩ := member
  obtain ⟨r, filtered, rfl⟩ := List.mem_map.mp member
  obtain ⟨storedRow, stranded⟩ := List.mem_filter.mp filtered
  exact ⟨t, stored, r, storedRow, stranded, rfl⟩

theorem candidateOk_of_stranded {approvals : Approvals.Requests} {now : Time} {auth : ConnectionAuthResult}
    {candidate : StrandedCandidate} (member : candidate ∈ strandedCandidates db approvals now auth) :
    CandidateOk db auth candidate := by
  obtain ⟨t, -, r, storedRow, stranded, rfl⟩ := mem_strandedCandidates member
  simp only [isStranded, decide_eq_true_eq] at stranded
  obtain ⟨org, agent, reason, sameOrg, sameAgent, -⟩ := stranded
  refine ⟨r, Table.find?_of_mem storedRow, ?_, rfl, reason⟩
  simp only [PaymentReservationRow.account, accountOf, sameOrg, org, sameAgent, agent]

theorem SameAttempt.symm {row row' : X402AttemptRow} (same : SameAttempt row row') : SameAttempt row' row := by
  unfold SameAttempt at *
  rw [same]

theorem checkActiveAccount_ok {frozen : Bool} {agentStatus : AgentStatus} {row account : AgentPaymentAccountRow}
    (checked : checkActiveAccount frozen agentStatus row = .ok account) :
    account = row ∧ frozen = false ∧ agentStatus ≠ .paused ∧ agentStatus ≠ .suspended ∧ row.status = .active ∧
      row.payment_access = true := by
  unfold checkActiveAccount at checked
  split at checked
  · cases checked
  rename_i unfrozen
  split at checked
  · cases checked
  rename_i running
  split at checked
  · cases checked
  rename_i active
  obtain rfl := Except.ok.inj checked
  push Not at running active
  exact ⟨rfl, by simpa using unfrozen, running.1, running.2, active.1, by simpa using active.2⟩

theorem selectQuote_ok {auth : ConnectionAuthResult} {account : AgentPaymentAccountRow}
    {accepts : List RuntimeX402Accept} {quote : RuntimeQuote} (selected : selectQuote db auth account accepts = .ok quote) :
    Quoted quote ∧ db.destinationAllowed auth.org_id quote.chain quote.recipient = true := by
  unfold selectQuote at selected
  split at selected
  · cases selected
  rename_i supported
  split at selected
  · cases selected
  split at selected
  · cases selected
  rename_i found
  split at selected
  · rename_i allowed
    obtain rfl := Except.ok.inj selected
    exact ⟨(mem_supportedRuntimeQuotes supported (List.mem_of_find?_eq_some found)).2, allowed⟩
  · cases selected

theorem checkSource_ok {quote : RuntimeQuote} {source source' : PaymentSourceRow}
    (checked : checkSource quote source = .ok source') : source' = source := by
  unfold checkSource at checked
  split at checked
  · cases checked
  split at checked
  · cases checked
  split at checked
  · cases checked
  split at checked
  · cases checked
  exact (Except.ok.inj checked).symm

theorem activePaymentSource_ok {orgId : OrgId} {rail : PaymentRail} {chain : PaymentChain} {source : PaymentSourceRow}
    (selected : activePaymentSource db orgId rail chain = .ok source) :
    source ∈ db.sources ∧ source.org_id = orgId ∧ source.status = .active := by
  unfold activePaymentSource at selected
  simp only at selected
  split at selected
  · cases selected
  rename_i head
  obtain rfl := Except.ok.inj selected
  have member := List.mem_of_mem_head? head
  rw [List.mem_insertionSort] at member
  obtain ⟨stored, matched⟩ := List.mem_filter.mp member
  simp only [decide_eq_true_eq] at matched
  exact ⟨stored, matched.1, matched.2.2.2⟩

theorem selectSource_ok {auth : ConnectionAuthResult} {quote : RuntimeQuote} {source : PaymentSourceRow}
    (selected : (activePaymentSource db auth.org_id quote.rail quote.chain).bind (checkSource quote) = .ok source) :
    SourceOk db auth source := by
  obtain ⟨row, found, checked⟩ := bind_eq_ok.mp selected
  obtain rfl := checkSource_ok checked
  obtain ⟨stored, org, active⟩ := activePaymentSource_ok found
  exact ⟨source, Table.find?_of_mem stored, .refl source, org, active⟩

theorem checkLimits_ok {tx : Preparation} {quote : RuntimeQuote} {source : PaymentSourceRow} {approvalRequired : Bool}
    {readinessFailure : Option IdentityError} {spendable : Option Nat}
    (within : checkLimits tx.account quote source approvalRequired readinessFailure spendable = .ok ()) :
    Limits tx quote := by
  unfold checkLimits at within
  simp only at within
  split at within
  · cases within
  split at within
  · cases within
  split at within
  · cases within
  rename_i budget
  exact Nat.le_of_not_lt budget

theorem openReservation_spec {auth : ConnectionAuthResult} {attemptId : AttemptId} {r : PaymentReservationRow}
    (found : db.openReservation auth attemptId = some r) :
    r ∈ db.reservations ∧ r.reason_code = .x402Attempt attemptId ∧ r.status = .reserved := by
  have matched := List.find?_some found
  simp only [decide_eq_true_eq] at matched
  exact ⟨List.mem_of_find?_eq_some found, matched.2.2.1, matched.2.2.2⟩

theorem attemptSource_ok {auth : ConnectionAuthResult} {attempt : X402AttemptRow} {source : PaymentSourceRow}
    (found : db.attemptSource attempt auth.org_id = .ok source) : SourceOk db auth source := by
  unfold Db.attemptSource at found
  split at found
  · cases found
  rename_i row located
  split at found
  · rename_i eligible
    obtain rfl := Except.ok.inj found
    exact ⟨row, by rw [Table.key_of_find? located]; exact located, .refl row, eligible.1, eligible.2⟩
  · cases found

theorem resumeQuote_ok {attempt : X402AttemptRow} {r : PaymentReservationRow} {quote : RuntimeQuote}
    {payload : QuotePayload} (resumed : resumeQuote attempt r = .ok (quote, payload)) :
    r.quote = some payload ∧ quoteFromAccept payload.accept orgPaymentMode = .ok (some quote) ∧
      r.quote_hash = attempt.quote_hash := by
  unfold resumeQuote at resumed
  simp only at resumed
  split at resumed
  · cases resumed
  rename_i stored
  split at resumed
  · cases resumed
  · cases resumed
  rename_i quoted
  split at resumed
  · rename_i sameHash
    obtain ⟨rfl, rfl⟩ := Prod.mk.inj (Except.ok.inj resumed)
    exact ⟨stored, quoted, sameHash⟩
  · cases resumed

theorem resumePayment_ok {approvals : Approvals.Requests} {auth : ConnectionAuthResult} {attempt : X402AttemptRow}
    {finalizing hookAllows : Bool} {r : PaymentReservationRow} {source : PaymentSourceRow}
    {destination : Except Failure Unit} {payment : PreparedPaidHttpPayment}
    (resumed : resumePayment approvals auth attempt finalizing r source hookAllows destination = .ok payment) :
    ∃ quote payload, resumeQuote attempt r = .ok (quote, payload) ∧
      checkResumeApproval approvals auth attempt finalizing hookAllows = .ok () ∧
      payment = resumedPayment attempt r source quote payload := by
  unfold resumePayment at resumed
  obtain ⟨⟨quote, payload⟩, quoted, resumed⟩ := bind_eq_ok.mp resumed
  obtain ⟨_, approved, resumed⟩ := bind_eq_ok.mp resumed
  obtain ⟨_, -, resumed⟩ := bind_eq_ok.mp resumed
  exact ⟨quote, payload, quoted, approved, (Except.ok.inj resumed).symm⟩

theorem paymentOk_of_resumed {approvals : Approvals.Requests} {attempt : X402AttemptRow} {finalizing hookAllows : Bool}
    {r : PaymentReservationRow} {source : PaymentSourceRow} {destination : Except Failure Unit}
    {payment : PreparedPaidHttpPayment} {stage : Nat}
    (resumed : resumePayment approvals call.auth attempt finalizing r source hookAllows destination = .ok payment)
    (attemptOk : AttemptOk db call attempt stage) (reservationOk : ReservationOk db attempt r.id)
    (backs : Backs r attempt) (sourceOk : SourceOk db call.auth source) : PaymentOk db call payment stage := by
  obtain ⟨quote, payload, resumedQuote, -, rfl⟩ := resumePayment_ok resumed
  obtain ⟨stored, quoted, -⟩ := resumeQuote_ok resumedQuote
  have sameAccept := (quoteFromAccept_spec quoted).1
  obtain ⟨payload', quote', stored', quoted', amount⟩ := backs.quote
  obtain rfl : payload = payload' := Option.some.inj (stored.symm.trans stored')
  obtain rfl : quote = quote' := Option.some.inj (Except.ok.inj (quoted.symm.trans quoted'))
  refine ⟨attemptOk, reservationOk, amount.symm, ?_, sourceOk⟩
  show quoteFromAccept quote.accept orgPaymentMode = .ok (some quote)
  rw [sameAccept]
  exact quoted

theorem phaseOk_of_ended {phase : Phase} (ended : phase.ended = true) : PhaseOk s call phase := by
  cases phase <;> trivial

theorem attemptOk_of_found (linked : Linked db) (auths : authenticated db call.auth = true) {row : X402AttemptRow}
    (found : db.attemptFor call.auth.connection_id call.idempotencyKey = some row)
    (sameRequest : row.request_hash = call.requestHash) : AttemptOk db call row row.status.stage := by
  obtain ⟨stored, connection, key⟩ := attemptFor_eq_some found
  obtain ⟨c, located, org, agent⟩ := linked.connection row stored
  obtain ⟨c', located', org', agent'⟩ := authenticated_spec auths
  rw [connection, located'] at located
  obtain rfl := Option.some.inj located
  exact ⟨org.symm.trans org', agent.symm.trans agent', connection, key, sameRequest, row, Table.find?_of_mem stored, rfl,
    le_rfl⟩

theorem AttemptOk.scrub {row : X402AttemptRow} {stage : Nat} (ok : AttemptOk db call row stage) (now : Time) :
    AttemptOk db call (row.scrub now) stage := by
  have same := (scrub_revises row now).same
  obtain ⟨stored, found, sameStored, reached⟩ := ok.stored
  constructor
  · rw [same]
    exact ok.org
  · rw [same]
    exact ok.agent
  · rw [same]
    exact ok.connection
  · rw [same]
    exact ok.key
  · rw [same]
    exact ok.request
  · exact ⟨stored, by rw [scrub_id]; exact found, same.symm.trans sameStored, reached⟩

theorem AttemptOk.mono {row : X402AttemptRow} {stage stage' : Nat} (ok : AttemptOk db call row stage)
    (less : stage' ≤ stage) : AttemptOk db call row stage' := by
  obtain ⟨stored, found, same, reached⟩ := ok.stored
  exact { ok with stored := ⟨stored, found, same, less.trans reached⟩ }

theorem afterFind_cases (call : Call) (row : X402AttemptRow) :
    (afterFind call (some row)).ended = true ∨
      ∃ evidence, afterFind call (some row) = .resuming row evidence ∧ row.request_hash = call.requestHash ∧
        row.org_id = call.auth.org_id ∧ row.status.stage = evidenceStage evidence := by
  simp only [afterFind]
  split
  · exact .inl rfl
  rename_i inScope
  split
  · exact .inl rfl
  rename_i sameRequest
  push Not at inScope sameRequest
  have withoutEvidence :
      (if row.status ≠ .reserved then Phase.returned (paymentResultFromAttempt row) else .resuming row none).ended = true ∨
      ∃ evidence, (if row.status ≠ .reserved then Phase.returned (paymentResultFromAttempt row)
          else .resuming row none) = .resuming row evidence ∧
        row.request_hash = call.requestHash ∧ row.org_id = call.auth.org_id ∧
          row.status.stage = evidenceStage evidence := by
    split
    · exact .inl rfl
    · rename_i reserved
      exact .inr ⟨none, rfl, sameRequest, inScope.1, X402AttemptStatus.stage_eq_zero.mpr (not_not.mp reserved)⟩
  split
  · exact .inl rfl
  · rename_i settlement retained
    split
    · rename_i submitting
      exact .inr ⟨some settlement, rfl, sameRequest, inScope.1, by rw [submitting]; rfl⟩
    · exact withoutEvidence
  · exact withoutEvidence

theorem Approvals.step_later {a a' : Approvals.State} {label : Approvals.Label}
    (taken : Approvals.step a label = some a') : a.now ≤ a'.now := by
  cases Approvals.step_inversion taken with
  | tick later => exact later
  | created | opened | lockRefused | locked | voteRefused | voted | abandoned | denyRefused | denied | checked
  | policyRefused | rechecked | consumeRefused | consumed => exact le_rfl

theorem AttemptOk.moved {row : X402AttemptRow} {stage : Nat} (ok : AttemptOk db call row stage) (phase : Phase) :
    AttemptOk db { call with phase } row stage :=
  ⟨ok.org, ok.agent, ok.connection, ok.key, ok.request, ok.stored⟩

theorem PaymentOk.moved {payment : PreparedPaidHttpPayment} {stage : Nat} (ok : PaymentOk db call payment stage)
    (phase : Phase) : PaymentOk db { call with phase } payment stage :=
  ⟨ok.attempt.moved phase, ok.reservation, ok.amount, ok.quote, ok.source⟩

theorem PhaseOk.moved {known : Phase} (ok : PhaseOk s call known) (phase : Phase) :
    PhaseOk s { call with phase } known := by
  cases known
  case resuming => exact AttemptOk.moved ok phase
  case resumingSource => exact ⟨ok.1.moved phase, ok.2⟩
  case resumingApproval => exact ⟨ok.1.moved phase, ok.2⟩
  case prepared | unready | preflighted | consuming | approved | submitted | settling | answered | evidenced =>
    exact PaymentOk.moved ok phase
  all_goals exact ok

theorem paymentOk_of_prepared {began : Time} {quote : RuntimeQuote} {source : PaymentSourceRow} {resource : JsonObject}
    {gate : PolicyGate} {attemptId : AttemptId} {reservationId : ReservationId} {payment : PreparedPaidHttpPayment}
    (prepared : Prepared hashes db began call.auth call.idempotencyKey call.requestHash quote source resource gate
      attemptId reservationId db' payment)
    (quoted : Quoted quote) (sourceOk : SourceOk db call.auth source) : PaymentOk db' call payment 0 := by
  have keeps := prepared.keeps
  have attemptIs := prepared.attempt
  obtain ⟨-, -, quoteIs, reservationIs, sourceIs⟩ := prepared.rest
  obtain ⟨attempts, reservations, accounts, insertedAttempt, insertedReservation, counted, rfl⟩ := prepared.tables
  rw [prepared.payload] at insertedReservation
  have located := Table.find?_insert?_self insertedAttempt
  have backs : Backs (reservationOf reservationId began call.auth quote source attemptId payment.quoteHash
        (quotePayloadOf quote resource source))
      (preparedAttempt attemptId
        (attemptInput call.auth call.idempotencyKey call.requestHash payment.quoteHash quote source) gate
        payment.quotePayload.mode reservationId) :=
    reservationOf_backs quoted payment.quoteHash payment.quotePayload.mode
  constructor
  · rw [attemptIs]
    exact ⟨rfl, rfl, rfl, rfl, rfl, _, located, rfl, Nat.zero_le _⟩
  · rw [attemptIs, reservationIs]
    exact ⟨_, Table.find?_insert?_self insertedReservation, backs.revise (.refl _) rfl⟩
  · rw [attemptIs, quoteIs]
    rfl
  · rw [quoteIs]
    exact quoted
  · rw [sourceIs]
    exact sourceOk.keep keeps

theorem PaymentOk.mono {payment : PreparedPaidHttpPayment} {stage stage' : Nat} (ok : PaymentOk db call payment stage)
    (less : stage' ≤ stage) : PaymentOk db call payment stage' :=
  { ok with attempt := ok.attempt.mono less }

theorem PaymentOk.submit {payment : PreparedPaidHttpPayment} {row : X402AttemptRow} (ok : PaymentOk db call payment 0)
    (inScope : Scoped db call.auth payment.attempt.id .reserved row) :
    PaymentOk { db with attempts := db.attempts.put { row with status := .submitting } } call payment 1 := by
  have kept := ok.keep (Amends.putAttempt (submitting_revises inScope.status) inScope.located).keeps
  obtain ⟨stored, found, same, -⟩ := ok.attempt.stored
  obtain rfl : row = stored := Option.some.inj (inScope.found.symm.trans found)
  have marked := Table.find?_put_self (r := { row with status := X402AttemptStatus.submitting }) inScope.located
  have stored' : ∃ row', ({ db with attempts := db.attempts.put { row with status := .submitting } } : Db).attempts.find?
      payment.attempt.id = some row' ∧ SameAttempt payment.attempt row' ∧ 1 ≤ row'.status.stage := by
    rw [← Table.key_of_find? found]
    exact ⟨_, marked, same.trans rfl, le_rfl⟩
  exact { kept with attempt := { kept.attempt with stored := stored' } }

namespace Sound

variable {id : CallId} {event : CallEvent} {effect : Effect}

theorem phaseOk (sound : Sound s) (found : s.calls.find? id = some call) (taken : CallStep hashes s call event effect)
    (calls : Table Call.id) : PhaseOk ⟨effect.approvals, effect.db, calls⟩ call effect.phase := by
  have keeps := sound.call_keeps found taken.write
  have auths := (sound.callOk found).authenticated
  cases taken with
  | ends ended => exact phaseOk_of_ended ended
  | selectStranded phase => exact fun candidate member => candidateOk_of_stranded member
  | commitStranded => trivial
  | findAttempt phase read =>
    rcases findAttempt_some read with ⟨rfl, rfl, -⟩ | ⟨row, located, rfl, rfl⟩
    · trivial
    · rcases afterFind_cases call (row.scrub s.now) with ended | ⟨evidence, next, sameRequest, -, stage⟩
      · exact phaseOk_of_ended ended
      · have requested : row.request_hash = call.requestHash := by
          rw [(scrub_revises row s.now).same] at sameRequest
          exact sameRequest
        have ok := (attemptOk_of_found sound.linked auths located requested).scrub s.now
        rw [scrub_status] at stage
        rw [stage] at ok
        simp only [next]
        exact AttemptOk.keep ok keeps
  | discover => trivial
  | snapshotAccount => exact le_rfl
  | lockAccount phase free located checked =>
    obtain ⟨rfl, -⟩ := checkActiveAccount_ok checked
    exact ⟨located, sound.known found phase⟩
  | fresh phase missing => exact ⟨sound.known found phase, missing⟩
  | raced => trivial
  | selectQuote phase selected => exact ⟨sound.known found phase, (selectQuote_ok selected).1⟩
  | selectSource phase selected =>
    obtain ⟨fresh, quoted⟩ := sound.known found phase
    exact ⟨fresh, quoted, selectSource_ok selected⟩
  | permitted phase enforced => exact sound.known found phase
  | approvalRequested phase enforced created =>
    obtain ⟨⟨⟨account, began⟩, missing⟩, rest⟩ := sound.known found phase
    exact ⟨⟨⟨account, began.trans (Approvals.step_later created)⟩, missing⟩, rest⟩
  | checkLimits phase within =>
    obtain ⟨fresh, quoted, source⟩ := sound.known found phase
    exact ⟨fresh, quoted, source, checkLimits_ok within⟩
  | commitPrepare phase written goes =>
    rcases goes with ⟨-, rfl⟩ | ended
    · obtain ⟨fresh, quoted, source, -⟩ := sound.known found phase
      exact paymentOk_of_prepared (sound.prepared found phase written) quoted source
    · exact phaseOk_of_ended ended
  | readReservation phase located =>
    have ok : AttemptOk s.db call _ _ := sound.known found phase
    obtain ⟨stored, reason, -⟩ := openReservation_spec located
    obtain ⟨t, foundAttempt, backs⟩ := sound.linked.owner _ stored _ reason
    obtain ⟨row, located', same, -⟩ := ok.stored
    obtain rfl : t = row := Option.some.inj (foundAttempt.symm.trans located')
    have backs' := backs.revise (.refl _) same.symm
    exact ⟨ok, ⟨_, Table.find?_of_mem stored, backs'⟩, backs'⟩
  | readSource phase located =>
    obtain ⟨ok, reservationOk, backs⟩ := sound.known found phase
    exact ⟨ok, reservationOk, backs, attemptSource_ok located⟩
  | readApproval phase resumed =>
    obtain ⟨ok, reservationOk, backs, source⟩ := sound.known found phase
    exact paymentOk_of_resumed resumed ok reservationOk backs source
  | readEvidence phase resumed =>
    obtain ⟨ok, reservationOk, backs, source⟩ := sound.known found phase
    exact paymentOk_of_resumed resumed ok reservationOk backs source
  | preflighted phase | unready phase | consumeApproval phase | consumed phase =>
    have ok : PaymentOk s.db call _ 0 := sound.known found phase
    exact ok
  | markRetryable => trivial
  | @markSubmitting payment db phase marked =>
    have ok : PaymentOk s.db call payment 0 := by
      rcases phase with ⟨phase, -⟩ | phase
      · exact sound.known found phase
      · exact sound.known found phase
    obtain ⟨row, inScope, rfl⟩ := markSubmitting_ok marked
    exact ok.submit inScope
  | simulateSettlement phase | callProvider phase | answer phase =>
    have ok : PaymentOk s.db call _ 1 := sound.known found phase
    exact ok
  | persistEvidence phase persisted =>
    have ok : PaymentOk s.db call _ 1 := sound.known found phase
    exact ok.keep keeps
  | finalize => trivial

theorem holds_of_step (taken : CallStep hashes s call event effect) (holds : effect.phase.holdsAccount = true) :
    call.phase.holdsAccount = true ∨ s.accountLocked (accountOf call.auth) = false := by
  cases taken with
  | lockAccount phase free located checked => exact .inr free
  | fresh phase | selectQuote phase | selectSource phase | permitted phase | approvalRequested phase
  | checkLimits phase =>
    left
    rw [phase]
    rfl
  | ends ended =>
    rename_i phase
    simp only [State.move] at holds
    cases phase <;> first | (cases holds; done) | cases ended
  | findAttempt phase read =>
    rename_i found
    cases found with
    | none => cases holds
    | some row =>
      rcases afterFind_cases call row with ended | ⟨evidence, next, -⟩
      · simp only at holds
        cases landed : afterFind call (some row) <;> simp [landed, Phase.ended, Phase.holdsAccount] at ended holds
      · simp [next, Phase.holdsAccount] at holds
  | commitPrepare phase written goes =>
    left
    rw [phase]
    rfl
  | selectStranded | commitStranded | discover | snapshotAccount | raced | readReservation | readSource | readApproval
  | readEvidence | preflighted | unready | markRetryable | consumeApproval | consumed | markSubmitting
  | simulateSettlement | callProvider | answer | persistEvidence | finalize => cases holds

theorem call_later (taken : CallStep hashes s call event effect) : s.now ≤ effect.approvals.now := by
  cases taken with
  | approvalRequested phase enforced created => exact Approvals.step_later created
  | consumeApproval phase gated started => exact Approvals.step_later started
  | ends | selectStranded | commitStranded | findAttempt | discover | snapshotAccount | lockAccount | fresh | raced
  | selectQuote | selectSource | permitted | checkLimits | commitPrepare | readReservation | readSource | readApproval
  | readEvidence | preflighted | unready | markRetryable | consumed | markSubmitting | simulateSettlement
  | callProvider | answer | persistEvidence | finalize => exact le_rfl

theorem step_call (sound : Sound s) (found : s.calls.find? id = some call) (taken : CallStep hashes s call event effect) :
    Sound ⟨effect.approvals, effect.db, s.calls.put { call with phase := effect.phase }⟩ := by
  have keeps := sound.call_keeps found taken.write
  have later := call_later taken
  have member := Table.mem_of_find? found
  refine ⟨sound.call_linked found taken.write, ?_, ?_⟩
  · intro other stored
    rcases Table.mem_put.mp stored with ⟨stored, apart⟩ | ⟨rfl, -⟩
    · refine (sound.calls other stored).keep keeps later fun holds => ?_
      exact sound.call_undisturbed found taken.write stored holds fun same => apart (by rw [same])
    · refine ⟨?_, (sound.phaseOk found taken _).moved _⟩
      unfold authenticated
      rw [keeps.connections]
      exact (sound.callOk found).authenticated
  · have alone (other : Call) (stored : other ∈ s.calls) (apart : other.id ≠ call.id)
        (holds : other.phase.holdsAccount = true) (moved : effect.phase.holdsAccount = true) :
        accountOf other.auth ≠ accountOf call.auth := by
      rcases holds_of_step taken moved with held | free
      · intro same
        exact apart (by rw [sound.exclusive other stored call member holds held same])
      · exact accountLocked_eq_false.mp free other stored holds
    intro call₁ stored₁ call₂ stored₂ holds₁ holds₂ same
    rcases Table.mem_put.mp stored₁ with ⟨stored₁, apart₁⟩ | ⟨rfl, -⟩ <;>
      rcases Table.mem_put.mp stored₂ with ⟨stored₂, apart₂⟩ | ⟨rfl, -⟩
    · exact sound.exclusive call₁ stored₁ call₂ stored₂ holds₁ holds₂ same
    · exact (alone call₁ stored₁ apart₁ holds₁ holds₂ same).elim
    · exact (alone call₂ stored₂ apart₂ holds₂ holds₁ same.symm).elim
    · rfl

theorem step (sound : Sound s) (taken : Step hashes s label s') : Sound s' := by
  cases taken with
  | approvals mayRun taken =>
    refine ⟨sound.linked, fun call member => ?_, sound.exclusive⟩
    exact (sound.calls call member).keep (.refl s.db) (Approvals.step_later taken)
      fun _ => ⟨rfl, fun missing => missing⟩
  | operator write =>
    refine ⟨sound.linked.operator write, fun call member => ?_, sound.exclusive⟩
    refine (sound.calls call member).keep write.keeps le_rfl fun holds => ⟨write.other ?_, write.attemptFor⟩
    cases locked : s.accountLocked (accountOf call.auth) with
    | true => rfl
    | false => exact (accountLocked_eq_false.mp locked call member holds rfl).elim
  | @opened id auth idempotencyKey requestHash calls auths inserted =>
    have idle : ∀ call ∈ calls, call.phase.holdsAccount = true → call ∈ s.calls := by
      intro call member holds
      rcases (Table.mem_insert? inserted).mp member with rfl | member
      · cases holds
      · exact member
    refine ⟨sound.linked, fun call member => ?_, ?_⟩
    · rcases (Table.mem_insert? inserted).mp member with rfl | member
      · exact ⟨auths, trivial⟩
      · exact (sound.calls call member).keep (.refl s.db) le_rfl fun _ => ⟨rfl, fun missing => missing⟩
    · intro call member call' member' holds holds' same
      exact sound.exclusive call (idle call member holds) call' (idle call' member' holds') holds holds' same
  | called found taken => exact sound.step_call found taken

end Sound

theorem Initial.sound {s : State} (initial : Initial s) : Sound s where
  linked := by
    constructor <;> simp [initial.attempts, initial.reservations, initial.escrowJobs]
  calls := by simp [initial.calls]
  exclusive := by simp [initial.calls]

theorem sound_of_run {s₀ s : State} {events : List (State × Label)} (initial : Initial s₀)
    (run : Run (step hashes) s₀ events s) : Sound s :=
  run.always Sound initial.sound fun _ _ _ sound taken => sound.step (step_inversion taken)

end AgentOps.Payments
