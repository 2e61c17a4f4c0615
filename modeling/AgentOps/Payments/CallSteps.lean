import AgentOps.Payments.Runtime

namespace AgentOps.Payments
open Lib Identity

variable {hashes : Hashes} {s s' : State} {call : Call}

inductive CallStep (hashes : Hashes) (s : State) (call : Call) : CallEvent → Effect → Prop where
  | ends {event : CallEvent} {phase : Phase} (ended : phase.ended = true) : CallStep hashes s call event (s.move phase)
  | selectStranded (phase : call.phase = .started) : CallStep hashes s call .selectStranded
      (s.move (.cancelling (strandedCandidates s.db s.approvals.approvals s.now call.auth)))
  | commitStranded {candidates : List StrandedCandidate} {db : Db} (phase : call.phase = .cancelling candidates)
      (free : candidates = [] ∨ s.accountLocked (accountOf call.auth) = false)
      (cancelled : cancelCandidates call.auth s.db candidates = .ok db) :
      CallStep hashes s call .commitStranded ⟨db, s.approvals, .cleaned⟩
  | findAttempt {db : Db} {found : Option X402AttemptRow} (phase : call.phase = .cleaned)
      (read : findAttempt s.db s.now call.auth.connection_id call.idempotencyKey = (db, found)) :
      CallStep hashes s call .findAttempt ⟨db, s.approvals, afterFind call found⟩
  | discover {required : PaymentRequired} (phase : call.phase = .discovering) :
      CallStep hashes s call (.discover (.ok required)) (s.move (.discovered required))
  | snapshotAccount {required : PaymentRequired} {account : AgentPaymentAccountRow} {org : OrgRow} {agent : AgentRow}
      (phase : call.phase = .discovered required) (accountFound : s.db.accounts.find? (accountOf call.auth) = some account)
      (orgFound : s.db.orgs.find? call.auth.org_id = some org)
      (agentFound : s.db.agents.find? call.auth.agent_id = some agent) :
      CallStep hashes s call .snapshotAccount (s.move (.locking s.now required org.frozen agent.status))
  | lockAccount {began : Time} {required : PaymentRequired} {frozen : Bool} {agentStatus : AgentStatus}
      {row account : AgentPaymentAccountRow} (phase : call.phase = .locking began required frozen agentStatus)
      (free : s.accountLocked (accountOf call.auth) = false)
      (found : s.db.accounts.find? (accountOf call.auth) = some row)
      (checked : checkActiveAccount frozen agentStatus row = .ok account) :
      CallStep hashes s call .lockAccount (s.move (.locked ⟨began, required, account⟩))
  | fresh {tx : Preparation} (phase : call.phase = .locked tx)
      (none : s.db.attemptFor call.auth.connection_id call.idempotencyKey = none) :
      CallStep hashes s call .findRacedAttempt (s.move (.fresh tx))
  | raced {tx : Preparation} {db : Db} {attempt : X402AttemptRow} (phase : call.phase = .locked tx)
      (read : AgentOps.Payments.findAttempt s.db tx.began call.auth.connection_id call.idempotencyKey =
        (db, some attempt)) (same : attempt.request_hash = call.requestHash) :
      CallStep hashes s call .findRacedAttempt ⟨db, s.approvals, .returned (racedResult attempt)⟩
  | selectQuote {tx : Preparation} {quote : RuntimeQuote} (phase : call.phase = .fresh tx)
      (selected : AgentOps.Payments.selectQuote s.db call.auth tx.account tx.required.accepts = .ok quote) :
      CallStep hashes s call .selectQuote (s.move (.quoted tx quote))
  | selectSource {tx : Preparation} {quote : RuntimeQuote} {source : PaymentSourceRow}
      (phase : call.phase = .quoted tx quote)
      (selected : (activePaymentSource s.db call.auth.org_id quote.rail quote.chain).bind (checkSource quote) = .ok source) :
      CallStep hashes s call .selectSource (s.move (.sourced tx quote source))
  | permitted {tx : Preparation} {quote : RuntimeQuote} {source : PaymentSourceRow} {policy : PolicyDecision}
      {approvalId : ApprovalId} (phase : call.phase = .sourced tx quote source)
      (enforced : enforceX402Policy tx.account quote policy = .ok false) :
      CallStep hashes s call (.enforcePolicy policy approvalId)
        (s.move (.gated tx quote source ⟨none, policy.id⟩ none))
  | approvalRequested {tx : Preparation} {quote : RuntimeQuote} {source : PaymentSourceRow} {policy : PolicyDecision}
      {approvalId : ApprovalId} {approvals : Approvals.State} {message : String}
      (phase : call.phase = .sourced tx quote source)
      (enforced : enforceX402Policy tx.account quote policy = .ok true)
      (created : Approvals.step s.approvals (.createApprovalRequest approvalId
        (approvalInput hashes call.auth tx.account quote (quotePayloadOf quote tx.required.resource source)
          call.requestHash policy)) = some approvals) :
      CallStep hashes s call (.enforcePolicy policy approvalId)
        ⟨s.db, approvals, .gated tx quote source ⟨some approvalId, policy.id⟩ (some message)⟩
  | checkLimits {tx : Preparation} {quote : RuntimeQuote} {source : PaymentSourceRow} {gate : PolicyGate}
      {approvalRequired : Option String} {readinessFailure : Option IdentityError} {spendable : Option Nat}
      (phase : call.phase = .gated tx quote source gate approvalRequired)
      (within : AgentOps.Payments.checkLimits tx.account quote source approvalRequired.isSome readinessFailure spendable =
        .ok ()) :
      CallStep hashes s call (.checkLimits readinessFailure spendable)
        (s.move (.cleared tx quote source gate approvalRequired))
  | commitPrepare {tx : Preparation} {quote : RuntimeQuote} {source : PaymentSourceRow} {gate : PolicyGate}
      {approvalRequired : Option String} {attemptId : AttemptId} {reservationId : ReservationId} {db : Db}
      {payment : PreparedPaidHttpPayment} {next : Phase} (phase : call.phase = .cleared tx quote source gate approvalRequired)
      (written : writePrepared hashes s.db tx.began call.auth call.idempotencyKey call.requestHash quote source
        tx.required.resource gate attemptId reservationId = .ok (db, payment))
      (goes : (approvalRequired = none ∧ next = .prepared payment) ∨ next.ended = true) :
      CallStep hashes s call (.commitPrepare attemptId reservationId) ⟨db, s.approvals, next⟩
  | readReservation {attempt : X402AttemptRow} {evidence : Option RuntimeX402SettlementResult}
      {reservation : PaymentReservationRow} (phase : call.phase = .resuming attempt evidence)
      (found : s.db.openReservation call.auth attempt.id = some reservation) :
      CallStep hashes s call .readReservation (s.move (.resumingSource attempt evidence reservation))
  | readSource {attempt : X402AttemptRow} {evidence : Option RuntimeX402SettlementResult}
      {reservation : PaymentReservationRow} {source : PaymentSourceRow}
      (phase : call.phase = .resumingSource attempt evidence reservation)
      (found : s.db.attemptSource attempt call.auth.org_id = .ok source) :
      CallStep hashes s call .readSource (s.move (.resumingApproval attempt evidence reservation source))
  | readApproval {attempt : X402AttemptRow} {reservation : PaymentReservationRow} {source : PaymentSourceRow}
      {hookAllows : Bool} {destination : Except Failure Unit} {payment : PreparedPaidHttpPayment}
      (phase : call.phase = .resumingApproval attempt none reservation source)
      (resumed : resumePayment s.approvals.approvals call.auth attempt false reservation source hookAllows destination =
        .ok payment) :
      CallStep hashes s call (.readApproval hookAllows destination) (s.move (.prepared payment))
  | readEvidence {attempt : X402AttemptRow} {settlement : RuntimeX402SettlementResult}
      {reservation : PaymentReservationRow} {source : PaymentSourceRow} {hookAllows : Bool}
      {destination : Except Failure Unit} {payment : PreparedPaidHttpPayment}
      (phase : call.phase = .resumingApproval attempt (some settlement) reservation source)
      (resumed : resumePayment s.approvals.approvals call.auth attempt true reservation source hookAllows destination =
        .ok payment) :
      CallStep hashes s call (.readApproval hookAllows destination) (s.move (.evidenced payment settlement))
  | preflighted {payment : PreparedPaidHttpPayment} {outcome : Except Failure Unit}
      (phase : call.phase = .prepared payment) :
      CallStep hashes s call (.preflight outcome) (s.move (.preflighted payment))
  | unready {payment : PreparedPaidHttpPayment} {failure : Failure} (phase : call.phase = .prepared payment) :
      CallStep hashes s call (.preflight (.error failure)) (s.move (.unready payment failure))
  | markRetryable {payment : PreparedPaidHttpPayment} {failure : Failure}
      (phase : call.phase = .unready payment failure) :
      CallStep hashes s call .markRetryable
        ⟨markPaidHttpAttemptRetryable s.db call.auth payment.attempt.id (preflightReason failure), s.approvals,
          .failed failure⟩
  | consumeApproval {payment : PreparedPaidHttpPayment} {approvalId : ApprovalId} {approvals : Approvals.State}
      (phase : call.phase = .preflighted payment) (gated : payment.policyGate.approvalId = some approvalId)
      (started : Approvals.step s.approvals (.consumeApproval (.payment call.id) call.auth approvalId
        payment.policyGate.decisionId) = some approvals) :
      CallStep hashes s call .consumeApproval ⟨s.db, approvals, .consuming payment approvalId⟩
  | consumed {payment : PreparedPaidHttpPayment} {approvalId : ApprovalId} {consumer : Approvals.Consumer}
      (phase : call.phase = .consuming payment approvalId)
      (found : s.approvals.consumers.find? (.payment call.id) = some consumer)
      (finished : consumer.phase = .finished (.ok ())) :
      CallStep hashes s call .awaitConsumption (s.move (.approved payment))
  | markSubmitting {payment : PreparedPaidHttpPayment} {db : Db}
      (phase : call.phase = .preflighted payment ∧ payment.policyGate.approvalId = none ∨ call.phase = .approved payment)
      (marked : AgentOps.Payments.markSubmitting s.db call.auth payment.attempt.id = .ok db) :
      CallStep hashes s call .markSubmitting ⟨db, s.approvals, .submitted payment⟩
  | simulateSettlement {payment : PreparedPaidHttpPayment} (phase : call.phase = .submitted payment)
      (simulated : payment.source.provider = .simulation) :
      CallStep hashes s call .simulateSettlement (s.move (.answered payment (simulatedSettlement payment.quote)))
  | callProvider {payment : PreparedPaidHttpPayment} (phase : call.phase = .submitted payment)
      (real : payment.source.provider ≠ .simulation) :
      CallStep hashes s call .callProvider (s.move (.settling payment))
  | answer {payment : PreparedPaidHttpPayment} {answer : Except ProviderError RuntimeX402SettlementResult}
      (phase : call.phase = .settling payment) :
      CallStep hashes s call (.answer answer)
        (s.move (.answered payment (settlementOfAnswer payment.mode payment.quote answer)))
  | persistEvidence {payment : PreparedPaidHttpPayment} {settlement : RuntimeX402SettlementResult} {db : Db}
      (phase : call.phase = .answered payment settlement)
      (persisted : persistPaidHttpProviderEvidence s.db s.now call.auth payment.attempt.id settlement = .ok db) :
      CallStep hashes s call .persistEvidence ⟨db, s.approvals, .evidenced payment settlement⟩
  | finalize {payment : PreparedPaidHttpPayment} {settlement : RuntimeX402SettlementResult} {eventId : EventId}
      {db : Db} {result : RuntimeX402PaymentResult} (phase : call.phase = .evidenced payment settlement)
      (free : recordedStatus settlement = .unknown ∨ s.accountLocked (accountOf call.auth) = false)
      (finalized : finalizePaidHttpPayment s.db s.now call.auth payment settlement eventId = .ok (db, result)) :
      CallStep hashes s call (.finalize eventId) ⟨db, s.approvals, .returned result⟩

theorem findAttempt_none {db : Db} {now : Time} {connectionId : ConnectionId} {key : String} :
    (findAttempt db now connectionId key).2 = none ↔ db.attemptFor connectionId key = none := by
  unfold findAttempt
  cases db.attemptFor connectionId key <;> simp

theorem CallStep.orFail {α : Type} {event : CallEvent} {result : Except Failure α} {next : α → Effect}
    (goesOn : ∀ value, result = .ok value → CallStep hashes s call event (next value)) :
    CallStep hashes s call event (s.orFail result next) := by
  cases result with
  | error failure => exact .ends rfl
  | ok value => exact goesOn value rfl

variable {effect : Effect}

theorem callStep_selectStranded (taken : callStep hashes s call .selectStranded = some effect) :
    CallStep hashes s call .selectStranded effect := by
  unfold callStep at taken
  dsimp only at taken
  split at taken
  · rename_i phase
    obtain rfl := Option.some.inj taken
    exact .selectStranded phase
  · cases taken

theorem callStep_commitStranded (taken : callStep hashes s call .commitStranded = some effect) :
    CallStep hashes s call .commitStranded effect := by
  unfold callStep at taken
  dsimp only at taken
  split at taken
  · rename_i candidates phase
    split at taken
    · cases taken
    · rename_i free
      obtain rfl := Option.some.inj taken
      refine .orFail fun db cancelled => .commitStranded phase ?_ cancelled
      cases candidates with
      | nil => exact .inl rfl
      | cons => exact .inr (by simpa using free)
  · cases taken

theorem callStep_findAttempt (taken : callStep hashes s call .findAttempt = some effect) :
    CallStep hashes s call .findAttempt effect := by
  unfold callStep at taken
  dsimp only at taken
  split at taken
  · rename_i phase
    obtain rfl := Option.some.inj taken
    exact .findAttempt phase rfl
  · cases taken

theorem callStep_discover {answer : Except Failure PaymentRequired}
    (taken : callStep hashes s call (.discover answer) = some effect) :
    CallStep hashes s call (.discover answer) effect := by
  unfold callStep at taken
  dsimp only at taken
  split at taken
  · rename_i phase
    obtain rfl := Option.some.inj taken
    refine .orFail fun required answered => ?_
    subst answered
    exact .discover phase
  · cases taken

theorem callStep_snapshotAccount (taken : callStep hashes s call .snapshotAccount = some effect) :
    CallStep hashes s call .snapshotAccount effect := by
  unfold callStep at taken
  dsimp only at taken
  split at taken
  · rename_i phase
    split at taken <;> obtain rfl := Option.some.inj taken
    · rename_i accountFound orgFound agentFound
      exact .snapshotAccount phase accountFound orgFound agentFound
    · exact .ends rfl
  · cases taken

theorem callStep_lockAccount (taken : callStep hashes s call .lockAccount = some effect) :
    CallStep hashes s call .lockAccount effect := by
  unfold callStep at taken
  dsimp only at taken
  split at taken
  · rename_i phase
    split at taken
    · cases taken
    · rename_i free
      split at taken <;> obtain rfl := Option.some.inj taken
      · exact .ends rfl
      · rename_i found
        exact .orFail fun account checked => .lockAccount phase (by simpa using free) found checked
  · cases taken

theorem callStep_findRacedAttempt (taken : callStep hashes s call .findRacedAttempt = some effect) :
    CallStep hashes s call .findRacedAttempt effect := by
  unfold callStep at taken
  dsimp only at taken
  split at taken
  · rename_i tx phase
    split at taken
    · rename_i missing
      obtain rfl := Option.some.inj taken
      exact .fresh phase (findAttempt_none.mp missing)
    · rename_i attempt found
      split at taken <;> obtain rfl := Option.some.inj taken
      · exact .ends rfl
      · rename_i same
        exact .raced phase (Prod.ext rfl found) (not_not.mp same)
  · cases taken

theorem callStep_selectQuote (taken : callStep hashes s call .selectQuote = some effect) :
    CallStep hashes s call .selectQuote effect := by
  unfold callStep at taken
  dsimp only at taken
  split at taken
  · rename_i phase
    obtain rfl := Option.some.inj taken
    exact .orFail fun quote selected => .selectQuote phase selected
  · cases taken

theorem callStep_selectSource (taken : callStep hashes s call .selectSource = some effect) :
    CallStep hashes s call .selectSource effect := by
  unfold callStep at taken
  dsimp only at taken
  split at taken
  · rename_i phase
    obtain rfl := Option.some.inj taken
    exact .orFail fun source selected => .selectSource phase selected
  · cases taken

theorem callStep_enforcePolicy {policy : PolicyDecision} {approvalId : ApprovalId}
    (taken : callStep hashes s call (.enforcePolicy policy approvalId) = some effect) :
    CallStep hashes s call (.enforcePolicy policy approvalId) effect := by
  unfold callStep at taken
  dsimp only at taken
  split at taken
  · rename_i phase
    split at taken
    · obtain rfl := Option.some.inj taken
      exact .ends rfl
    · rename_i enforced
      obtain rfl := Option.some.inj taken
      exact .permitted phase enforced
    · rename_i enforced
      split at taken <;> obtain rfl := Option.some.inj taken
      · exact .ends rfl
      · rename_i created
        exact .approvalRequested phase enforced created
  · cases taken

theorem callStep_checkLimits {readinessFailure : Option IdentityError} {spendable : Option Nat}
    (taken : callStep hashes s call (.checkLimits readinessFailure spendable) = some effect) :
    CallStep hashes s call (.checkLimits readinessFailure spendable) effect := by
  unfold callStep at taken
  dsimp only at taken
  split at taken
  · rename_i phase
    obtain rfl := Option.some.inj taken
    exact .orFail fun _ within => .checkLimits phase within
  · cases taken

theorem callStep_commitPrepare {attemptId : AttemptId} {reservationId : ReservationId}
    (taken : callStep hashes s call (.commitPrepare attemptId reservationId) = some effect) :
    CallStep hashes s call (.commitPrepare attemptId reservationId) effect := by
  unfold callStep at taken
  dsimp only at taken
  split at taken
  · rename_i approvalRequired phase
    obtain rfl := Option.some.inj taken
    refine .orFail fun written result => .commitPrepare phase result ?_
    cases approvalRequired with
    | none => exact .inl ⟨rfl, rfl⟩
    | some message => exact .inr rfl
  · cases taken

theorem callStep_readReservation (taken : callStep hashes s call .readReservation = some effect) :
    CallStep hashes s call .readReservation effect := by
  unfold callStep at taken
  dsimp only at taken
  split at taken
  · rename_i phase
    split at taken <;> obtain rfl := Option.some.inj taken
    · exact .ends rfl
    · rename_i found
      exact .readReservation phase found
  · cases taken

theorem callStep_readSource (taken : callStep hashes s call .readSource = some effect) :
    CallStep hashes s call .readSource effect := by
  unfold callStep at taken
  dsimp only at taken
  split at taken
  · rename_i phase
    obtain rfl := Option.some.inj taken
    exact .orFail fun source found => .readSource phase found
  · cases taken

theorem callStep_readApproval {hookAllows : Bool} {destination : Except Failure Unit}
    (taken : callStep hashes s call (.readApproval hookAllows destination) = some effect) :
    CallStep hashes s call (.readApproval hookAllows destination) effect := by
  unfold callStep at taken
  dsimp only at taken
  split at taken
  · rename_i evidence reservation source phase
    obtain rfl := Option.some.inj taken
    refine .orFail fun payment resumed => ?_
    cases evidence with
    | none => exact .readApproval phase resumed
    | some settlement => exact .readEvidence phase resumed
  · cases taken

theorem callStep_preflight {outcome : Except Failure Unit}
    (taken : callStep hashes s call (.preflight outcome) = some effect) :
    CallStep hashes s call (.preflight outcome) effect := by
  unfold callStep at taken
  dsimp only at taken
  split at taken
  · rename_i phase
    split at taken
    · obtain rfl := Option.some.inj taken
      exact .preflighted phase
    · split at taken <;> obtain rfl := Option.some.inj taken
      · exact .preflighted phase
      · exact .unready phase
  · cases taken

theorem callStep_markRetryable (taken : callStep hashes s call .markRetryable = some effect) :
    CallStep hashes s call .markRetryable effect := by
  unfold callStep at taken
  dsimp only at taken
  split at taken
  · rename_i phase
    obtain rfl := Option.some.inj taken
    exact .markRetryable phase
  · cases taken

theorem callStep_consumeApproval (taken : callStep hashes s call .consumeApproval = some effect) :
    CallStep hashes s call .consumeApproval effect := by
  unfold callStep at taken
  dsimp only at taken
  split at taken
  · rename_i phase
    split at taken
    · cases taken
    · rename_i gated
      obtain ⟨approvals, started, rfl⟩ := Option.map_eq_some_iff.mp taken
      exact .consumeApproval phase gated started
  · cases taken

theorem callStep_awaitConsumption (taken : callStep hashes s call .awaitConsumption = some effect) :
    CallStep hashes s call .awaitConsumption effect := by
  unfold callStep at taken
  dsimp only at taken
  split at taken
  · rename_i phase
    split at taken
    · rename_i outcome located
      obtain ⟨consumer, found, finished⟩ := Option.map_eq_some_iff.mp located
      obtain rfl := Option.some.inj taken
      refine .orFail fun _ done => .consumed phase found ?_
      rw [finished, done]
    · cases taken
  · cases taken

theorem callStep_markSubmitting (taken : callStep hashes s call .markSubmitting = some effect) :
    CallStep hashes s call .markSubmitting effect := by
  unfold callStep at taken
  dsimp only at taken
  split at taken
  · rename_i phase
    split at taken
    · rename_i ungated
      obtain rfl := Option.some.inj taken
      exact .orFail fun db marked => .markSubmitting (.inl ⟨phase, ungated⟩) marked
    · cases taken
  · rename_i phase
    obtain rfl := Option.some.inj taken
    exact .orFail fun db marked => .markSubmitting (.inr phase) marked
  · cases taken

theorem callStep_simulateSettlement (taken : callStep hashes s call .simulateSettlement = some effect) :
    CallStep hashes s call .simulateSettlement effect := by
  unfold callStep at taken
  dsimp only at taken
  split at taken
  · rename_i phase
    split at taken
    · rename_i simulated
      obtain rfl := Option.some.inj taken
      exact .simulateSettlement phase simulated
    · cases taken
  · cases taken

theorem callStep_callProvider (taken : callStep hashes s call .callProvider = some effect) :
    CallStep hashes s call .callProvider effect := by
  unfold callStep at taken
  dsimp only at taken
  split at taken
  · rename_i phase
    split at taken
    · cases taken
    · rename_i real
      obtain rfl := Option.some.inj taken
      exact .callProvider phase real
  · cases taken

theorem callStep_answer {answer : Except ProviderError RuntimeX402SettlementResult}
    (taken : callStep hashes s call (.answer answer) = some effect) :
    CallStep hashes s call (.answer answer) effect := by
  unfold callStep at taken
  dsimp only at taken
  split at taken
  · rename_i phase
    obtain rfl := Option.some.inj taken
    exact .answer phase
  · cases taken

theorem callStep_persistEvidence (taken : callStep hashes s call .persistEvidence = some effect) :
    CallStep hashes s call .persistEvidence effect := by
  unfold callStep at taken
  dsimp only at taken
  split at taken
  · rename_i phase
    obtain rfl := Option.some.inj taken
    exact .orFail fun db persisted => .persistEvidence phase persisted
  · cases taken

theorem callStep_finalize {eventId : EventId} (taken : callStep hashes s call (.finalize eventId) = some effect) :
    CallStep hashes s call (.finalize eventId) effect := by
  unfold callStep at taken
  dsimp only at taken
  split at taken
  · rename_i payment settlement phase
    split at taken
    · cases taken
    · rename_i free
      obtain rfl := Option.some.inj taken
      refine .orFail fun result finalized => .finalize phase ?_ finalized
      by_cases unknown : recordedStatus settlement = .unknown
      · exact .inl unknown
      · exact .inr (by simpa [unknown] using free)
  · cases taken

theorem callStep_crash (taken : callStep hashes s call .crash = some effect) :
    CallStep hashes s call .crash effect := by
  unfold callStep at taken
  dsimp only at taken
  split at taken
  · cases taken
  · obtain rfl := Option.some.inj taken
    exact .ends rfl

theorem callStep_inversion {event : CallEvent} (taken : callStep hashes s call event = some effect) :
    CallStep hashes s call event effect := by
  cases event with
  | selectStranded => exact callStep_selectStranded taken
  | commitStranded => exact callStep_commitStranded taken
  | findAttempt => exact callStep_findAttempt taken
  | discover answer => exact callStep_discover taken
  | snapshotAccount => exact callStep_snapshotAccount taken
  | lockAccount => exact callStep_lockAccount taken
  | findRacedAttempt => exact callStep_findRacedAttempt taken
  | selectQuote => exact callStep_selectQuote taken
  | selectSource => exact callStep_selectSource taken
  | enforcePolicy policy approvalId => exact callStep_enforcePolicy taken
  | checkLimits readinessFailure spendable => exact callStep_checkLimits taken
  | commitPrepare attemptId reservationId => exact callStep_commitPrepare taken
  | readReservation => exact callStep_readReservation taken
  | readSource => exact callStep_readSource taken
  | readApproval hookAllows destination => exact callStep_readApproval taken
  | preflight outcome => exact callStep_preflight taken
  | markRetryable => exact callStep_markRetryable taken
  | consumeApproval => exact callStep_consumeApproval taken
  | awaitConsumption => exact callStep_awaitConsumption taken
  | markSubmitting => exact callStep_markSubmitting taken
  | simulateSettlement => exact callStep_simulateSettlement taken
  | callProvider => exact callStep_callProvider taken
  | answer answer => exact callStep_answer taken
  | persistEvidence => exact callStep_persistEvidence taken
  | finalize eventId => exact callStep_finalize taken
  | crash => exact callStep_crash taken

theorem submitted_of_callProvider {id : CallId} (taken : (step hashes s (.call id .callProvider)).isSome = true) :
    ∃ call payment, s.calls.find? id = some call ∧ call.phase = .submitted payment := by
  cases found : s.calls.find? id with
  | none => simp [step, found] at taken
  | some call =>
    cases phase : call.phase
    case submitted payment => exact ⟨call, payment, rfl, phase⟩
    all_goals simp [step, callStep, found, phase] at taken

end AgentOps.Payments
