import AgentOps.Approvals.Safety
import AgentOps.Payments.Escrow
import AgentOps.Payments.Finalize
import AgentOps.Payments.Operators

namespace AgentOps.Payments
open Lib Identity

/-! # The payment API as its calls interleave, statement by statement -/

abbrev CallId := Nat

/-- What an open `preparePaidHttpPayment` transaction holds once it has locked the account -/
structure Preparation where
  began : Time
  required : PaymentRequired
  account : AgentPaymentAccountRow

/-- Where a call of `payRuntimeX402` stands between two statements -/
inductive Phase where
  | started
  | cancelling (candidates : List StrandedCandidate)
  | cleaned
  | discovering
  | discovered (required : PaymentRequired)
  -- the statement of `activePaymentAccount` has its snapshot of the org and the agent, and waits for the account
  | locking (began : Time) (required : PaymentRequired) (frozen : Bool) (agentStatus : AgentStatus)
  | locked (tx : Preparation)
  | fresh (tx : Preparation)
  | quoted (tx : Preparation) (quote : RuntimeQuote)
  | sourced (tx : Preparation) (quote : RuntimeQuote) (source : PaymentSourceRow)
  | gated (tx : Preparation) (quote : RuntimeQuote) (source : PaymentSourceRow) (gate : PolicyGate)
      (approvalRequired : Option String)
  | cleared (tx : Preparation) (quote : RuntimeQuote) (source : PaymentSourceRow) (gate : PolicyGate)
      (approvalRequired : Option String)
  | resuming (attempt : X402AttemptRow) (evidence : Option RuntimeX402SettlementResult)
  | resumingSource (attempt : X402AttemptRow) (evidence : Option RuntimeX402SettlementResult)
      (reservation : PaymentReservationRow)
  | resumingApproval (attempt : X402AttemptRow) (evidence : Option RuntimeX402SettlementResult)
      (reservation : PaymentReservationRow) (source : PaymentSourceRow)
  | prepared (payment : PreparedPaidHttpPayment)
  | unready (payment : PreparedPaidHttpPayment) (failure : Failure)
  | preflighted (payment : PreparedPaidHttpPayment)
  | consuming (payment : PreparedPaidHttpPayment) (approvalId : ApprovalId)
  | approved (payment : PreparedPaidHttpPayment)
  | submitted (payment : PreparedPaidHttpPayment)
  | settling (payment : PreparedPaidHttpPayment)
  | answered (payment : PreparedPaidHttpPayment) (settlement : RuntimeX402SettlementResult)
  | evidenced (payment : PreparedPaidHttpPayment) (settlement : RuntimeX402SettlementResult)
  | returned (result : RuntimeX402PaymentResult)
  | failed (failure : Failure)
  | crashed

def Phase.holdsAccount : Phase → Bool
  | .locked _ | .fresh _ | .quoted _ _ | .sourced _ _ _ | .gated _ _ _ _ _ | .cleared _ _ _ _ _ => true
  | _ => false

def Phase.ended : Phase → Bool
  | .returned _ | .failed _ | .crashed => true
  | _ => false

structure Call where
  id : CallId
  auth : ConnectionAuthResult
  idempotencyKey : String
  /-- `canonicalPaidHttpRequestHash(input.request)` -/
  requestHash : Hash
  phase : Phase

structure State where
  approvals : Approvals.State
  db : Db
  calls : Table Call.id

inductive CallEvent where
  | selectStranded
  | commitStranded
  | findAttempt
  | discover (answer : Except Failure PaymentRequired)
  | snapshotAccount
  | lockAccount
  | findRacedAttempt
  | selectQuote
  | selectSource
  | enforcePolicy (policy : PolicyDecision) (approvalId : ApprovalId)
  | checkLimits (readinessFailure : Option IdentityError) (spendable : Option Nat)
  | commitPrepare (attemptId : AttemptId) (reservationId : ReservationId)
  | readReservation
  | readSource
  | readApproval (hookAllows : Bool) (destination : Except Failure Unit)
  | preflight (outcome : Except Failure Unit)
  | markRetryable
  | consumeApproval
  | awaitConsumption
  | markSubmitting
  | simulateSettlement
  | callProvider
  | answer (answer : Except ProviderError RuntimeX402SettlementResult)
  | persistEvidence
  | finalize (eventId : EventId)
  | crash

inductive Label where
  | approvals (label : Approvals.Label)
  | freezeOrg (orgId : OrgId)
  | unfreezeOrg (orgId : OrgId)
  | setAgentStatus (orgId : OrgId) (agentId : AgentId) (status : AgentStatus)
  | setAgentPaymentAccess (orgId : OrgId) (agentId : AgentId) (input : SetAgentPaymentAccessInput)
  | setDestination (row : AllowlistRow)
  | createPaymentSource (row : PaymentSourceRow)
  | syncPaymentSource (id : SourceId) (address externalWalletId : Option String)
  | resolveUnknownAttempt (actorId : String) (orgId : OrgId) (reservationId : ReservationId)
      (outcome : ResolveUnknownAttemptOutcome)
  | releaseOnProof (reservationId : ReservationId) (proof : DeathPredicate)
  | purgeExpiredX402Results (locked : List AttemptId) (batchLimit : Nat)
  | createEscrowJob (id : EscrowJobId) (onchainJobId : Nat) (input : CreateEscrowJobInput)
  | fundEscrowJob (id : EscrowJobId) (reservationId : ReservationId) (onchain : Except Failure Unit)
  | applyEscrowStateChange (id : EscrowJobId) (next : EscrowState) (sent : Except Failure Unit)
  | reconcileEscrowJob (id : EscrowJobId) (onchain : Except Failure OnchainEscrowJob)
  | payRuntimeX402 (id : CallId) (auth : ConnectionAuthResult) (idempotencyKey : String) (requestHash : Hash)
  | call (id : CallId) (event : CallEvent)

namespace State

def now (s : State) : Time := s.approvals.now

def accountLocked (s : State) (account : AccountId) : Bool :=
  s.calls.rows.any fun call => accountOf call.auth = account ∧ call.phase.holdsAccount

def commit (s : State) (result : Except Failure Db) : State :=
  match result with
  | .error _ => s
  | .ok db => { s with db }

end State

structure Effect where
  db : Db
  approvals : Approvals.State
  phase : Phase

def State.move (s : State) (phase : Phase) : Effect := ⟨s.db, s.approvals, phase⟩

def State.orFail {α : Type} (s : State) (result : Except Failure α) (next : α → Effect) : Effect :=
  match result with
  | .error failure => s.move (.failed failure)
  | .ok value => next value

def afterFind (call : Call) : Option X402AttemptRow → Phase
  | none => .discovering
  | some existing =>
    if existing.org_id ≠ call.auth.org_id ∨ existing.connection_id ≠ call.auth.connection_id then
      .failed (IdentityError.mk "payment_attempt_scope_invalid" 404 "Payment attempt was not found.")
    else if existing.request_hash ≠ call.requestHash then .failed idempotencyConflict
    else
      let withoutEvidence :=
        if existing.status ≠ .reserved then .returned (paymentResultFromAttempt existing) else .resuming existing none
      match existing.retained.map Retained.content with
      | some (.result _ result) => .returned result
      | some (.evidence settlement) =>
        if existing.status = .submitting then .resuming existing (some settlement) else withoutEvidence
      | none => withoutEvidence

def racedResult (attempt : X402AttemptRow) : RuntimeX402PaymentResult :=
  match attempt.retained.map Retained.content with
  | some (.result _ result) => result
  | _ => paymentResultFromAttempt attempt

def preflightReason : Failure → String
  | .identity error => error.code
  | _ => "payment_preflight_failed"

def resumedPayment (attempt : X402AttemptRow) (reservation : PaymentReservationRow) (source : PaymentSourceRow)
    (quote : RuntimeQuote) (payload : QuotePayload) : PreparedPaidHttpPayment where
  attempt := attempt
  mode := orgPaymentMode
  policyGate := resumedGate attempt
  quote := quote
  quoteHash := reservation.quote_hash
  quotePayload := payload
  reservationId := reservation.id
  source := source

/-- The last checks of `resumePreparedPaidHttpPayment`, on the approval and on the request's URL -/
def resumePayment (approvals : Approvals.Requests) (auth : ConnectionAuthResult) (attempt : X402AttemptRow)
    (finalizing : Bool) (reservation : PaymentReservationRow) (source : PaymentSourceRow) (hookAllows : Bool)
    (destination : Except Failure Unit) : Except Failure PreparedPaidHttpPayment := do
  let (quote, payload) ← resumeQuote attempt reservation
  checkResumeApproval approvals auth attempt finalizing hookAllows
  destination
  .ok (resumedPayment attempt reservation source quote payload)

def callStep (hashes : Hashes) (s : State) (call : Call) : CallEvent → Option Effect
  | .selectStranded =>
    match call.phase with
    | .started => some (s.move (.cancelling (strandedCandidates s.db s.approvals.approvals s.now call.auth)))
    | _ => none
  | .commitStranded =>
    match call.phase with
    | .cancelling candidates =>
      if !candidates.isEmpty && s.accountLocked (accountOf call.auth) then none
      else some (s.orFail (cancelCandidates call.auth s.db candidates) fun db => ⟨db, s.approvals, .cleaned⟩)
    | _ => none
  | .findAttempt =>
    match call.phase with
    | .cleaned =>
      let (db, found) := findAttempt s.db s.now call.auth.connection_id call.idempotencyKey
      some ⟨db, s.approvals, afterFind call found⟩
    | _ => none
  | .discover answer =>
    match call.phase with
    | .discovering => some (s.orFail answer fun required => s.move (.discovered required))
    | _ => none
  | .snapshotAccount =>
    match call.phase with
    | .discovered required =>
      match s.db.accounts.find? (accountOf call.auth), s.db.orgs.find? call.auth.org_id,
          s.db.agents.find? call.auth.agent_id with
      | some _, some org, some agent => some (s.move (.locking s.now required org.frozen agent.status))
      | _, _, _ => some (s.move (.failed paymentAccessDisabled))
    | _ => none
  | .lockAccount =>
    match call.phase with
    | .locking began required frozen agentStatus =>
      if s.accountLocked (accountOf call.auth) then none
      else match s.db.accounts.find? (accountOf call.auth) with
        | none => some (s.move (.failed paymentAccessDisabled))
        | some row => some (s.orFail (checkActiveAccount frozen agentStatus row) fun account =>
            s.move (.locked ⟨began, required, account⟩))
    | _ => none
  | .findRacedAttempt =>
    match call.phase with
    | .locked tx =>
      let (db, found) := findAttempt s.db tx.began call.auth.connection_id call.idempotencyKey
      match found with
      | none => some (s.move (.fresh tx))
      | some raced =>
        if raced.request_hash ≠ call.requestHash then some (s.move (.failed idempotencyConflict))
        else some ⟨db, s.approvals, .returned (racedResult raced)⟩
    | _ => none
  | .selectQuote =>
    match call.phase with
    | .fresh tx => some (s.orFail (selectQuote s.db call.auth tx.account tx.required.accepts) fun quote =>
        s.move (.quoted tx quote))
    | _ => none
  | .selectSource =>
    match call.phase with
    | .quoted tx quote =>
      some (s.orFail ((activePaymentSource s.db call.auth.org_id quote.rail quote.chain).bind (checkSource quote))
        fun source => s.move (.sourced tx quote source))
    | _ => none
  | .enforcePolicy policy approvalId =>
    match call.phase with
    | .sourced tx quote source =>
      match enforceX402Policy tx.account quote policy with
      | .error failure => some (s.move (.failed failure))
      | .ok false => some (s.move (.gated tx quote source ⟨none, policy.id⟩ none))
      | .ok true =>
        let payload := quotePayloadOf quote tx.required.resource source
        let input := approvalInput hashes call.auth tx.account quote payload call.requestHash policy
        match Approvals.step s.approvals (.createApprovalRequest approvalId input) with
        | none => some (s.move (.failed (.constraint "approval_requests_pkey")))
        | some approvals => some ⟨s.db, approvals,
            .gated tx quote source ⟨some approvalId, policy.id⟩ (some (approvalRequiredMessage tx.account quote policy))⟩
    | _ => none
  | .checkLimits readinessFailure spendable =>
    match call.phase with
    | .gated tx quote source gate approvalRequired =>
      some (s.orFail (checkLimits tx.account quote source approvalRequired.isSome readinessFailure spendable)
        fun _ => s.move (.cleared tx quote source gate approvalRequired))
    | _ => none
  | .commitPrepare attemptId reservationId =>
    match call.phase with
    | .cleared tx quote source gate approvalRequired =>
      some (s.orFail (writePrepared hashes s.db tx.began call.auth call.idempotencyKey call.requestHash quote source
          tx.required.resource gate attemptId reservationId) fun (db, payment) =>
        ⟨db, s.approvals, match approvalRequired with
          | none => .prepared payment
          | some message => .failed (paymentApprovalRequired message)⟩)
    | _ => none
  | .readReservation =>
    match call.phase with
    | .resuming attempt evidence =>
      match s.db.openReservation call.auth attempt.id with
      | none => some (s.move (.failed
          (conflict "payment_attempt_state_conflict" "Reserved payment attempt is incomplete.")))
      | some reservation => some (s.move (.resumingSource attempt evidence reservation))
    | _ => none
  | .readSource =>
    match call.phase with
    | .resumingSource attempt evidence reservation =>
      some (s.orFail (s.db.attemptSource attempt call.auth.org_id) fun source =>
        s.move (.resumingApproval attempt evidence reservation source))
    | _ => none
  | .readApproval hookAllows destination =>
    match call.phase with
    | .resumingApproval attempt evidence reservation source =>
      some (s.orFail (resumePayment s.approvals.approvals call.auth attempt evidence.isSome reservation source hookAllows
          destination) fun payment =>
        s.move (match evidence with
          | none => .prepared payment
          | some settlement => .evidenced payment settlement))
    | _ => none
  | .preflight outcome =>
    match call.phase with
    | .prepared payment =>
      if payment.source.provider = .simulation then some (s.move (.preflighted payment))
      else match outcome with
        | .ok () => some (s.move (.preflighted payment))
        | .error failure => some (s.move (.unready payment failure))
    | _ => none
  | .markRetryable =>
    match call.phase with
    | .unready payment failure =>
      some ⟨markPaidHttpAttemptRetryable s.db call.auth payment.attempt.id (preflightReason failure), s.approvals,
        .failed failure⟩
    | _ => none
  | .consumeApproval =>
    match call.phase with
    | .preflighted payment =>
      match payment.policyGate.approvalId with
      | none => none
      | some approvalId =>
        (Approvals.step s.approvals
          (.consumeApproval (.payment call.id) call.auth approvalId payment.policyGate.decisionId)).map fun approvals =>
            ⟨s.db, approvals, .consuming payment approvalId⟩
    | _ => none
  | .awaitConsumption =>
    match call.phase with
    | .consuming payment _ =>
      match (s.approvals.consumers.find? (.payment call.id)).map Approvals.Consumer.phase with
      | some (.finished outcome) => some (s.orFail outcome fun _ => s.move (.approved payment))
      | _ => none
    | _ => none
  | .markSubmitting =>
    match call.phase with
    | .preflighted payment =>
      if payment.policyGate.approvalId = none then
        some (s.orFail (markSubmitting s.db call.auth payment.attempt.id) fun db =>
          ⟨db, s.approvals, .submitted payment⟩)
      else none
    | .approved payment =>
      some (s.orFail (markSubmitting s.db call.auth payment.attempt.id) fun db => ⟨db, s.approvals, .submitted payment⟩)
    | _ => none
  | .simulateSettlement =>
    match call.phase with
    | .submitted payment =>
      if payment.source.provider = .simulation then
        some (s.move (.answered payment (simulatedSettlement payment.quote)))
      else none
    | _ => none
  | .callProvider =>
    match call.phase with
    | .submitted payment =>
      if payment.source.provider = .simulation then none else some (s.move (.settling payment))
    | _ => none
  | .answer answer =>
    match call.phase with
    | .settling payment => some (s.move (.answered payment (settlementOfAnswer payment.mode payment.quote answer)))
    | _ => none
  | .persistEvidence =>
    match call.phase with
    | .answered payment settlement =>
      some (s.orFail (persistPaidHttpProviderEvidence s.db s.now call.auth payment.attempt.id settlement) fun db =>
        ⟨db, s.approvals, .evidenced payment settlement⟩)
    | _ => none
  | .finalize eventId =>
    match call.phase with
    | .evidenced payment settlement =>
      if recordedStatus settlement ≠ .unknown ∧ s.accountLocked (accountOf call.auth) = true then none
      else some (s.orFail (finalizePaidHttpPayment s.db s.now call.auth payment settlement eventId) fun (db, result) =>
        ⟨db, s.approvals, .returned result⟩)
    | _ => none
  | .crash => if call.phase.ended then none else some (s.move .crashed)

/-- A payment call runs its own consumer, and only while it waits for it. -/
def consumerMayRun (s : State) : Approvals.Label → Bool
  | .consumeApproval (.payment _) _ _ _ => false
  | .recheckPolicy (.payment id) _ | .commitConsumption (.payment id) =>
    match (s.calls.find? id).map Call.phase with
    | some (.consuming _ _) => true
    | _ => false
  | _ => true

def authenticated (db : Db) (auth : ConnectionAuthResult) : Bool :=
  (db.connections.find? auth.connection_id).any fun row => row.org_id = auth.org_id ∧ row.agent_id = auth.agent_id

def reservationAccountLocked (s : State) (id : ReservationId) : Bool :=
  (s.db.reservations.find? id).any fun row => s.accountLocked row.account

def step (hashes : Hashes) (s : State) : Label → Option State
  | .approvals label =>
    if consumerMayRun s label then (Approvals.step s.approvals label).map fun approvals => { s with approvals } else none
  | .freezeOrg orgId => some (s.commit (freezeOrg s.db orgId))
  | .unfreezeOrg orgId => some (s.commit (unfreezeOrg s.db orgId))
  | .setAgentStatus orgId agentId status => some (s.commit (setAgentStatus s.db orgId agentId status))
  | .setAgentPaymentAccess orgId agentId input =>
    if s.accountLocked (orgId, agentId) then none
    else some (s.commit (setAgentPaymentAccess s.db orgId agentId input))
  | .setDestination row => some { s with db := setDestination s.db row }
  | .createPaymentSource row => some (s.commit (createPaymentSource s.db row))
  | .syncPaymentSource id address externalWalletId =>
    some { s with db := syncPaymentSource s.db id address externalWalletId }
  | .resolveUnknownAttempt actorId orgId reservationId outcome =>
    if reservationAccountLocked s reservationId then none
    else some (s.commit (resolveUnknownAttempt s.db actorId orgId reservationId outcome))
  | .releaseOnProof reservationId proof =>
    if reservationAccountLocked s reservationId then none
    else some (s.commit (releaseOnProof s.db s.now reservationId proof))
  | .purgeExpiredX402Results locked batchLimit =>
    some { s with db := purgeExpiredX402Results s.db s.now locked batchLimit }
  | .createEscrowJob id onchainJobId input => some (s.commit (createEscrowJob s.db id onchainJobId input))
  | .fundEscrowJob id reservationId onchain => some (s.commit (fundEscrowJob hashes s.db s.now id reservationId onchain))
  | .applyEscrowStateChange id next sent => some (s.commit (applyEscrowStateChange s.db id next sent))
  | .reconcileEscrowJob id onchain => some (s.commit (reconcileEscrowJob s.db id onchain))
  | .payRuntimeX402 id auth idempotencyKey requestHash =>
    if authenticated s.db auth then
      (s.calls.insert? ⟨id, auth, idempotencyKey, requestHash, .started⟩).map fun calls => { s with calls }
    else none
  | .call id event =>
    match s.calls.find? id with
    | none => none
    | some call => (callStep hashes s call event).map fun effect =>
        ⟨effect.approvals, effect.db, s.calls.put { call with phase := effect.phase }⟩

/-- Orgs, agents, connections, destinations and sources may be anything; no payment has been made. -/
structure Initial (s : State) : Prop where
  approvals : Approvals.Initial s.approvals
  accounts : s.db.accounts = .empty
  attempts : s.db.attempts = .empty
  reservations : s.db.reservations = .empty
  postings : s.db.postings = []
  events : s.db.events = .empty
  escrowJobs : s.db.escrowJobs = .empty
  calls : s.calls = .empty

namespace Workspace

def hashes : Hashes := ⟨fun _ => "quote", fun _ _ _ _ => "context", fun _ => "job"⟩

def auth : ConnectionAuthResult := ⟨1, 1, 10⟩

def network : String := "base-sepolia"

def baseExact : PaymentRail := ⟨.directExact, .base⟩

def state (provider : PaymentProvider) : State where
  approvals := ⟨0, .empty, .empty, .empty, .empty, .empty⟩
  db :=
    { orgs := .singleton ⟨1, false⟩
      agents := .singleton ⟨1, 1, .active⟩
      connections := .singleton ⟨10, 1, 1⟩
      accounts := .empty
      allowlist := .singleton ⟨1, .base, "0xseller", .active⟩
      sources := .singleton ⟨1, 1, provider, baseExact, .base, .active, some "0xpayer", some "wallet", 100, 0⟩
      attempts := .empty
      reservations := .empty
      postings := []
      events := .empty
      escrowJobs := .empty }
  calls := .empty

theorem state_initial (provider : PaymentProvider) : Initial (state provider) :=
  ⟨⟨rfl, rfl, rfl, rfl, rfl⟩, rfl, rfl, rfl, rfl, rfl, rfl, rfl⟩

def access (budget : Nat) : SetAgentPaymentAccessInput := ⟨.active, [baseExact], budget, 0, none⟩

def offer : PaymentRequired where
  resource := []
  accepts := [⟨"exact", network, none, none, some (.text "5"), some "0xseller", []⟩]

def prepares : List CallEvent :=
  [.selectStranded, .commitStranded, .findAttempt, .discover (.ok offer), .snapshotAccount, .lockAccount,
    .findRacedAttempt, .selectQuote, .selectSource, .enforcePolicy ⟨1, .allow, "", ""⟩ 1, .checkLimits none none,
    .commitPrepare 1 1]

def submits (answer : Except ProviderError RuntimeX402SettlementResult) : List CallEvent :=
  [.preflight (.ok ()), .markSubmitting, .callProvider, .answer answer]

def settled : RuntimeX402SettlementResult where
  errorReason := none
  network := "eip155:84532"
  payment := some ⟨none, "eip155:84532", none, .settled, some "0xtransaction"⟩
  providerMode := .mode .test
  response := none
  success := true

def settles : List CallEvent := prepares ++ submits (.ok settled) ++ [.persistEvidence, .finalize 1]

def pays (id : CallId) (events : List CallEvent) : List Label :=
  .payRuntimeX402 id auth "k" "request" :: events.map (.call id)

end Workspace

end AgentOps.Payments
