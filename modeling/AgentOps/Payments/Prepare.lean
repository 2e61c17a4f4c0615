import AgentOps.Payments.AttemptStore

namespace AgentOps.Payments
open Lib Identity Approvals

/-! # Preparing and resuming an x402 payment -/

structure PolicyGate where
  approvalId : Option ApprovalId
  decisionId : DecisionId
  deriving DecidableEq

/-- The decision id `'reserved_resume'` of a resumed attempt that recorded none -/
def reservedResume : DecisionId := 0

structure PreparedPaidHttpPayment where
  attempt : X402AttemptRow
  mode : PaymentMode
  policyGate : PolicyGate
  quote : RuntimeQuote
  quoteHash : Hash
  quotePayload : QuotePayload
  reservationId : ReservationId
  source : PaymentSourceRow

structure PaymentRequired where
  resource : JsonObject
  accepts : List RuntimeX402Accept

def paymentAccessDisabled : Failure :=
  IdentityError.mk "payment_access_disabled" 403 "Payment access is disabled for this agent."

/-- The checks of `activePaymentAccount`: the org and the agent as its snapshot has them, the account as locked -/
def checkActiveAccount (frozen : Bool) (agentStatus : AgentStatus) (row : AgentPaymentAccountRow) :
    Except Failure AgentPaymentAccountRow :=
  if frozen then
    .error (IdentityError.mk "org_frozen" 403 "This workspace is frozen. No actions can proceed.")
  else if agentStatus = .paused ∨ agentStatus = .suspended then
    .error (IdentityError.mk "agent_frozen" 403 "This agent is frozen. No actions can proceed.")
  else if row.status ≠ .active ∨ !row.payment_access then .error paymentAccessDisabled
  else .ok row

def Db.destinationAllowed (db : Db) (orgId : OrgId) (chain : PaymentChain) (recipient : String) : Bool :=
  db.allowlist.rows.any fun row =>
    row.org_id = orgId ∧ row.chain = chain ∧ lower row.address = lower recipient ∧ row.status = .active

def selectQuote (db : Db) (auth : ConnectionAuthResult) (account : AgentPaymentAccountRow)
    (accepts : List RuntimeX402Accept) : Except Failure RuntimeQuote :=
  match supportedRuntimeQuotes orgPaymentMode accepts with
  | .error refused => .error refused
  | .ok supportedQuotes =>
    if supportedQuotes.isEmpty then
      .error (conflict "unsupported_payment_rail"
        "The x402 payment request is not compatible with this workspace's supported USDC rails.")
    else match supportedQuotes.find? fun candidate => candidate.rail ∈ account.allowed_rails with
      | none =>
        .error (IdentityError.mk "payment_rail_not_allowed" 403
          "This agent is not allowed to use the requested payment rail.")
      | some quote =>
        if db.destinationAllowed auth.org_id quote.chain quote.recipient then .ok quote
        else .error (conflict "payment_destination_not_allowed"
          "Payment destination is not on the org's verified allowlist.")

def newestFirst (a b : PaymentSourceRow) : Prop := b.created_at ≤ a.created_at

instance : DecidableRel newestFirst := fun a b => by unfold newestFirst; infer_instance

def activePaymentSource (db : Db) (orgId : OrgId) (rail : PaymentRail) (chain : PaymentChain) :
    Except Failure PaymentSourceRow :=
  let active := db.sources.rows.filter fun row =>
    row.org_id = orgId ∧ row.rail = rail ∧ row.chain = chain ∧ row.status = .active
  match (active.insertionSort newestFirst).head? with
  | none => .error (conflict "payment_source_unavailable" "No active payment source is available for this rail.")
  | some row => .ok row

def checkSource (quote : RuntimeQuote) (source : PaymentSourceRow) : Except Failure PaymentSourceRow :=
  if (source.provider = .circleGateway ∨ source.provider = .circleWallets) ∧
      (source.external_wallet_id = none ∨ source.address = none) then
    .error (conflict "payment_source_not_live"
      "Circle payment source is missing its wallet address or Circle wallet id.")
  else if quote.settlementKind = .gateway ∧ source.provider ≠ .circleGateway ∧ source.provider ≠ .simulation then
    .error (conflict "payment_source_incompatible" "Gateway x402 payments require a Gateway payment source.")
  else if quote.settlementKind = .directExact ∧ source.provider ≠ .circleWallets ∧ source.provider ≠ .simulation then
    .error (conflict "payment_source_incompatible" "Exact x402 payments require a Circle Wallets payment source.")
  else if source.provider = .simulation ∧ source.simulated_balance_usdc < quote.amountMicros then
    .error (conflict "insufficient_payment_source_balance" "Payment source does not have enough simulated balance.")
  else .ok source

def providerModeOf (source : PaymentSourceRow) : ProviderMode :=
  if source.provider = .simulation then .simulation else .mode orgPaymentMode

def quotePayloadOf (quote : RuntimeQuote) (resource : JsonObject) (source : PaymentSourceRow) : QuotePayload where
  accept := quote.accept
  resource := resource
  mode := providerModeOf source
  x402Network := quote.x402Network
  x402Amount := quote.amountMicros

inductive PolicyEffect where
  | allow
  | observe
  | approvalRequired
  | deny
  deriving DecidableEq

/-- What `checkPolicyDecision` answers -/
structure PolicyDecision where
  id : DecisionId
  decision : PolicyEffect
  reasonCode : String
  explanation : String
  deriving DecidableEq

def thresholdRequiresApproval (account : AgentPaymentAccountRow) (quote : RuntimeQuote) : Bool :=
  account.approval_threshold_usdc.any fun threshold => quote.amountMicros ≥ threshold

/-- `enforceX402Policy` for a context without an approval proof, as a payment call builds it. Either the policy denies,
or it says whether an approval is to be requested. -/
def enforceX402Policy (account : AgentPaymentAccountRow) (quote : RuntimeQuote) (policy : PolicyDecision) :
    Except Failure Bool :=
  if policy.decision = .deny then .error (IdentityError.mk policy.reasonCode 403 policy.explanation)
  else .ok (policy.decision = .approvalRequired ∨ thresholdRequiresApproval account quote)

def approvalRequiredMessage (account : AgentPaymentAccountRow) (quote : RuntimeQuote) (policy : PolicyDecision) :
    String :=
  if thresholdRequiresApproval account quote ∧ policy.decision ≠ .approvalRequired then
    "Payment amount is at or above the agent approval threshold of " ++
      formatUsdc (account.approval_threshold_usdc.getD 0) ++ " USDC."
  else policy.explanation

def paymentApprovalRequired (message : String) : Failure := IdentityError.mk "policy_requires_approval" 409 message

def approvalInput (hashes : Hashes) (auth : ConnectionAuthResult) (account : AgentPaymentAccountRow)
    (quote : RuntimeQuote) (payload : QuotePayload) (requestHash : Hash) (policy : PolicyDecision) :
    CreateApprovalInput where
  orgId := auth.org_id
  agentId := auth.agent_id
  connectionId := auth.connection_id
  decisionId := policy.id
  request := ⟨some requestHash, some (hashes.sha256Hex payload)⟩
  contextHash := hashes.approvalContextHash auth payload ⟨some requestHash, some (hashes.sha256Hex payload)⟩
    (if thresholdRequiresApproval account quote then account.approval_threshold_usdc else none)
  requiredApprovals := none

/-- The checks between policy and the writes: rail readiness, the caps of the account as locked, the agent's wallet -/
def checkLimits (account : AgentPaymentAccountRow) (quote : RuntimeQuote) (source : PaymentSourceRow)
    (approvalRequired : Bool) (readinessFailure : Option IdentityError) (spendable : Option Nat) : Except Failure Unit :=
  let refused := if !approvalRequired ∧ source.provider ≠ .simulation then readinessFailure else none
  match refused with
  | some error => .error error
  | none =>
    if 0 < account.per_request_cap_usdc ∧ account.per_request_cap_usdc < quote.amountMicros then
      .error (conflict "per_request_cap_exceeded" "Payment amount exceeds the agent per-request cap.")
    else if account.budget_usdc < account.spent_usdc + account.reserved_usdc + quote.amountMicros then
      .error (conflict "budget_exceeded" "Payment amount exceeds the agent budget.")
    else if spendable.any fun balance => balance < quote.amountMicros then
      .error (conflict "insufficient_agent_wallet_balance"
        "Payment amount exceeds the agent wallet spendable balance.")
    else .ok ()

def reservationOf (id : ReservationId) (began : Time) (auth : ConnectionAuthResult) (quote : RuntimeQuote)
    (source : PaymentSourceRow) (attemptId : AttemptId) (quoteHash : Hash) (payload : QuotePayload) :
    PaymentReservationRow where
  id := id
  org_id := auth.org_id
  agent_id := auth.agent_id
  connection_id := some auth.connection_id
  source_id := source.id
  amount_usdc := quote.amountMicros
  rail := quote.rail
  status := .reserved
  reason_code := .x402Attempt attemptId
  quote_hash := quoteHash
  quote := some payload
  expires_at := began + fifteenMinutes
  created_at := began

def attemptInput (auth : ConnectionAuthResult) (idempotencyKey : String) (requestHash quoteHash : Hash)
    (quote : RuntimeQuote) (source : PaymentSourceRow) : CreateX402AttemptInput where
  orgId := auth.org_id
  agentId := auth.agent_id
  connectionId := auth.connection_id
  sourceId := source.id
  idempotencyKey := idempotencyKey
  requestHash := requestHash
  quoteHash := quoteHash
  amountUsdc := quote.amountMicros
  rail := quote.rail
  network := quote.x402Network
  recipient := quote.recipient

def preparedMetadata (gate : PolicyGate) (mode : ProviderMode) (reservationId : ReservationId) : X402PaymentMetadata :=
  { X402PaymentMetadata.empty with
    approvalId := gate.approvalId, decisionId := some gate.decisionId, providerMode := some mode
    reservationId := some reservationId }

/-- The last writes of `preparePaidHttpPayment`, from `createAttempt` on. `began` is the `now()` of the transaction. -/
def writePrepared (hashes : Hashes) (db : Db) (began : Time) (auth : ConnectionAuthResult) (idempotencyKey : String)
    (requestHash : Hash) (quote : RuntimeQuote) (source : PaymentSourceRow) (resource : JsonObject) (gate : PolicyGate)
    (attemptId : AttemptId) (reservationId : ReservationId) : Except Failure (Db × PreparedPaidHttpPayment) :=
  let payload := quotePayloadOf quote resource source
  let quoteHash := hashes.sha256Hex payload
  match createAttempt db began attemptId (attemptInput auth idempotencyKey requestHash quoteHash quote source) with
  | .error failure => .error failure
  | .ok (db, attempt) =>
    match db.reservations.insert? (reservationOf reservationId began auth quote source attempt.id quoteHash payload) with
    | none => .error (.constraint "payment_reservations_pkey")
    | some reservations =>
      let metadata := attempt.payment_metadata.merge (preparedMetadata gate payload.mode reservationId)
      let reserved := ({ db with reservations }).addReserved (accountOf auth) quote.amountMicros
      let posted := reserved.writePosting
        { org_id := auth.org_id, agent_id := auth.agent_id, mode := orgPaymentMode, chain := some quote.chain
          entry_type := .reserve, amount_usdc := -quote.amountMicros, reservation_id := some reservationId
          attempt_id := some attempt.id, reason_code := "x402_attempt_prepared", created_by := "system" }
      .ok ({ posted with attempts := posted.attempts.put { attempt with payment_metadata := metadata } },
        { attempt, mode := orgPaymentMode, policyGate := gate, quote, quoteHash, quotePayload := payload, reservationId
          source })

/-- The open reservation of an attempt, as `resumePreparedPaidHttpPayment` looks it up -/
def Db.openReservation (db : Db) (auth : ConnectionAuthResult) (attemptId : AttemptId) :
    Option PaymentReservationRow :=
  db.reservations.rows.find? fun row =>
    row.org_id = auth.org_id ∧ row.connection_id = some auth.connection_id ∧
      row.reason_code = .x402Attempt attemptId ∧ row.status = .reserved

def Db.attemptSource (db : Db) (attempt : X402AttemptRow) (orgId : OrgId) : Except Failure PaymentSourceRow :=
  match db.sources.find? attempt.source_id with
  | none => .error (conflict "payment_source_unavailable" "Payment source is unavailable.")
  | some row =>
    if row.org_id = orgId ∧ row.status = .active then .ok row
    else .error (conflict "payment_source_unavailable" "Payment source is unavailable.")

def resumeQuote (attempt : X402AttemptRow) (reservation : PaymentReservationRow) :
    Except Failure (RuntimeQuote × QuotePayload) :=
  let invalid : Failure := conflict "payment_attempt_state_conflict" "Reserved payment quote is invalid."
  match reservation.quote with
  | none => .error invalid
  | some payload =>
    match quoteFromAccept payload.accept orgPaymentMode with
    | .error refused => .error refused
    | .ok none => .error invalid
    | .ok (some quote) => if reservation.quote_hash = attempt.quote_hash then .ok (quote, payload) else .error invalid

/-- The approval checks of `resumePreparedPaidHttpPayment`. `controlledResume` and `approvalAlreadyConsumed` are set
when retained evidence is being finalized; `hookAllows` is the answer of `canResumeReserved`. -/
def checkResumeApproval (approvals : Requests) (auth : ConnectionAuthResult) (attempt : X402AttemptRow)
    (finalizing hookAllows : Bool) : Except Failure Unit :=
  match attempt.payment_metadata.approvalId with
  | some approvalId =>
    if attempt.payment_metadata.decisionId = none then
      .error (conflict "payment_attempt_state_conflict" "Reserved payment approval binding is incomplete.")
    else match getApproval approvals auth.org_id approvalId with
      | .error failure => .error failure
      | .ok approval =>
        if approval.request.request_hash ≠ some attempt.request_hash ∨
            approval.request.quote_hash ≠ some attempt.quote_hash then
          .error (badRequest "approval_context_mismatch" "Approval does not match this x402 payment request.")
        else if approval.status = .pending then
          .error (paymentApprovalRequired "Payment approval is still pending.")
        else if finalizing ∧ approval.status = .consumed then .ok ()
        else if approval.status ≠ .approved then
          .error (conflict "approval_not_approved" "Approval must be approved before payment can resume.")
        else .ok ()
  | none =>
    if !finalizing ∧ attempt.payment_metadata.resumeReason = none ∧ !hookAllows then
      .error (conflict "payment_attempt_resume_required"
        "Reserved payment attempt requires an explicit controlled resume.")
    else .ok ()

def resumedGate (attempt : X402AttemptRow) : PolicyGate where
  approvalId := attempt.payment_metadata.approvalId
  decisionId := attempt.payment_metadata.decisionId.getD reservedResume

end AgentOps.Payments
