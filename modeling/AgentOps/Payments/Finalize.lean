import AgentOps.Payments.Prepare

namespace AgentOps.Payments
open Lib Identity

/-! # From the provider's answer to the final state -/

def attemptStateChanged : Failure := conflict "payment_attempt_state_conflict" "Payment attempt state changed."

/-- `WHERE id = … AND org_id = … AND connection_id = … AND status = 'submitting'`, where one row must match -/
def Db.submittingAttempt (db : Db) (id : AttemptId) (auth : ConnectionAuthResult) : Except Failure X402AttemptRow :=
  match db.attempts.find? id with
  | none => .error attemptStateChanged
  | some row =>
    if row.org_id = auth.org_id ∧ row.connection_id = auth.connection_id ∧ row.status = .submitting then .ok row
    else .error attemptStateChanged

/-- `WHERE … AND status = 'reserved'`, where nothing looks at the row count -/
def markPaidHttpAttemptRetryable (db : Db) (auth : ConnectionAuthResult) (attemptId : AttemptId) (reason : String) : Db :=
  match db.attempts.find? attemptId with
  | none => db
  | some row =>
    if row.org_id = auth.org_id ∧ row.connection_id = auth.connection_id ∧ row.status = .reserved then
      let metadata := row.payment_metadata.merge { X402PaymentMetadata.empty with resumeReason := some reason }
      { db with attempts := db.attempts.put { row with payment_metadata := metadata } }
    else db

def Db.storing (db : Db) (texts : List String) : Except Failure Db :=
  if texts.all storableText then .ok db else .error (.thrown "unsupported Unicode escape sequence")

def reportedTexts (settlement : RuntimeX402SettlementResult) : List String :=
  (settlement.payment.bind ProviderPayment.payer).toList ++ (settlement.payment.bind ProviderPayment.transaction).toList

def persistPaidHttpProviderEvidence (db : Db) (now : Time) (auth : ConnectionAuthResult) (attemptId : AttemptId)
    (settlement : RuntimeX402SettlementResult) : Except Failure Db := do
  let parsed ← db.storing (reportedTexts settlement)
  let row ← parsed.submittingAttempt attemptId auth
  let metadata := row.payment_metadata.merge
    { X402PaymentMetadata.empty with
      providerMode := some settlement.providerMode
      payer := settlement.payment.bind ProviderPayment.payer
      transactionHash := settlement.payment.bind ProviderPayment.transaction }
  let retained := some ⟨.evidence settlement, now + fifteenMinutes⟩
  .ok { parsed with attempts := parsed.attempts.put { row with payment_metadata := metadata, retained } }

def simulatedSettlement (quote : RuntimeQuote) : RuntimeX402SettlementResult where
  errorReason := none
  network := quote.x402Network
  payment := some ⟨none, quote.x402Network, none, .settled, none⟩
  providerMode := .simulation
  response := none
  success := true

/-- What a rejected provider call carries: the error's message and its `classification`, if it has one -/
structure ProviderError where
  message : String
  classification : Option String
  deriving DecidableEq

/-- The `catch` around the provider call of `payRuntimeX402` -/
def settlementOfError (mode : PaymentMode) (quote : RuntimeQuote) (error : ProviderError) :
    RuntimeX402SettlementResult where
  errorReason := some error.message
  network := quote.x402Network
  payment := some ⟨some error.message, quote.x402Network, none,
    if error.classification = some "ambiguous_post_submit" then .unknown else .failed, none⟩
  providerMode := .mode mode
  response := none
  success := false

def settlementOfAnswer (mode : PaymentMode) (quote : RuntimeQuote) :
    Except ProviderError RuntimeX402SettlementResult → RuntimeX402SettlementResult
  | .ok settlement => settlement
  | .error error => settlementOfError mode quote error

def settlementStatus (settlement : RuntimeX402SettlementResult) : Option ProviderPaymentStatus :=
  settlement.payment.map ProviderPayment.status

def recordedStatus (settlement : RuntimeX402SettlementResult) : X402AttemptStatus :=
  match settlementStatus settlement with
  | some .settled => .settled
  | some .failed => .failed
  | _ => .unknown

def terminalErrorCode (settlement : RuntimeX402SettlementResult) : String :=
  (settlement.payment.bind ProviderPayment.errorCode).getD
    (if recordedStatus settlement = .failed then "payment_settlement_failed" else "payment_settlement_unknown")

def eventOf (id : EventId) (auth : ConnectionAuthResult) (prepared : PreparedPaidHttpPayment)
    (settlement : RuntimeX402SettlementResult) (decision : PaymentEventDecision) (result : PaymentEventResult) :
    PaymentEventRow where
  id := id
  org_id := auth.org_id
  agent_id := auth.agent_id
  connection_id := auth.connection_id
  source_id := prepared.source.id
  reservation_id := prepared.reservationId
  decision := decision
  provider_mode := settlement.providerMode
  rail := prepared.quote.rail
  chain := prepared.quote.chain
  amount_usdc := prepared.quote.amountMicros
  recipient := prepared.quote.recipient
  network := prepared.quote.x402Network
  quote := prepared.quotePayload
  result := result

def resultOf (id : EventId) (auth : ConnectionAuthResult) (prepared : PreparedPaidHttpPayment)
    (settlement : RuntimeX402SettlementResult) (network : String) (errorCode : Option String) :
    RuntimeX402PaymentResult where
  payment :=
    { id := some id, attemptId := prepared.attempt.id, status := recordedStatus settlement
      providerMode := some settlement.providerMode, rail := prepared.quote.rail, chain := prepared.quote.chain
      amount := prepared.quote.amountMicros, agentId := auth.agent_id, connectionId := auth.connection_id
      sourceId := prepared.source.id, reservationId := some prepared.reservationId
      recipient := prepared.quote.recipient, network, transaction := settlement.payment.bind ProviderPayment.transaction
      payer := settlement.payment.bind ProviderPayment.payer, errorCode
      responseAvailable := settlement.response.isSome }
  response := settlement.response

def finalMetadata (id : EventId) (prepared : PreparedPaidHttpPayment) (settlement : RuntimeX402SettlementResult) :
    X402PaymentMetadata :=
  { X402PaymentMetadata.empty with
    eventId := some id, providerMode := some settlement.providerMode, reservationId := some prepared.reservationId
    payer := settlement.payment.bind ProviderPayment.payer
    transactionHash := settlement.payment.bind ProviderPayment.transaction }

def postingOf (auth : ConnectionAuthResult) (prepared : PreparedPaidHttpPayment) (entryType : LedgerEntryType)
    (reasonCode : String) : LedgerPostingRow where
  org_id := auth.org_id
  agent_id := auth.agent_id
  mode := prepared.mode
  chain := some prepared.quote.chain
  entry_type := entryType
  amount_usdc := prepared.quote.amountMicros
  reservation_id := some prepared.reservationId
  attempt_id := some prepared.attempt.id
  reason_code := reasonCode
  created_by := "system"

/-- `simulated_balance_usdc = simulated_balance_usdc - amount` under its `CHECK` -/
def Db.debitSource (db : Db) (source : PaymentSourceRow) (amount : Nat) : Except Failure Db :=
  if source.provider ≠ .simulation then .ok db
  else match db.sources.find? source.id with
    | none => .ok db
    | some row =>
      if row.simulated_balance_usdc < amount then .error (.constraint "payment_sources_simulated_balance_usdc_check")
      else .ok { db with sources := db.sources.put { row with simulated_balance_usdc := row.simulated_balance_usdc - amount } }

def finalizeSettledPaidHttpPayment (db : Db) (now : Time) (auth : ConnectionAuthResult)
    (prepared : PreparedPaidHttpPayment) (settlement : RuntimeX402SettlementResult) (payment : ProviderPayment)
    (eventId : EventId) : Except Failure (Db × RuntimeX402PaymentResult) := do
  let closed := db.closeReservation prepared.reservationId auth.org_id .settled
  let counted ← closed.moveToSpent (accountOf auth) prepared.quote.amountMicros
  let posted := counted.writePosting (postingOf auth prepared .settle "x402_payment_settled")
  let debited ← posted.debitSource prepared.source prepared.quote.amountMicros
  let parsed ← debited.storing (payment.network :: reportedTexts settlement)
  let recorded ← parsed.insertEvent
    (eventOf eventId auth prepared settlement .settled (.settled payment.network payment.transaction))
  let result := resultOf eventId auth prepared settlement payment.network none
  let row ← recorded.submittingAttempt prepared.attempt.id auth
  let finalized :=
    { row with
      status := .settled, payment_metadata := finalMetadata eventId prepared settlement, error_code := none
      retained := some ⟨.result settlement result, now + fifteenMinutes⟩ }
  .ok ({ recorded with attempts := recorded.attempts.put finalized }, result)

def finalizeTerminalPaidHttpPayment (db : Db) (now : Time) (auth : ConnectionAuthResult)
    (prepared : PreparedPaidHttpPayment) (settlement : RuntimeX402SettlementResult) (status : X402AttemptStatus)
    (eventId : EventId) : Except Failure (Db × RuntimeX402PaymentResult) := do
  let errorCode := terminalErrorCode settlement
  let released ←
    if status = .failed then do
      let closed := db.closeReservation prepared.reservationId auth.org_id .released
      let counted ← closed.subReserved (accountOf auth) prepared.quote.amountMicros
      .ok (counted.writePosting (postingOf auth prepared .release "x402_payment_failed"))
    else .ok db
  let parsed ← released.storing (errorCode :: reportedTexts settlement)
  let recorded ← parsed.insertEvent
    (eventOf eventId auth prepared settlement (if status = .failed then .failed else .submitted)
      (.terminal errorCode status))
  let network := (settlement.payment.map ProviderPayment.network).getD prepared.quote.x402Network
  let result := resultOf eventId auth prepared settlement network (some errorCode)
  let row ← recorded.submittingAttempt prepared.attempt.id auth
  let finalized :=
    { row with
      status, payment_metadata := row.payment_metadata.merge (finalMetadata eventId prepared settlement)
      error_code := some errorCode, retained := some ⟨.result settlement result, now + fifteenMinutes⟩ }
  .ok ({ recorded with attempts := recorded.attempts.put finalized }, result)

/-- The two ways `payRuntimeX402` ends, by the status the settlement carries -/
def finalizePaidHttpPayment (db : Db) (now : Time) (auth : ConnectionAuthResult) (prepared : PreparedPaidHttpPayment)
    (settlement : RuntimeX402SettlementResult) (eventId : EventId) : Except Failure (Db × RuntimeX402PaymentResult) :=
  match settlement.payment with
  | some payment =>
    match payment.status with
    | .settled => finalizeSettledPaidHttpPayment db now auth prepared settlement payment eventId
    | .failed => finalizeTerminalPaidHttpPayment db now auth prepared settlement .failed eventId
    | .unknown => finalizeTerminalPaidHttpPayment db now auth prepared settlement .unknown eventId
  | none => finalizeTerminalPaidHttpPayment db now auth prepared settlement .unknown eventId

def paymentResultFromAttempt (attempt : X402AttemptRow) : RuntimeX402PaymentResult where
  payment :=
    { id := attempt.payment_metadata.eventId, attemptId := attempt.id, status := attempt.status
      providerMode := attempt.payment_metadata.providerMode, rail := attempt.rail, chain := attempt.rail.chain
      amount := attempt.amount_usdc, agentId := attempt.agent_id, connectionId := attempt.connection_id
      sourceId := attempt.source_id, reservationId := attempt.payment_metadata.reservationId
      recipient := attempt.recipient, network := attempt.network
      transaction := attempt.payment_metadata.transactionHash, payer := attempt.payment_metadata.payer
      errorCode := attempt.error_code, responseAvailable := false }
  response := none

end AgentOps.Payments
