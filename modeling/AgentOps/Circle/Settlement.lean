import AgentOps.Payments.Finalize
import AgentOps.Lib.Json
import AgentOps.Lib.Text

namespace AgentOps.Circle
open Lib Payments

/-! # A signed payment request, from the seller back to the payment call -/

def canonicalSettlementResult (mode : PaymentMode) (payment : ProviderPayment) (response : Option PaidHttpResponse) :
    RuntimeX402SettlementResult where
  errorReason := payment.errorCode
  network := payment.network
  payment := some payment
  providerMode := .mode mode
  response := response
  success := payment.status = .settled

structure SellerResponse where
  headers : List (String × String)
  response : PaidHttpResponse
  deriving DecidableEq

def paidHttpResponseHeader (answer : SellerResponse) : Option String :=
  (answer.headers.find? fun header =>
    lower header.1 = "payment-response" ∨ lower header.1 = "x-payment-response").map Prod.snd

structure Receipt where
  success : Bool
  network : String
  transaction : Option String
  payer : Option String
  errorReason : Option String
  deriving DecidableEq

def optionalText? (fields : JsonObject) (name : String) : Option (Option String) :=
  match JsonObject.field? fields name with
  | none => some none
  | some (.string value) => some (some value)
  | some _ => none

def Receipt.ofJson? : Json → Option Receipt
  | .object fields => do
    let success ← match JsonObject.field? fields "success" with
      | some (.bool value) => some value
      | _ => none
    let network ← JsonObject.string? fields "network"
    let transaction ← optionalText? fields "transaction"
    let payer ← optionalText? fields "payer"
    let errorReason ← optionalText? fields "errorReason"
    some { success, network, transaction, payer, errorReason }
  | _ => none

def networkOf? : Json → Option String
  | .object fields => JsonObject.string? fields "network"
  | _ => none

def blank (value : Option String) : Bool := (value.map trim).getD "" = ""

def Receipt.incomplete (receipt : Receipt) : Bool :=
  receipt.success && (receipt.network = "" || blank receipt.transaction || blank receipt.payer)

def Receipt.paidByOther (receipt : Receipt) (expectedPayer : String) : Bool :=
  receipt.success && receipt.payer.any fun payer => lower payer ≠ lower expectedPayer

def Receipt.payment (receipt : Receipt) (status : ProviderPaymentStatus) (errorCode : Option String) :
    ProviderPayment where
  errorCode := errorCode
  network := receipt.network
  payer := receipt.payer
  status := status
  transaction := receipt.transaction

/-- `decodePaymentResponseHeader`, which belongs to a package, throws on a header it cannot decode. -/
abbrev DecodeHeader := String → Option Json

def developerResponsePayment (decode : DecodeHeader) (network expectedPayer : String) (answer : SellerResponse) :
    ProviderPayment :=
  let malformed (network : String) : ProviderPayment :=
    ⟨some "payment_response_malformed", network, none, .unknown, none⟩
  match paidHttpResponseHeader answer with
  | none => ⟨some "payment_response_missing", network, none, .unknown, none⟩
  | some encodedReceipt =>
    if encodedReceipt = "" then ⟨some "payment_response_missing", network, none, .unknown, none⟩
    else match decode encodedReceipt with
      | none => malformed network
      | some decoded =>
        match Receipt.ofJson? decoded with
        | none => malformed ((networkOf? decoded).getD network)
        | some receipt =>
          if receipt.incomplete then receipt.payment .unknown (some "payment_response_malformed")
          else if receipt.network ≠ network then receipt.payment .unknown (some "payment_response_network_mismatch")
          else if receipt.paidByOther expectedPayer then
            receipt.payment .unknown (some "payment_response_payer_mismatch")
          else if receipt.success then receipt.payment .settled none
          else receipt.payment .failed (some (receipt.errorReason.getD "payment_settlement_failed"))

def developerResponseResult (decode : DecodeHeader) (mode : PaymentMode) (network expectedPayer : String)
    (answer : SellerResponse) : RuntimeX402SettlementResult :=
  canonicalSettlementResult mode (developerResponsePayment decode network expectedPayer answer) (some answer.response)

abbrev SellerAnswer := Except String SellerResponse

structure Outcome (ε α : Type) where
  value : Except ε α
  sent : Option SellerAnswer

structure SettlementInput where
  mode : PaymentMode
  network : String
  expectedPayer : String

structure Exchange where
  createPayload : Except String Unit
  execute : SellerAnswer

def executeSignedX402 {ε : Type} (decode : DecodeHeader) (input : SettlementInput) (exchange : Exchange) :
    Outcome ε RuntimeX402SettlementResult :=
  match exchange.createPayload with
  | .error code =>
    ⟨.ok (canonicalSettlementResult input.mode ⟨some code, input.network, none, .failed, none⟩ none), none⟩
  | .ok () =>
    match exchange.execute with
    | .error code =>
      ⟨.ok (canonicalSettlementResult input.mode ⟨some code, input.network, none, .unknown, none⟩ none),
        some (.error code)⟩
    | .ok answer =>
      ⟨.ok (developerResponseResult decode input.mode input.network input.expectedPayer answer), some (.ok answer)⟩

namespace Outcome

variable {ε α : Type}

/-- `await first; return computation` -/
def after (first : Except ε Unit) (computation : Outcome ε α) : Outcome ε α :=
  match first with
  | .error error => ⟨.error error, none⟩
  | .ok () => computation

/-- `const result = await computation; await last; return result` -/
def followedBy (computation : Outcome ε α) (last : Except ε Unit) : Outcome ε α :=
  match computation.value, last with
  | .ok _, .error error => { computation with value := .error error }
  | _, _ => computation

/-- `try { return await computation } finally { await last }` -/
def withFinally (computation : Outcome ε α) (last : Except ε Unit) : Outcome ε α :=
  match last with
  | .error error => { computation with value := .error error }
  | .ok () => computation

end Outcome

/-- A status that `response.ok` refuses -/
abbrev FailedStatus := { status : Nat // ¬(200 ≤ status ∧ status < 300) }

inductive WorkerError where
  /-- A `ZodError`, or a `PaidHttpError` with the code `invalid_destination` -/
  | validation (message : String)
  | identity (code : String) (status : FailedStatus) (message : String)
  | thrown (message : String)

/-- How each part of a request to `/internal/circle/provider/execute` turns out -/
structure WorkerRun where
  authorized : Bool
  parsed : Except WorkerError Unit
  /-- `pg_try_advisory_lock`, within its deadline -/
  locked : Except WorkerError Unit
  checked : Except WorkerError Unit
  developerControlled : Bool
  connected : Except WorkerError Unit
  configured : Except WorkerError Unit
  exchange : Exchange
  saved : Except WorkerError Unit
  /-- `pg_advisory_unlock` -/
  unlocked : Except WorkerError Unit

section Worker

variable (decode : DecodeHeader) (input : SettlementInput)

def settleX402 {ε : Type} (configured : Except ε Unit) (exchange : Exchange) : Outcome ε RuntimeX402SettlementResult :=
  (executeSignedX402 decode input exchange).after configured

namespace WorkerRun

def invoke (run : WorkerRun) : Outcome WorkerError RuntimeX402SettlementResult :=
  let operation := settleX402 decode input run.configured run.exchange
  if run.developerControlled then operation else (operation.followedBy run.saved).after run.connected

def execute (run : WorkerRun) : Outcome WorkerError RuntimeX402SettlementResult :=
  (((((run.invoke decode input).after run.checked).withFinally run.unlocked).after run.locked).after run.parsed)

end WorkerRun

inductive WorkerAnswer where
  | settlement (result : RuntimeX402SettlementResult)
  | failed (status : FailedStatus) (error message : Option String)

def errorCodeOf (underlying : String) : String :=
  if startsWith underlying "circle_" then String.ofList (underlying.toList.takeWhile (· ≠ ':'))
  else "circle_worker_operation_failed"

/-- `app.setErrorHandler` -/
def answerOfError : WorkerError → WorkerAnswer
  | .validation message => .failed ⟨400, by decide⟩ (some "circle_worker_validation_error") (some message)
  | .identity code status message => .failed status (some code) (some message)
  | .thrown underlying =>
    let code := errorCodeOf underlying
    let message := if underlying = "" then code else underlying
    if code = "circle_worker_testnet_only" ∨ code = "circle_worker_x402_authority_invalid" then
      .failed ⟨400, by decide⟩ (some code) (some message)
    else .failed ⟨409, by decide⟩ (some code) (some message)

def WorkerRun.sent (run : WorkerRun) : Option SellerAnswer :=
  if run.authorized then (run.execute decode input).sent else none

def WorkerRun.answer (run : WorkerRun) : WorkerAnswer :=
  if run.authorized then
    match (run.execute decode input).value with
    | .ok result => .settlement result
    | .error error => answerOfError error
  else .failed ⟨401, by decide⟩ (some "circle_worker_unauthorized") none

end Worker

inductive Delivery where
  /-- `fetch` rejects: there is no connection, it breaks off, or the time is over. -/
  | lost
  | whole
  /-- `response.json()` rejects: the body breaks off or is no JSON. -/
  | cut (message : String)
  | replaced (status : FailedStatus) (error message : Option String)

def readAnswer : WorkerAnswer → Except ProviderError RuntimeX402SettlementResult
  | .settlement result => .ok result
  | .failed status error message =>
    let code := error.getD ("circle_worker_" ++ toString status.val)
    .error ⟨message.getD code, none⟩

def workerRequest (transportFailureClassification : Option String) (answer : WorkerAnswer) :
    Delivery → Except ProviderError RuntimeX402SettlementResult
  | .lost => .error ⟨"Circle Agent Wallet worker is unavailable.", transportFailureClassification⟩
  | .whole => readAnswer answer
  | .cut message => .error ⟨message, none⟩
  | .replaced status error message => readAnswer (.failed status error message)

inductive Route where
  | inProcess (configured : Except ProviderError Unit) (exchange : Exchange)
  | worker (run : WorkerRun) (delivery : Delivery)

namespace Route

variable (decode : DecodeHeader) (input : SettlementInput)

def sent : Route → Option SellerAnswer
  | .inProcess configured exchange => (settleX402 decode input configured exchange).sent
  | .worker run _ => if input.mode = .test then run.sent decode input else none

/-- `settleExactX402` and `settleGatewayX402` -/
def settle : Route → Except ProviderError RuntimeX402SettlementResult
  | .inProcess configured exchange => (settleX402 decode input configured exchange).value
  | .worker run delivery =>
    if input.mode = .test then workerRequest (some "ambiguous_post_submit") (run.answer decode input) delivery
    else .error ⟨"circle_worker_testnet_only", none⟩

end Route

end AgentOps.Circle
