import AgentOps.Circle.Classification
import AgentOps.Payments.AttemptSteps
import AgentOps.Payments.Recovery

namespace AgentOps.Circle
open Lib Payments Identity

/-! # What is recorded of a payment whose outcome is not known -/

variable {decode : DecodeHeader} {input : SettlementInput} {seller : SellerAnswer}

namespace Outcome

variable {ε α : Type} {first last : Except ε Unit} {computation : Outcome ε α}

@[simp] theorem after_ok : computation.after (.ok ()) = computation := rfl

end Outcome

/-- The signed request was sent, and no well-formed receipt on the quoted network denies the payment. -/
def Ambiguous (decode : DecodeHeader) (input : SettlementInput) (route : Route) : Prop :=
  ∃ seller, route.sent decode input = some seller ∧ ¬Denied decode input.network seller

section Finalize

variable {db db' : Db} {now : Time} {auth : ConnectionAuthResult} {payment : PreparedPaidHttpPayment}
  {settlement : RuntimeX402SettlementResult} {eventId : EventId} {result : RuntimeX402PaymentResult} {row : X402AttemptRow}

end Finalize

def settlementInput (payment : PreparedPaidHttpPayment) (expectedPayer : String) : SettlementInput :=
  ⟨payment.mode, payment.quote.x402Requirements.network, expectedPayer⟩

namespace Submitted

def quote : RuntimeQuote where
  accept := ⟨"exact", "base-sepolia", none, none, some (.text "5"), some "0xseller", []⟩
  amountMicros := 5
  chain := .base
  rail := Workspace.baseExact
  recipient := "0xseller"
  settlementKind := .directExact
  x402Network := "eip155:84532"
  x402Requirements := ⟨5, "0xusdc", [], "eip155:84532", "0xseller"⟩

def attempt : X402AttemptRow where
  id := 1
  org_id := 1
  agent_id := 1
  connection_id := 10
  source_id := 1
  idempotency_key := "k"
  request_hash := "request"
  quote_hash := "quote"
  amount_usdc := 5
  rail := Workspace.baseExact
  network := "eip155:84532"
  recipient := "0xseller"
  status := .submitting
  payment_metadata := .empty
  retained := none
  error_code := none

def payment : PreparedPaidHttpPayment where
  attempt := attempt
  mode := .test
  policyGate := ⟨none, 1⟩
  quote := quote
  quoteHash := "quote"
  quotePayload := ⟨quote.accept, [], .mode .test, "eip155:84532", 5⟩
  reservationId := 1
  source := ⟨1, 1, .circleWallets, Workspace.baseExact, .base, .active, some "0xpayer", some "wallet", 0, 0⟩

def db : Db where
  orgs := .empty
  agents := .empty
  connections := .empty
  accounts := .singleton ⟨1, 1, .active, true, [], 10, 0, 5, 10, none⟩
  allowlist := .empty
  sources := .empty
  attempts := .singleton attempt
  reservations := .empty
  postings := []
  events := .empty
  escrowJobs := .empty

def receipt (transaction : String) : Json :=
  .object [("success", .bool true), ("network", .string "eip155:84532"), ("transaction", .string transaction),
    ("payer", .string "0xpayer")]

def answer : SellerResponse := ⟨[("payment-response", "receipt")], ⟨none, 0, 200⟩⟩

def answers : Route := .inProcess (.ok ()) ⟨.ok (), .ok answer⟩

theorem receipt_read (transaction : String) : receiptOf? (fun _ => some (receipt transaction)) answer =
    some ⟨true, "eip155:84532", some transaction, some "0xpayer", none⟩ := by
  simp [receiptOf?, paidHttpResponseHeader, answer, lower, receipt, Receipt.ofJson?, JsonObject.field?,
    JsonObject.string?, optionalText?]

theorem ambiguous (transaction : String) :
    Ambiguous (fun _ => some (receipt transaction)) (settlementInput payment "0xpayer") answers := by
  refine ⟨.ok answer, rfl, ?_⟩
  rintro ⟨_, read, ⟨⟩, found, -, unsuccessful⟩
  obtain rfl := Option.some.inj ((receipt_read transaction).symm.trans found)
  cases unsuccessful

end Submitted

def unlockFails : Route :=
  .worker ⟨true, .ok (), .ok (), .ok (), false, .ok (), .ok (), ⟨.ok (), .error "paid_http_timeout"⟩, .ok (),
    .error (.thrown "Connection terminated unexpectedly")⟩ .whole

end AgentOps.Circle
