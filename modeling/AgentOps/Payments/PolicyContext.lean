import AgentOps.PaidHttp.Destinations
import AgentOps.Payments.Prepare
import AgentOps.Policy.Recipients

namespace AgentOps.Payments
open Lib Identity
open Policy (PolicyDecisionRequest PolicyStatement EffectivePolicy PolicyDefaultEffect evaluatePolicyDecision Authored Applies
  Identified objectAt stringAt)

/-! # The context a payment is decided in -/

structure RuntimeX402PaymentInput where
  resource : Option JsonObject
  accepts : List RuntimeX402Accept
  context : Option JsonObject

structure X402Resource where
  url : Option String
  category : Option String
  domain : Option String

-- What `new URL` makes of a text, `none` where it throws
variable (newURL : String → Option PaidHttp.Url)

def domainFromUrl (url : Option String) : Option String := (url.bind newURL).map (·.hostname)

def x402Resource (input : RuntimeX402PaymentInput) : X402Resource :=
  let resource := input.resource.getD []
  let url := stringValue (resource.string? "url")
  { url, category := stringValue (resource.string? "category")
    domain := (domainFromUrl newURL url).or (stringValue (resource.string? "domain")) }

def nullable : Option String → Json
  | none => .null
  | some text => .string text

def PaymentRail.name (rail : PaymentRail) : String :=
  match rail.kind with
  | .gateway => "gateway_" ++ rail.chain.name
  | .directExact => "exact_" ++ rail.chain.name

def requestContextForPolicy (context : Option JsonObject) : JsonObject :=
  (context.getD []).filter fun entry => entry.1 ∉ ["approval_id", "approvalId", "decision_id", "decisionId"]

def x402PolicyContext (paymentInput : RuntimeX402PaymentInput) (quote : RuntimeQuote) (resource : X402Resource) : JsonObject :=
  [("payment", .object
      [("amount", .string (formatUsdc quote.amountMicros)), ("asset", .string "USDC"), ("network", .string quote.chain.name),
        ("rail", .string quote.rail.name), ("recipient", .string quote.recipient)]),
    ("request", .object (requestContextForPolicy paymentInput.context)),
    ("resource", .object
      [("category", nullable resource.category), ("domain", nullable resource.domain), ("url", nullable resource.url)])]

def RuntimeX402PaymentInput.withBinding (paymentInput : RuntimeX402PaymentInput) (quoteHash requestHash : Hash) :
    RuntimeX402PaymentInput :=
  { paymentInput with
    context := some ((paymentInput.context.getD []).spread
      [("quote_hash", .string quoteHash), ("request_hash", .string requestHash)]) }

/-- What `enforceX402Policy` asks -/
def x402PolicyRequest (auth : ConnectionAuthResult) (input : RuntimeX402PaymentInput) (quote : RuntimeQuote)
    (resource : X402Resource)
    (accountApprovalThresholdMicros : Option Nat) : PolicyDecisionRequest where
  actor := { type := .connection, id := some auth.connection_id }
  action := "payment.x402.authorize"
  target := ⟨.agent, some auth.agent_id⟩
  context := x402PolicyContext input quote resource ++
    match accountApprovalThresholdMicros.filter fun threshold => threshold ≤ quote.amountMicros with
    | some threshold =>
      [("control", .object
        [("approval_threshold_usdc", .string (formatUsdc threshold)), ("source", .string "agent_payment_account")])]
    | none => []

def policyRequestOf (auth : ConnectionAuthResult) (input : RuntimeX402PaymentInput) (quoteHash : RuntimeQuote → Hash)
    (requestHash : Hash) (accountApprovalThresholdMicros : Option Nat) (quote : RuntimeQuote) : PolicyDecisionRequest :=
  x402PolicyRequest auth (input.withBinding (quoteHash quote) requestHash) quote (x402Resource newURL input)
    accountApprovalThresholdMicros

/-- One offer, with its recipient spelled in capitals or not -/
structure SameButCase (quote quote' : RuntimeQuote) : Prop where
  address : lower quote'.recipient = lower quote.recipient
  rest : quote' =
    { quote with
      accept := { quote.accept with payTo := quote'.accept.payTo }
      recipient := quote'.recipient
      x402Requirements := { quote.x402Requirements with payTo := quote'.x402Requirements.payTo } }

variable {newURL} {auth : ConnectionAuthResult} {input : RuntimeX402PaymentInput} {quoteHash : RuntimeQuote → Hash}
  {requestHash : Hash} {threshold : Option Nat} {quote quote' : RuntimeQuote}

theorem blank_iff {text : String} : (trim text).length = 0 ↔ trimChars text.toList = [] := by
  rw [trim, String.length_ofList, List.length_eq_zero_iff]

theorem SameButCase.given (same : SameButCase quote quote') (given : (trim quote.recipient).length ≠ 0) :
    (trim quote'.recipient).length ≠ 0 := by
  have letters := congrArg String.toList same.address
  simp only [lower, String.toList_ofList] at letters
  rwa [ne_eq, blank_iff, ← trimChars_toLower, letters, trimChars_toLower, ← blank_iff]

theorem recipient_of_request (given : (trim quote.recipient).length ≠ 0) :
    stringAt (objectAt (policyRequestOf newURL auth input quoteHash requestHash threshold quote).context "payment") "recipient" =
      some quote.recipient := by
  have fields : objectAt (policyRequestOf newURL auth input quoteHash requestHash threshold quote).context "payment" =
      [("amount", .string (formatUsdc quote.amountMicros)), ("asset", .string "USDC"), ("network", .string quote.chain.name),
        ("rail", .string quote.rail.name), ("recipient", .string quote.recipient)] := rfl
  rw [fields]
  simp [stringAt, JsonObject.string?, JsonObject.field?, Option.filter, Nat.pos_of_ne_zero given]

theorem SameButCase.requests (same : SameButCase quote quote') :
    Policy.SameButRecipient (policyRequestOf newURL auth input quoteHash requestHash threshold quote)
      (policyRequestOf newURL auth input quoteHash requestHash threshold quote') := by
  rw [same.rest]
  exact ⟨rfl, rfl, rfl, rfl, rfl, rfl, rfl, rfl⟩

variable {policies : List EffectivePolicy} {defaultEffect : PolicyDefaultEffect}

theorem destination_letterCase (db : Db) (orgId : OrgId) (same : SameButCase quote quote') :
    db.destinationAllowed orgId quote'.chain quote'.recipient = db.destinationAllowed orgId quote.chain quote.recipient := by
  have chain : quote'.chain = quote.chain := congrArg (·.chain) same.rest
  simp only [Db.destinationAllowed, chain, same.address]

/-- Two spellings of a recipient are one to the allowlist, and to the policies only where their statements list both or neither.
The policies of a request are known by their ids and versions, and their statements by ids if they were validated. -/
theorem recipient_letterCase (db : Db) (same : SameButCase quote quote') (given : (trim quote.recipient).length ≠ 0)
    (identified : Identified policies) :
    ((db.destinationAllowed auth.org_id quote'.chain quote'.recipient = db.destinationAllowed auth.org_id quote.chain quote.recipient ∧
      evaluatePolicyDecision (policyRequestOf newURL auth input quoteHash requestHash threshold quote) policies defaultEffect =
        evaluatePolicyDecision (policyRequestOf newURL auth input quoteHash requestHash threshold quote') policies defaultEffect) ↔
      Policy.ListedAlike policies (policyRequestOf newURL auth input quoteHash requestHash threshold quote) quote.recipient
        quote'.recipient) ∧
    ∀ (store : Policy.PolicyStore) (orgId : OrgId) (request : PolicyDecisionRequest),
      (∀ policy ∈ store.effectivePoliciesForRequest orgId request, ∃ knownActions actionConditionGroups,
        (Policy.validatePolicyStatements knownActions actionConditionGroups policy.statements).valid = true) →
      Identified (store.effectivePoliciesForRequest orgId request) := by
  refine ⟨?_, fun _ _ _ => Policy.effectivePolicies_identified⟩
  rw [and_iff_right (destination_letterCase db auth.org_id same)]
  exact Policy.evaluate_recipient_iff same.requests identified (recipient_of_request given) (recipient_of_request (same.given given))

def checksummed : RuntimeQuote where
  accept :=
    { scheme := "exact", network := "eip155:8453", asset := some "USDC", amount := some (.text "1000000"), maxAmountRequired := none
      payTo := some "0x209693Bc6afc0C5328bA36FaF03C514EF312287C", extra := [] }
  amountMicros := 1000000
  chain := .base
  rail := ⟨.directExact, .base⟩
  recipient := "0x209693Bc6afc0C5328bA36FaF03C514EF312287C"
  settlementKind := .directExact
  x402Network := "eip155:8453"
  x402Requirements :=
    { amount := 1000000, asset := "0x833589fCD6eDb6E08f4c7C32D4f71b54bdA02913", extra := [("name", .string "USDC"), ("version", .string "2")]
      network := "eip155:8453", payTo := "0x209693Bc6afc0C5328bA36FaF03C514EF312287C" }

def lowerCased : RuntimeQuote :=
  { checksummed with
    accept := { checksummed.accept with payTo := some "0x209693bc6afc0c5328ba36faf03c514ef312287c" }
    recipient := "0x209693bc6afc0c5328ba36faf03c514ef312287c"
    x402Requirements := { checksummed.x402Requirements with payTo := "0x209693bc6afc0c5328ba36faf03c514ef312287c" } }

def denyRecipient : PolicyStatement where
  id := "stmt_deny"
  decision := .deny
  actions := ["payment.x402.authorize"]
  conditions := some { payment := some { recipients := some ["0x209693Bc6afc0C5328bA36FaF03C514EF312287C"] } }

def denyingRecipient : List EffectivePolicy := [⟨1, 1, "Blocked sellers", [denyRecipient]⟩]

def sellerDb : Db where
  orgs := .empty
  agents := .empty
  connections := .empty
  accounts := .empty
  allowlist := .singleton ⟨1, .base, checksummed.recipient, .active⟩
  sources := .empty
  attempts := .empty
  reservations := .empty
  postings := []
  events := .empty
  escrowJobs := .empty

def openPayment : RuntimeX402PaymentInput := ⟨none, [checksummed.accept], none⟩

example : quoteFromAccept lowerCased.accept .live = .ok (some lowerCased) := rfl

theorem lowerCased_same : SameButCase checksummed lowerCased := ⟨by decide +kernel, rfl⟩

/-- The seller spells its address in small letters and is paid. -/
theorem lowerCased_evades : ¬∀ (db : Db) (auth : ConnectionAuthResult) (input : RuntimeX402PaymentInput)
    (quoteHash : RuntimeQuote → Hash) (requestHash : Hash) (threshold : Option Nat) (policies : List EffectivePolicy)
    (defaultEffect : PolicyDefaultEffect) (quote quote' : RuntimeQuote), SameButCase quote quote' →
    db.destinationAllowed auth.org_id quote'.chain quote'.recipient = db.destinationAllowed auth.org_id quote.chain quote.recipient ∧
      evaluatePolicyDecision (policyRequestOf (fun _ => none) auth input quoteHash requestHash threshold quote) policies defaultEffect =
        evaluatePolicyDecision (policyRequestOf (fun _ => none) auth input quoteHash requestHash threshold quote') policies
          defaultEffect := by
  intro claimed
  have evaded := (claimed sellerDb ⟨1, 1, 1⟩ openPayment (fun _ => "quote") "request" none denyingRecipient .allow checksummed lowerCased
    lowerCased_same).2
  revert evaded
  decide +kernel

theorem recipient_letterCase_observed :
    sellerDb.destinationAllowed 1 lowerCased.chain lowerCased.recipient =
        sellerDb.destinationAllowed 1 checksummed.chain checksummed.recipient ∧
      evaluatePolicyDecision (policyRequestOf (fun _ => none) ⟨1, 1, 1⟩ openPayment (fun _ => "quote") "request" none checksummed)
          [⟨1, 1, "Blocked sellers", [{ id := "stmt_watch", decision := .observe, actions := ["*"] }]⟩] .allow =
        evaluatePolicyDecision (policyRequestOf (fun _ => none) ⟨1, 1, 1⟩ openPayment (fun _ => "quote") "request" none lowerCased)
          [⟨1, 1, "Blocked sellers", [{ id := "stmt_watch", decision := .observe, actions := ["*"] }]⟩] .allow := by
  refine (@recipient_letterCase (fun _ => none) ⟨1, 1, 1⟩ openPayment (fun _ => "quote") "request" none checksummed lowerCased _ .allow
    sellerDb lowerCased_same (by decide +kernel) ⟨?_, ?_⟩).1.mpr ?_
  · simp
  · simp
  · intro statement authored about
    simp [Authored] at authored
    simp [authored, PolicyStatement.recipients]

end AgentOps.Payments
