import AgentOps.Payments.PolicyContext
import AgentOps.Policy.Enforcement

namespace AgentOps.Policy
open Lib Identity
open Payments (stringValue domainFromUrl x402Resource x402PolicyContext RuntimeX402PaymentInput RuntimeQuote)

/-! # The resource that policies are asked about -/

structure RuntimeCheckInput where
  intent : Option String
  action : Option String
  resource : Option JsonObject
  payment : Option JsonObject
  tool : Option JsonObject
  context : Option JsonObject

def withString (fields : JsonObject) (name : String) : Option String → JsonObject
  | none => fields
  | some text => fields.set name (.string text)

def withObject (fields : JsonObject) (name : String) (value : JsonObject) : JsonObject :=
  if value.isEmpty then fields else fields.set name (.object value)

section

variable (newURL : String → Option PaidHttp.Url)

def mergeResource (resource : JsonObject) : JsonObject :=
  let url := stringValue (resource.string? "url")
  let domain := (domainFromUrl newURL url).or (stringValue (resource.string? "domain"))
  withString (withString resource "url" url) "domain" domain

def missingFacts (action : String) (resource payment tool : JsonObject) : List String :=
  (if action = "payment.x402.authorize" then
    ((["amount", "asset", "network", "recipient"].filter fun field => (stringValue (payment.string? field)).isNone).map
        fun field => "payment." ++ field) ++
      if stringValue (resource.string? "url") = none then ["resource.url"] else []
  else []) ++
    (if action = "tool.call" ∧ stringValue (tool.string? "name") = none then ["tool.name"] else []) ++
    if action = "runtime.http.request" ∧ stringValue (resource.string? "url") = none ∧ stringValue (resource.string? "category") = none
    then ["resource.url_or_category"] else []

def normalizeStructured (input : RuntimeCheckInput) : NormalizedRuntimeRequest :=
  let resource := mergeResource newURL (input.resource.getD [])
  let payment := input.payment.getD []
  let tool := input.tool.getD []
  let context :=
    withObject (withObject (withObject (input.context.getD []) "resource" resource) "payment" payment) "tool" tool
  match stringValue input.action with
  | none => .incomplete none ["action"] "The runtime check needs a structured action."
  | some action =>
    match missingFacts action resource payment tool with
    | [] => .complete action context
    | missingFields => .incomplete (some action) missingFields "The runtime check is missing required facts."

def normalizeIntent (intent : String) : NormalizedRuntimeRequest :=
  let lowered := lower intent
  if containsText lowered "weather" then
    .complete "runtime.http.request" [("intent", .string intent), ("resource", .object [("category", .string "weather")])]
  else if containsText lowered "x402" || containsText lowered "paid" || containsText lowered "payment" then
    .incomplete (some "payment.x402.authorize")
      ["resource.url", "payment.amount", "payment.asset", "payment.network", "payment.recipient"]
      "Payment checks need exact payment facts before policy can evaluate them."
  else if containsText lowered "tool" then
    .incomplete (some "tool.call") ["tool.name"] "Tool checks need the tool name before policy can evaluate them."
  else .incomplete none ["action"] "agentOps could not normalize this intent into a known runtime action."

def normalizeRuntimeCheck (input : RuntimeCheckInput) : NormalizedRuntimeRequest :=
  match stringValue input.intent, stringValue input.action with
  | some intent, none => normalizeIntent intent
  | _, _ => normalizeStructured newURL input

/-- What an operation check is sent with, before `normalizedContext` -/
structure OperationInput where
  agent_id : AgentId
  connection_id : Option ConnectionId
  action : String
  resource : Option JsonObject
  tool : Option JsonObject
  context : Option JsonObject

def normalizedContext (input : OperationInput) : JsonObject :=
  let resource := input.resource.getD []
  let url := stringValue (resource.string? "url")
  let domain := (stringValue (resource.string? "domain")).or (domainFromUrl newURL url)
  let normalizedResource := withString (withString resource "url" url) "domain" domain
  withObject (withObject (input.context.getD []) "resource" normalizedResource) "tool" (input.tool.getD [])

def OperationInput.normalized (input : OperationInput) : OperationCheckInput where
  agent_id := input.agent_id
  connection_id := input.connection_id
  action := input.action
  context := normalizedContext newURL input

def presentedDomain (context : JsonObject) : Option String := (objectAt context "resource").string? "domain"

def givenHost (resource context : Option JsonObject) : Option String :=
  (domainFromUrl newURL (stringValue ((resource.getD []).string? "url"))).or
    (domainFromUrl newURL (stringValue ((objectAt (context.getD []) "resource").string? "url")))

/-- Whatever is asked of the policies is asked about the host. -/
structure PresentsHost (host : String) (check : RuntimeCheckInput) (operation : OperationInput)
    (payment : RuntimeX402PaymentInput)
    (quote : RuntimeQuote) : Prop where
  runtime : ∀ action context, normalizeRuntimeCheck newURL check = .complete action context → presentedDomain context = some host
  operation : validateOperationalInput (operation.normalized newURL) = .ok () →
    presentedDomain (normalizedContext newURL operation) = some host
  payment : presentedDomain (x402PolicyContext payment quote (x402Resource newURL payment)) = some host

end

variable {newURL : String → Option PaidHttp.Url} {resource context : Option JsonObject} {host : String}

theorem string?_withString {fields : JsonObject} {name text : String} :
    (withString fields name (some text)).string? name = some text :=
  JsonObject.string?_set_self

theorem objectAt_withObject {fields value : JsonObject} {name text field : String} (given : value.string? field = some text) :
    objectAt (withObject fields name value) name = value := by
  have some : value.isEmpty = false := by
    rw [List.isEmpty_eq_false_iff]
    rintro rfl
    cases given
  simp [withObject, some, objectAt, JsonObject.field?_set_self]

theorem objectAt_withObject_ne {fields value : JsonObject} {name other : String} (apart : name ≠ other) :
    objectAt (withObject fields name value) other = objectAt fields other := by
  unfold withObject
  split
  · rfl
  · simp only [objectAt, JsonObject.field?_set_ne apart]

def urlFirst (newURL : String → Option PaidHttp.Url) (resource : Option JsonObject) : Option String :=
  (domainFromUrl newURL (stringValue ((resource.getD []).string? "url"))).or (stringValue ((resource.getD []).string? "domain"))

def callerFirst (newURL : String → Option PaidHttp.Url) (resource : Option JsonObject) : Option String :=
  (stringValue ((resource.getD []).string? "domain")).or (domainFromUrl newURL (stringValue ((resource.getD []).string? "url")))

theorem normalizeStructured_domain {check : RuntimeCheckInput} {action domain : String} {presented : JsonObject}
    (normalized : normalizeStructured newURL check = .complete action presented) (chosen : urlFirst newURL check.resource = some domain) :
    presentedDomain presented = some domain := by
  have merged : (mergeResource newURL (check.resource.getD [])).string? "domain" = some domain := by
    simp only [mergeResource, show (domainFromUrl newURL (stringValue ((check.resource.getD []).string? "url"))).or
      (stringValue ((check.resource.getD []).string? "domain")) = some domain from chosen]
    exact string?_withString
  simp only [normalizeStructured] at normalized
  split at normalized
  · cases normalized
  split at normalized
  · cases normalized
    rw [presentedDomain, objectAt_withObject_ne (by decide), objectAt_withObject_ne (by decide), objectAt_withObject merged, merged]
  · cases normalized

theorem normalizedContext_domain {operation : OperationInput} {domain : String}
    (chosen : callerFirst newURL operation.resource = some domain) :
    presentedDomain (normalizedContext newURL operation) = some domain := by
  unfold normalizedContext
  simp only [show (stringValue ((operation.resource.getD []).string? "domain")).or
    (domainFromUrl newURL (stringValue ((operation.resource.getD []).string? "url"))) = some domain from chosen]
  rw [presentedDomain, objectAt_withObject_ne (by decide), objectAt_withObject string?_withString, string?_withString]

theorem x402PolicyContext_domain {payment : RuntimeX402PaymentInput} {quote : RuntimeQuote} :
    presentedDomain (x402PolicyContext payment quote (x402Resource newURL payment)) = urlFirst newURL payment.resource := by
  have resource : objectAt (x402PolicyContext payment quote (x402Resource newURL payment)) "resource" =
      [("category", Payments.nullable (x402Resource newURL payment).category),
        ("domain", Payments.nullable (urlFirst newURL payment.resource)), ("url", Payments.nullable (x402Resource newURL payment).url)] :=
    rfl
  rw [presentedDomain, resource]
  cases urlFirst newURL payment.resource <;> rfl

theorem normalizeRuntimeCheck_structured {check : RuntimeCheckInput}
    (structured : stringValue check.action = none → ∀ intent ∈ stringValue check.intent, containsText (lower intent) "weather" = false)
    {action : String} {presented : JsonObject} (normalized : normalizeRuntimeCheck newURL check = .complete action presented) :
    normalizeStructured newURL check = .complete action presented := by
  unfold normalizeRuntimeCheck at normalized
  split at normalized
  · rename_i intent named unnamed
    simp only [normalizeIntent, structured unnamed intent named] at normalized
    split at normalized
    · contradiction
    · split at normalized <;> [cases normalized; (split at normalized <;> cases normalized)]
  · exact normalized

/-- A resource is presented by the host of its url where the url is the resource's own and nothing else is said of the domain that
an operation check would believe, or where the caller names the host. An intent about the weather never is. -/
theorem presentsHost_iff (given : givenHost newURL resource context = some host) (check : RuntimeCheckInput)
    (operation : OperationInput)
    (payment : RuntimeX402PaymentInput) (quote : RuntimeQuote) :
    PresentsHost newURL host { check with resource, context } { operation with resource, context } { payment with resource, context }
        quote ↔
      (stringValue check.action = none → ∀ intent ∈ stringValue check.intent, containsText (lower intent) "weather" = false) ∧
        (stringValue ((resource.getD []).string? "domain") = some host ∨
          domainFromUrl newURL (stringValue ((resource.getD []).string? "url")) = some host ∧
            (validateOperationalInput (OperationInput.normalized newURL { operation with resource, context }) = .ok () →
              stringValue ((resource.getD []).string? "domain") = none)) := by
  have own {domain : String} (parsed : domainFromUrl newURL (stringValue ((resource.getD []).string? "url")) = some domain) :
      domain = host := by
    rw [givenHost, parsed] at given
    exact Option.some.inj given
  constructor
  · intro ⟨runtime, operated, paid⟩
    refine ⟨fun unnamed intent stated => ?_, ?_⟩
    · by_contra weather
      have asked : normalizeRuntimeCheck newURL { check with resource, context } = .complete "runtime.http.request"
          [("intent", .string intent), ("resource", .object [("category", .string "weather")])] := by
        simp only [normalizeRuntimeCheck, Option.mem_def.mp stated, unnamed, normalizeIntent, (Bool.not_eq_false _).mp weather, if_true]
      cases runtime _ _ asked
    · rw [x402PolicyContext_domain] at paid
      by_cases said : stringValue ((resource.getD []).string? "domain") = some host
      · exact .inl said
      · refine .inr ⟨?_, fun asked => ?_⟩
        · rcases parsed : domainFromUrl newURL (stringValue ((resource.getD []).string? "url")) with _ | domain
          · rw [urlFirst, parsed] at paid
            exact absurd paid said
          · rw [own parsed]
        · by_contra something
          obtain ⟨domain, caller⟩ := Option.ne_none_iff_exists'.mp something
          have chosen : callerFirst newURL resource = some domain := by rw [callerFirst, caller]; rfl
          have presented := operated asked
          rw [@normalizedContext_domain newURL { operation with resource, context } domain chosen] at presented
          exact said (caller.trans presented)
  · rintro ⟨structured, domain⟩
    have chosen : urlFirst newURL resource = some host := by
      rw [urlFirst]
      rcases domain with said | ⟨parsed, -⟩
      · rcases parsed : domainFromUrl newURL (stringValue ((resource.getD []).string? "url")) with _ | domain
        · exact said
        · rw [own parsed]
          rfl
      · rw [parsed]
        rfl
    refine ⟨fun action presented normalized => ?_, fun asked => ?_, ?_⟩
    · have run := @normalizeRuntimeCheck_structured newURL { check with resource, context } structured _ _ normalized
      exact normalizeStructured_domain run chosen
    · apply normalizedContext_domain
      show callerFirst newURL resource = some host
      rw [callerFirst]
      rcases domain with said | ⟨parsed, unsaid⟩
      · rw [said]
        rfl
      · rw [unsaid asked, parsed]
        rfl
    · rw [x402PolicyContext_domain]
      exact chosen

def blockedUrl : PaidHttp.Url where
  protocol := "https:"
  hostname := "blocked.example.test"
  port := ""
  host := "blocked.example.test"
  origin := "https://blocked.example.test"
  href := "https://blocked.example.test/data"

def parsesBlocked (text : String) : Option PaidHttp.Url := if text = blockedUrl.href then some blockedUrl else none

def ownUrl : JsonObject := [("url", .string "https://blocked.example.test/data")]

def spoofed : JsonObject := ownUrl ++ [("domain", .string "trusted.example.test")]

def httpCheck : RuntimeCheckInput := ⟨none, some "runtime.http.request", none, none, none, none⟩

def httpOperation : OperationInput := ⟨1, some 1, "runtime.http.request", none, none, none⟩

def anyPayment : RuntimeX402PaymentInput := ⟨none, [], none⟩

/-- The operation check is asked about the made-up domain. -/
theorem normalizedContext_spoofed : ¬∀ (newURL : String → Option PaidHttp.Url) (resource context : Option JsonObject)
    (host : String)
    (check : RuntimeCheckInput) (operation : OperationInput) (payment : RuntimeX402PaymentInput) (quote : RuntimeQuote),
    givenHost newURL resource context = some host →
      PresentsHost newURL host { check with resource, context } { operation with resource, context }
        { payment with resource, context } quote := by
  intro claimed
  have presents := claimed parsesBlocked (some spoofed) none "blocked.example.test" httpCheck httpOperation anyPayment
    Payments.checksummed (by decide +kernel)
  have presented := presents.operation (by rfl)
  revert presented
  decide +kernel

theorem presentsHost_own : PresentsHost parsesBlocked "blocked.example.test"
    { httpCheck with resource := some ownUrl, context := none } { httpOperation with resource := some ownUrl, context := none }
    { anyPayment with resource := some ownUrl, context := none } Payments.checksummed :=
  (@presentsHost_iff parsesBlocked (some ownUrl) none "blocked.example.test" (by decide +kernel) httpCheck httpOperation anyPayment
    Payments.checksummed).mpr ⟨fun unnamed => absurd unnamed (by decide +kernel), .inr ⟨by decide +kernel, fun _ => rfl⟩⟩

end AgentOps.Policy
