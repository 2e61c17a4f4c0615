import AgentOps.Lib.Text
import AgentOps.PaidHttp.Destinations

namespace AgentOps.PaidHttp
open Lib Identity

/-! # Requests to a destination -/

structure PaidHttpRequest where
  url : String
  method : String
  headers : List (String × String)
  body : Option Json

structure NormalizedPaidHttpRequest where
  url : String
  method : String
  headers : List (String × String)
  body : Option (List UInt8)

def deniedPaidHttpHeaders : List String :=
  ["host", "content-length", "connection", "te", "trailer", "transfer-encoding", "upgrade", "keep-alive", "accept-encoding",
    "payment-signature", "payment-response", "payment-required", "x-payment"]

def isHeaderName (name : String) : Bool :=
  name ≠ "" && name.toList.all fun c => c.isAlphanum || c ∈ "!#$%&'*+-.^_`|~".toList

def headerFailure (header : String × String) : Option PaidHttpFailure :=
  let (name, value) := header
  let normalizedName := lower name
  if !isHeaderName name then some (.typeError ("Invalid paid HTTP header name: " ++ name))
  else if value.toList.any fun c => c ∈ ['\r', '\n', '\x00'] then
    some (.typeError ("Invalid paid HTTP header value for: " ++ name))
  else if normalizedName ∈ deniedPaidHttpHeaders || startsWith normalizedName "proxy-" || startsWith normalizedName "x-payment-" then
    some (.typeError ("Paid HTTP header is not allowed: " ++ name))
  else none

section

variable (newURL : String → Option Url) (encodeBody : Json → Except PaidHttpFailure (List UInt8))

/-- `encodeBody` gives the bytes of a body, or the failure of one that has none. -/
def normalizePaidHttpRequest (request : PaidHttpRequest) : Except PaidHttpFailure NormalizedPaidHttpRequest :=
  match newURL request.url with
  | none => .error (.typeError "Invalid paid HTTP URL")
  | some parsedUrl =>
    if parsedUrl.protocol ≠ "https:" ∧ parsedUrl.protocol ≠ "http:" then
      .error (.typeError "Paid HTTP URL must use HTTP or HTTPS")
    else if request.method ∉ ["GET", "POST", "PUT", "PATCH", "DELETE"] then
      .error (.typeError ("Unsupported paid HTTP method: " ++ request.method))
    else if request.method = "GET" ∧ request.body.isSome then
      .error (.typeError "GET paid HTTP requests cannot include a body")
    else
      match request.headers.findSome? headerFailure with
      | some failure => .error failure
      | none =>
        match request.body with
        | none => .ok ⟨request.url, request.method, request.headers, none⟩
        | some body => (encodeBody body).map fun bytes => ⟨request.url, request.method, request.headers, some bytes⟩

structure LookupOptions where
  family : Option Nat
  all : Bool
  deriving DecidableEq

structure Candidate where
  address : String
  family : Nat
  deriving DecidableEq

def lookupVersion (address : String) : Nat := isIP (beforeZone (unbracketed address.toList))

def pinnedLookup (destination : ValidatedPaidHttpDestination) (hostname : String) (options : LookupOptions) :
    Except PaidHttpFailure (List Candidate) :=
  let requestedHostname := unbracket hostname
  if requestedHostname ≠ destination.hostname then
    .error (.paidHttp .invalidDestination
      ("Paid HTTP connector attempted to resolve an unvalidated hostname: " ++ hostname))
  else
    match destination.resolveHostname requestedHostname with
    | .error failure => .error failure
    | .ok resolved =>
      let addresses := resolved.map DnsAnswer.address
      if addresses = [] ∨ ∃ address ∈ addresses, lookupVersion address = 0 ∨ address ∉ destination.addresses then
        .error (.paidHttp .invalidDestination "Pinned paid HTTP resolver returned an unvalidated address")
      else
        let candidates := (addresses.map fun address => ⟨address, lookupVersion address⟩).filter fun candidate : Candidate =>
          options.family = none ∨ options.family = some 0 ∨ options.family = some candidate.family
        if candidates = [] then
          .error (.paidHttp .invalidDestination "Pinned paid HTTP destination has no address for the requested family")
        else .ok (if options.all then candidates else candidates.take 1)

structure PaidHttpExecutionOptions where
  timeoutMs : Option Int
  maxResponseBytes : Option Int

def defaultPaidHttpResponseBytes : Int := 1024 * 1024

def defaultPaidHttpTimeoutMs : Int := 15000

def paidHttpPaymentTimeoutMs : Int := 30000

structure ClientRequest where
  url : Url
  method : String
  headers : List (String × String)
  servername : Option String
  destination : ValidatedPaidHttpDestination
  body : Option (List UInt8)
  timeoutMs : Int
  maxResponseBytes : Int

def boundedPositiveInteger (value : Option Int) (fallback : Int) (name : String) : Except PaidHttpFailure Int :=
  let selected := value.getD fallback
  if 0 < selected ∧ selected ≤ 2 ^ 53 - 1 then .ok selected
  else .error (.typeError (name ++ " must be a positive safe integer"))

/-- `executeBoundedHttpRequest` up to the connector -/
def openRequest (request : NormalizedPaidHttpRequest) (destination : ValidatedPaidHttpDestination)
    (options : PaidHttpExecutionOptions) : Except PaidHttpFailure ClientRequest :=
  match newURL request.url, newURL destination.url with
  | some parsedUrl, some pinnedUrl =>
    if parsedUrl.href ≠ pinnedUrl.href ∨ unbracket parsedUrl.hostname ≠ destination.hostname ∨ destination.addresses = [] then
      .error (.paidHttp .invalidDestination "Paid HTTP request does not match its validated pinned destination")
    else do
      let timeoutMs ← boundedPositiveInteger options.timeoutMs defaultPaidHttpTimeoutMs "Paid HTTP timeout"
      let maxResponseBytes ← boundedPositiveInteger options.maxResponseBytes defaultPaidHttpResponseBytes
        "Paid HTTP response byte limit"
      let contentLength := request.body.toList.map fun body => ("Content-Length", toString body.length)
      .ok ⟨parsedUrl, request.method, request.headers ++ [("Host", parsedUrl.host), ("Accept-Encoding", "identity")] ++ contentLength,
        if parsedUrl.protocol = "https:" ∧ addressVersion destination.hostname = 0 then some destination.hostname else none,
        destination, request.body, timeoutMs, maxResponseBytes⟩
  | _, _ => .error (.typeError "Invalid URL")

/-- The addresses to which the host connects a request; it asks the lookup for a name, not for an address. -/
def ClientRequest.dials (request : ClientRequest) (options : LookupOptions) : List String :=
  let hostname := unbracket request.url.hostname
  if addressVersion hostname ≠ 0 then [hostname]
  else
    match pinnedLookup request.destination hostname options with
    | .ok candidates => candidates.map Candidate.address
    | .error _ => []

structure PaidHttpResponse where
  status : Nat
  headers : List (String × String)
  contentType : Option String
  bodyEncoding : String
  body : Json
  sizeBytes : Nat

def hopByHopResponseHeaders : List String :=
  ["connection", "keep-alive", "proxy-authenticate", "proxy-authorization", "proxy-connection", "te", "trailer",
    "transfer-encoding", "upgrade"]

def commaSeparated (value : String) : List String := (value.toList.splitOn ',').map String.ofList

def safeResponseHeaders (rawHeaders : List (String × String)) : List (String × String) :=
  let connectionHeaders := (rawHeaders.filter fun header => lower header.1 = "connection").flatMap fun header =>
    ((commaSeparated header.2).map fun name => lower (trim name)).filter (· ≠ "")
  rawHeaders.filter fun header => lower header.1 ∉ hopByHopResponseHeaders && lower header.1 ∉ connectionHeaders

def firstHeader (headers : List (String × String)) (searchedName : String) : Option String :=
  (headers.find? fun header => lower header.1 = lower searchedName).map Prod.snd

def hasUnsupportedContentEncoding (headers : List (String × String)) : Bool :=
  (headers.filter fun header => lower header.1 = "content-encoding").any fun header =>
    (commaSeparated header.2).any fun encoding => lower (trim encoding) ≠ "identity"

inductive ResponseEvent where
  | head (status : Nat) (rawHeaders : List (String × String))
  | data (size : Nat)
  /-- The end, and what `decodeResponseBody` makes of the bytes -/
  | finished (decoded : Except PaidHttpFailure (String × Json))
  | failed (failure : PaidHttpFailure)
  | timeout

/-- A request under way; the outcome that comes first stays. -/
structure Exchange where
  id : Nat
  call : Nat
  request : ClientRequest
  head : Option (Nat × List (String × String))
  sizeBytes : Nat
  settled : Option (Except PaidHttpFailure PaidHttpResponse)

def Exchange.fail (exchange : Exchange) (failure : PaidHttpFailure) : Exchange :=
  { exchange with settled := some (exchange.settled.getD (.error failure)) }

def isRedirect (status : Nat) (headers : List (String × String)) : Bool :=
  300 ≤ status && status < 400 && (firstHeader headers "location").isSome

def Exchange.onEvent (exchange : Exchange) : ResponseEvent → Exchange
  | .head status rawHeaders =>
    let headers := safeResponseHeaders rawHeaders
    if hasUnsupportedContentEncoding headers then
      exchange.fail (.paidHttp .unsupportedContentEncoding "Paid HTTP response content encoding is not supported")
    else if isRedirect status headers then
      exchange.fail (.paidHttp .redirectNotSupported "Paid HTTP redirects are not supported")
    else { exchange with head := some (status, headers) }
  | .data size =>
    if exchange.head.isNone ∨ exchange.settled.isSome then exchange
    else if exchange.request.maxResponseBytes < (exchange.sizeBytes + size : Nat) then
      { exchange with sizeBytes := exchange.sizeBytes + size }.fail (.paidHttp .responseTooLarge
        ("Paid HTTP response exceeded " ++ toString exchange.request.maxResponseBytes ++ " bytes"))
    else { exchange with sizeBytes := exchange.sizeBytes + size }
  | .finished decoded =>
    match exchange.head, exchange.settled, decoded with
    | some (status, headers), none, .ok (bodyEncoding, body) =>
      { exchange with settled := some (.ok
        ⟨status, headers, firstHeader headers "content-type", bodyEncoding, body, exchange.sizeBytes⟩) }
    | some _, none, .error failure => exchange.fail failure
    | _, _, _ => exchange
  | .failed failure => exchange.fail failure
  | .timeout =>
    exchange.fail (.paidHttp .requestTimeout
      ("Paid HTTP request exceeded its " ++ toString exchange.request.timeoutMs ++ " ms timeout"))

structure SettlementInput where
  call : Nat
  request : PaidHttpRequest
  destination : Json

def destinationMismatch : PaidHttpFailure :=
  .paidHttp .invalidDestination "Paid HTTP request URL does not match its validated destination"

/-- `rehydrateSettlementInput` of an input with a destination and a request, as the API sends it -/
def rehydrateSettlementInput (rawInput : SettlementInput) (paidHttpAllowOrigins : List String) :
    Except PaidHttpFailure ValidatedPaidHttpDestination := do
  let destination ← revalidatePaidHttpDestination newURL rawInput.destination paidHttpAllowOrigins
  match newURL rawInput.request.url with
  | none => .error destinationMismatch
  | some parsed => if parsed.href ≠ destination.url then .error destinationMismatch else .ok destination

end

section

variable {newURL : String → Option Url} {request : NormalizedPaidHttpRequest} {destination : ValidatedPaidHttpDestination}
  {options : PaidHttpExecutionOptions} {opened : ClientRequest} {lookup : LookupOptions} {address : String}

theorem openRequest_ok (ok : openRequest newURL request destination options = .ok opened) :
    newURL request.url = some opened.url ∧ unbracket opened.url.hostname = destination.hostname ∧
      opened.destination = destination := by
  unfold openRequest at ok
  split at ok
  · rename_i parsedUrl pinnedUrl read _
    split at ok
    · cases ok
    · rename_i matched
      obtain ⟨timeoutMs, -, ok⟩ := bind_eq_ok.mp ok
      obtain ⟨maxResponseBytes, -, ok⟩ := bind_eq_ok.mp ok
      obtain rfl := Except.ok.inj ok
      exact ⟨read, not_not.mp fun other => matched (.inr (.inl other)), rfl⟩
  · cases ok

theorem pinnedLookup_mem {hostname : String} {candidates : List Candidate}
    (ok : pinnedLookup destination hostname lookup = .ok candidates) :
    ∀ candidate ∈ candidates, candidate.address ∈ destination.addresses := by
  unfold pinnedLookup at ok
  dsimp only at ok
  split at ok
  · cases ok
  split at ok
  · cases ok
  rename_i resolved answered
  split at ok
  · cases ok
  rename_i among
  split at ok
  · cases ok
  obtain rfl := Except.ok.inj ok
  intro candidate member
  have selected : candidate ∈ ((resolved.map DnsAnswer.address).map fun address => ⟨address, lookupVersion address⟩).filter
      fun candidate : Candidate =>
        lookup.family = none ∨ lookup.family = some 0 ∨ lookup.family = some candidate.family := by
    split at member
    · exact member
    · exact List.mem_of_mem_take member
  obtain ⟨address, answer, rfl⟩ := List.mem_map.mp (List.mem_of_mem_filter selected)
  by_contra outside
  exact among (.inr ⟨address, answer, .inr outside⟩)

theorem dials_mem (hostname : unbracket opened.url.hostname = opened.destination.hostname)
    (literal : addressVersion opened.destination.hostname ≠ 0 → opened.destination.addresses = [opened.destination.hostname])
    (dialed : address ∈ opened.dials lookup) : address ∈ opened.destination.addresses := by
  unfold ClientRequest.dials at dialed
  rw [hostname] at dialed
  dsimp only at dialed
  split at dialed
  · rename_i version
    rwa [literal version]
  · split at dialed
    · rename_i candidates looked
      obtain ⟨candidate, member, rfl⟩ := List.mem_map.mp dialed
      exact pinnedLookup_mem looked candidate member
    · cases dialed

end

end AgentOps.PaidHttp
