import AgentOps.Identity.Errors
import AgentOps.Lib.CodeUnits
import AgentOps.Lib.Json
import AgentOps.PaidHttp.Addresses

namespace AgentOps.PaidHttp
open Lib Identity

/-! # Destinations of paid requests -/

/-- What `new URL` gives of a text -/
structure Url where
  protocol : String
  hostname : String
  port : String
  host : String
  origin : String
  href : String
  deriving DecidableEq

inductive PaidHttpErrorCode where
  | notPaymentRequired
  | paymentRequiredMissing
  | paymentRequiredInvalid
  | paymentRequiredEmptyAccepts
  | redirectNotSupported
  | requestTimeout
  | responseTooLarge
  | unsupportedContentEncoding
  | invalidJson
  | invalidDestination
  | requestFailed
  deriving DecidableEq

inductive PaidHttpFailure where
  | typeError (message : String)
  | rangeError (message : String)
  | paidHttp (code : PaidHttpErrorCode) (message : String)
  deriving DecidableEq

inductive DnsAnswer where
  | text (address : String)
  | record (address : String)
  deriving DecidableEq

def DnsAnswer.address : DnsAnswer → String
  | .text address | .record address => address

abbrev DnsResolver := String → Except PaidHttpFailure (List DnsAnswer)

structure ValidatedPaidHttpDestination where
  url : String
  hostname : String
  addresses : List String
  resolveHostname : DnsResolver

def unbracket (text : String) : String := String.ofList (unbracketed text.toList)

def addressVersion (text : String) : Nat := isIP text.toList

def addressWithoutZone (address : String) : String := String.ofList (beforeZone address.toList)

def pinned (hostname : String) (addresses : List String) (failure : String → PaidHttpFailure) : DnsResolver :=
  fun requestedHostname =>
    if requestedHostname ≠ hostname then .error (failure requestedHostname) else .ok (addresses.map .text)

section

variable (newURL : String → Option Url)

def explicitlyAllowed (allowHttpOrigins : List String) (parsed : Url) : Bool :=
  parsed.protocol = "http:" && allowHttpOrigins.any fun origin => (newURL origin).any fun allowed => allowed.origin = parsed.origin

/-- A hostname that is an address is not asked for. -/
def resolvedAnswers (resolveHostname : DnsResolver) (hostname : String) : Except PaidHttpFailure (List DnsAnswer) :=
  if addressVersion hostname = 0 then resolveHostname hostname else .ok [.text hostname]

def isDisallowed (allowHttpOrigins : List String) (parsed : Url) (address : String) : Bool :=
  addressVersion (addressWithoutZone address) = 0 ||
    (!explicitlyAllowed newURL allowHttpOrigins parsed && isUnsafeIpAddress address.toList)

/-- The part of `assertPaidHttpUrlAllowed` after the resolution of the hostname -/
def pinnedDestination (allowHttpOrigins : List String) (parsed : Url) (resolved : List DnsAnswer) :
    Except PaidHttpFailure ValidatedPaidHttpDestination :=
  let hostname := unbracket parsed.hostname
  let addresses := resolved.map DnsAnswer.address
  if resolved = [] then .error (.typeError "Paid HTTP hostname resolved to no addresses")
  else
    match addresses.find? (isDisallowed newURL allowHttpOrigins parsed) with
    | some address => .error (.typeError ("Paid HTTP URL resolved to a disallowed address: " ++ address))
    | none =>
      .ok ⟨parsed.href, hostname, addresses, pinned hostname addresses fun requestedHostname =>
        .typeError ("Pinned paid HTTP destination cannot resolve: " ++ requestedHostname)⟩

def assertPaidHttpUrlAllowed (url : String) (allowHttpOrigins : List String) (resolveHostname : DnsResolver) :
    Except PaidHttpFailure ValidatedPaidHttpDestination :=
  match newURL url with
  | none => .error (.typeError "Invalid paid HTTP URL")
  | some parsed =>
    if parsed.protocol ≠ "https:" ∧ parsed.protocol ≠ "http:" then
      .error (.typeError "Paid HTTP URL must use HTTP or HTTPS")
    else if parsed.protocol ≠ "https:" ∧ !explicitlyAllowed newURL allowHttpOrigins parsed then
      .error (.typeError "Paid HTTP URL must use HTTPS")
    else resolvedAnswers resolveHostname (unbracket parsed.hostname) >>= pinnedDestination newURL allowHttpOrigins parsed

def serializePaidHttpDestination (destination : ValidatedPaidHttpDestination) : Json :=
  .object [("url", .string destination.url), ("hostname", .string destination.hostname),
    ("addresses", .array (destination.addresses.map .string))]

def maxSerializedAddresses : Nat := 16

def maxSerializedUrlLength : Nat := 4096

def invalidSerializedPaidHttpDestination : PaidHttpFailure :=
  .paidHttp .invalidDestination "Serialized paid HTTP destination is invalid"

def serializedAddress? : Json → Option String
  | .string address => if addressVersion address ≠ 0 then some address else none
  | _ => none

def serializedAddresses? : Json → Option (List String)
  | .array items => if 0 < items.length ∧ items.length ≤ maxSerializedAddresses then items.mapM serializedAddress? else none
  | _ => none

def rehydratePaidHttpDestination (value : Json) : Except PaidHttpFailure ValidatedPaidHttpDestination :=
  match value with
  | .object fields =>
    if fields.length ≠ 3 ∨ ∃ entry ∈ fields, entry.1 ∉ ["addresses", "hostname", "url"] then
      .error invalidSerializedPaidHttpDestination
    else
      match JsonObject.string? fields "url", JsonObject.string? fields "hostname",
        (JsonObject.field? fields "addresses").bind serializedAddresses? with
      | some url, some hostname, some addresses =>
        if textLength url = 0 ∨ maxSerializedUrlLength < textLength url ∨ textLength hostname = 0 ∨ 253 < textLength hostname then
          .error invalidSerializedPaidHttpDestination
        else
          match newURL url with
          | none => .error invalidSerializedPaidHttpDestination
          | some parsed =>
            if (parsed.protocol ≠ "https:" ∧ parsed.protocol ≠ "http:") ∨ unbracket parsed.hostname ≠ hostname then
              .error invalidSerializedPaidHttpDestination
            else .ok ⟨url, hostname, addresses, pinned hostname addresses fun _ => .paidHttp .invalidDestination
              "Paid HTTP resolver hostname does not match the authenticated destination"⟩
      | _, _, _ => .error invalidSerializedPaidHttpDestination
  | _ => .error invalidSerializedPaidHttpDestination

def revalidatePaidHttpDestination (value : Json) (allowHttpOrigins : List String) :
    Except PaidHttpFailure ValidatedPaidHttpDestination := do
  let captured ← rehydratePaidHttpDestination newURL value
  match assertPaidHttpUrlAllowed newURL captured.url allowHttpOrigins captured.resolveHostname with
  | .ok destination => .ok destination
  | .error _ =>
    .error (.paidHttp .invalidDestination "Serialized paid HTTP destination failed worker safety validation")

variable {newURL} {url : String} {allowHttpOrigins : List String} {resolveHostname : DnsResolver}
  {destination captured : ValidatedPaidHttpDestination} {parsed : Url}

structure Asserted (newURL : String → Option Url) (allowHttpOrigins : List String) (resolveHostname : DnsResolver)
    (parsed : Url) (destination : ValidatedPaidHttpDestination) : Prop where
  href : destination.url = parsed.href
  hostname : destination.hostname = unbracket parsed.hostname
  literal : addressVersion destination.hostname ≠ 0 → destination.addresses = [destination.hostname]
  resolved : addressVersion destination.hostname = 0 → ∃ answers, resolveHostname destination.hostname = .ok answers ∧
    destination.addresses = answers.map DnsAnswer.address
  valid : ∀ address ∈ destination.addresses, addressVersion (addressWithoutZone address) ≠ 0
  safe : explicitlyAllowed newURL allowHttpOrigins parsed = false →
    ∀ address ∈ destination.addresses, isUnsafeIpAddress address.toList = false

theorem assertPaidHttpUrlAllowed_ok
    (asserted : assertPaidHttpUrlAllowed newURL url allowHttpOrigins resolveHostname = .ok destination) :
    ∃ parsed, newURL url = some parsed ∧ Asserted newURL allowHttpOrigins resolveHostname parsed destination := by
  unfold assertPaidHttpUrlAllowed at asserted
  split at asserted
  · cases asserted
  rename_i parsed read
  split at asserted
  · cases asserted
  split at asserted
  · cases asserted
  obtain ⟨resolved, answered, asserted⟩ := bind_eq_ok.mp asserted
  unfold pinnedDestination at asserted
  dsimp only at asserted
  split at asserted
  · cases asserted
  split at asserted
  · cases asserted
  rename_i found
  obtain rfl := Except.ok.inj asserted
  rw [List.find?_eq_none] at found
  have allowed address (member : address ∈ resolved.map DnsAnswer.address) :
      addressVersion (addressWithoutZone address) ≠ 0 ∧
        (explicitlyAllowed newURL allowHttpOrigins parsed = false → isUnsafeIpAddress address.toList = false) := by
    have := found address member
    simp only [isDisallowed, Bool.or_eq_true, decide_eq_true_eq, Bool.and_eq_true, Bool.not_eq_eq_eq_not, Bool.not_true,
      not_or, not_and, Bool.not_eq_true] at this
    exact this
  unfold resolvedAnswers at answered
  refine ⟨parsed, read, rfl, rfl, ?_, ?_, fun address member => (allowed address member).1,
    fun forbidden address member => (allowed address member).2 forbidden⟩
  · intro literal
    rw [if_neg literal] at answered
    obtain rfl := Except.ok.inj answered
    rfl
  · intro named
    rw [if_pos named] at answered
    exact ⟨resolved, answered, rfl⟩

theorem serializedAddresses?_map {addresses captured : List String}
    (read : serializedAddresses? (.array (addresses.map .string)) = some captured) : captured = addresses := by
  simp only [serializedAddresses?] at read
  split at read
  · have each := List.forall₂_map_left_iff.mp (mapM_eq_some.mp read)
    have same : List.Forall₂ (fun address address' => address = address') addresses captured := by
      refine each.imp fun address address' read => ?_
      simp only [serializedAddress?] at read
      split at read
      · exact Option.some.inj read
      · cases read
    exact (List.forall₂_eq_eq_eq ▸ same).symm
  · cases read

theorem rehydratePaidHttpDestination_serialized
    (rehydrated : rehydratePaidHttpDestination newURL (serializePaidHttpDestination destination) = .ok captured) :
    captured.url = destination.url ∧ captured.hostname = destination.hostname ∧ captured.addresses = destination.addresses ∧
      (∃ parsed, newURL destination.url = some parsed ∧ unbracket parsed.hostname = destination.hostname) ∧
      ∀ hostname answers, captured.resolveHostname hostname = .ok answers →
        answers.map DnsAnswer.address = destination.addresses := by
  unfold rehydratePaidHttpDestination serializePaidHttpDestination at rehydrated
  simp only at rehydrated
  split at rehydrated
  · cases rehydrated
  split at rehydrated
  · rename_i url hostname addresses foundUrl foundHostname foundAddresses
    obtain rfl : destination.url = url := by simpa [JsonObject.string?, JsonObject.field?] using foundUrl
    obtain rfl : destination.hostname = hostname := by simpa [JsonObject.string?, JsonObject.field?] using foundHostname
    obtain rfl : addresses = destination.addresses := by
      simp only [JsonObject.field?, List.find?_cons] at foundAddresses
      exact serializedAddresses?_map foundAddresses
    split at rehydrated
    · cases rehydrated
    split at rehydrated
    · cases rehydrated
    rename_i parsed read
    split at rehydrated
    · cases rehydrated
    rename_i matched
    obtain rfl := Except.ok.inj rehydrated
    refine ⟨rfl, rfl, rfl, ⟨parsed, read, not_not.mp fun other => matched (.inr other)⟩, fun hostname answers resolved => ?_⟩
    simp only [pinned] at resolved
    split at resolved
    · cases resolved
    · obtain rfl := Except.ok.inj resolved
      rw [List.map_map]
      exact List.map_id'' (fun _ => rfl) _
  · cases rehydrated

theorem revalidatePaidHttpDestination_serialized {resolve : DnsResolver} {origins : List String}
    (asserted : Asserted newURL origins resolve parsed destination)
    (revalidated : revalidatePaidHttpDestination newURL (serializePaidHttpDestination destination) allowHttpOrigins =
      .ok captured) : captured.hostname = destination.hostname ∧ captured.addresses = destination.addresses := by
  obtain ⟨rehydrated, read, revalidated⟩ := bind_eq_ok.mp revalidated
  obtain ⟨url, hostname, addresses, ⟨parsed', read', hostname'⟩, resolves⟩ :=
    rehydratePaidHttpDestination_serialized read
  split at revalidated
  · rename_i result checked
    obtain rfl := Except.ok.inj revalidated
    obtain ⟨again, readAgain, checked⟩ := assertPaidHttpUrlAllowed_ok checked
    rw [url, read'] at readAgain
    obtain rfl := Option.some.inj readAgain
    have same : result.hostname = destination.hostname := checked.hostname.trans hostname'
    refine ⟨same, ?_⟩
    by_cases named : addressVersion result.hostname = 0
    · obtain ⟨answers, resolved, addresses⟩ := checked.resolved named
      rw [addresses]
      exact resolves _ _ resolved
    · rw [checked.literal named, asserted.literal (same ▸ named), same]
  · cases revalidated

end

end AgentOps.PaidHttp
