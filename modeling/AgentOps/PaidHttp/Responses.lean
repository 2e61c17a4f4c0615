import AgentOps.PaidHttp.Connections
import AgentOps.PaidHttp.RequestHash

namespace AgentOps.PaidHttp
open Lib Identity

/-! # The response of a destination, chunk by chunk -/

theorem base64Value_base64Char {n : Nat} (small : n < 64) : base64Value (base64Char n) = n := by
  interval_cases n <;> rfl

theorem base64Char_ne_pad {n : Nat} (small : n < 64) : base64Char n ≠ '=' := by
  interval_cases n <;> decide

theorem ofNat_eq_byte {n : Nat} (byte : UInt8) (same : n = byte.toNat) : UInt8.ofNat n = byte := by rw [same, UInt8.ofNat_toNat]

theorem decodeBase64_encodeBase64 (bytes : List UInt8) : decodeBase64 (encodeBase64 bytes) = bytes := by
  induction bytes using encodeBase64.induct with
  | case1 a b c rest ih =>
    have first := a.toNat_lt
    have second := b.toNat_lt
    have third := c.toNat_lt
    dsimp only [encodeBase64, decodeBase64]
    rw [base64Value_base64Char (by omega), base64Value_base64Char (by omega), base64Value_base64Char (by omega),
      base64Value_base64Char (by omega), ih, ofNat_eq_byte a (by omega), ofNat_eq_byte b (by omega), ofNat_eq_byte c (by omega)]
  | case2 a b =>
    have first := a.toNat_lt
    have second := b.toNat_lt
    dsimp only [encodeBase64, decodeBase64]
    rw [base64Value_base64Char (by omega), base64Value_base64Char (by omega), base64Value_base64Char (by omega),
      ofNat_eq_byte a (by omega), ofNat_eq_byte b (by omega)]
  | case3 a =>
    have first := a.toNat_lt
    dsimp only [encodeBase64, decodeBase64]
    rw [base64Value_base64Char (by omega), base64Value_base64Char (by omega), ofNat_eq_byte a (by omega)]
  | case4 => rfl

theorem encodeBase64_ne_pad {bytes : List UInt8} : ∀ c ∈ encodeBase64 bytes, c ≠ '=' := by
  induction bytes using encodeBase64.induct with
  | case1 a b c rest ih =>
    have first := a.toNat_lt
    have second := b.toNat_lt
    have third := c.toNat_lt
    simp only [encodeBase64, List.forall_mem_cons]
    exact ⟨base64Char_ne_pad (by omega), base64Char_ne_pad (by omega), base64Char_ne_pad (by omega),
      base64Char_ne_pad (by omega), ih⟩
  | case2 a b =>
    have first := a.toNat_lt
    have second := b.toNat_lt
    simp only [encodeBase64, List.forall_mem_cons]
    exact ⟨base64Char_ne_pad (by omega), base64Char_ne_pad (by omega), base64Char_ne_pad (by omega), nofun⟩
  | case3 a =>
    have first := a.toNat_lt
    simp only [encodeBase64, List.forall_mem_cons]
    exact ⟨base64Char_ne_pad (by omega), base64Char_ne_pad (by omega), nofun⟩
  | case4 => nofun

/-- `toString('base64')` -/
def base64Text (bytes : List UInt8) : List Char := encodeBase64 bytes ++ List.replicate ((3 - bytes.length % 3) % 3) '='

/-- `Buffer.from(text, 'base64')` -/
def base64Read (text : List Char) : List UInt8 := decodeBase64 (text.rdropWhile (· = '='))

theorem rdropWhile_pads {text : List Char} (unpadded : ∀ c ∈ text, c ≠ '=') (n : Nat) :
    (text ++ List.replicate n '=').rdropWhile (· = '=') = text := by
  induction n with
  | zero =>
    rw [List.replicate_zero, List.append_nil]
    cases text using List.reverseRecOn with
    | nil => rfl
    | append_singleton front last => exact List.rdropWhile_concat_neg _ _ _ (by simpa using unpadded last (by simp))
  | succ n ih => rw [List.replicate_succ', ← List.append_assoc, List.rdropWhile_concat_pos _ _ _ (by simp), ih]

theorem base64Read_base64Text (bytes : List UInt8) : base64Read (base64Text bytes) = bytes := by
  rw [base64Read, base64Text, rdropWhile_pads encodeBase64_ne_pad, decodeBase64_encodeBase64]

def mediaType : Option String → String
  | some contentType => lower (trim (String.ofList (contentType.toList.takeWhile (· ≠ ';'))))
  | none => ""

def declaresJson (mediaType : String) : Bool :=
  mediaType = "application/json" || startsWith mediaType "application/" && endsWith mediaType "+json"

def declaresText (mediaType : String) : Bool :=
  startsWith mediaType "text/" || mediaType = "application/javascript" || mediaType = "application/x-www-form-urlencoded" ||
    mediaType = "application/xml" || mediaType = "application/xhtml+xml" || endsWith mediaType "+xml"

def invalidJson : PaidHttpFailure :=
  .paidHttp .invalidJson "Paid HTTP response declared JSON but was not valid UTF-8 JSON"

section

variable (parseJson : List Char → Option Json)

/-- `parseJson` is `JSON.parse`. A text that is no UTF-8 is returned as binary. -/
def decodeResponseBody (bytes : List UInt8) (contentType : Option String) : Except PaidHttpFailure (String × Json) :=
  if declaresJson (mediaType contentType) then
    match (decodeUtf8 bytes).bind parseJson with
    | some value => .ok ("json", value)
    | none => .error invalidJson
  else
    match if declaresText (mediaType contentType) then decodeUtf8 bytes else none with
    | some text => .ok ("text", .string (String.ofList text))
    | none => .ok ("base64", .string (String.ofList (base64Text bytes)))

inductive SocketEvent where
  | head (status : Nat) (rawHeaders : List (String × String))
  | data (chunk : List UInt8)
  | ended
  | failed (failure : PaidHttpFailure)
  | timeout

structure Reception where
  exchange : Exchange
  chunks : List (List UInt8)

def Reception.onEvent (reception : Reception) : SocketEvent → Reception
  | .head status rawHeaders => { reception with exchange := reception.exchange.onEvent (.head status rawHeaders) }
  | .data chunk =>
    let exchange := reception.exchange.onEvent (.data chunk.length)
    ⟨exchange, if exchange.head.isSome ∧ exchange.settled.isNone then reception.chunks ++ [chunk] else reception.chunks⟩
  | .ended =>
    let contentType := reception.exchange.head.bind fun head => firstHeader head.2 "content-type"
    { reception with exchange :=
        reception.exchange.onEvent (.finished (decodeResponseBody parseJson reception.chunks.flatten contentType)) }
  | .failed failure => { reception with exchange := reception.exchange.onEvent (.failed failure) }
  | .timeout => { reception with exchange := reception.exchange.onEvent .timeout }

def Reception.opened (request : ClientRequest) : Reception := ⟨⟨0, 0, request, none, 0, none⟩, []⟩

variable (newURL : String → Option Url)

def executeBoundedHttpRequest (request : NormalizedPaidHttpRequest) (destination : ValidatedPaidHttpDestination)
    (options : PaidHttpExecutionOptions) (events : List SocketEvent) : Option (Except PaidHttpFailure PaidHttpResponse) :=
  match openRequest newURL request destination options with
  | .error failure => some (.error failure)
  | .ok opened => (events.foldl (Reception.onEvent parseJson) (.opened opened)).exchange.settled

end

namespace SocketEvent

def isPart : SocketEvent → Bool
  | .head _ _ | .data _ => true
  | .ended | .failed _ | .timeout => false

def isSent : SocketEvent → Bool
  | .head _ _ | .data _ | .ended => true
  | .failed _ | .timeout => false

end SocketEvent

/-- The events of one request: the server sends the response, or a part of it from the start; the connection fails and time runs
out at any point. -/
structure Receives (status : Nat) (rawHeaders : List (String × String)) (chunks : List (List UInt8)) (events : List SocketEvent) :
    Prop where
  sent : events.filter SocketEvent.isSent <+: .head status rawHeaders :: chunks.map .data ++ [.ended]
  concludes : ∃ event ∈ events, event.isPart = false

def EndsFirst (events : List SocketEvent) : Prop :=
  ∃ before after, events = before ++ .ended :: after ∧ ∀ event ∈ before, event.isPart = true

section

variable (parseJson : List Char → Option Json)

def Denotes (bodyEncoding : String) (body : Json) (bytes : List UInt8) : Prop :=
  match bodyEncoding, body with
  | "text", .string text => utf8 text.toList = bytes
  | "base64", .string text => base64Read text.toList = bytes
  | "json", value => ∃ text, utf8 text = bytes ∧ parseJson (withoutBom text) = some value
  | _, _ => False

structure FaithfulTo (maxResponseBytes : Int) (status : Nat) (rawHeaders : List (String × String)) (bytes : List UInt8)
    (response : PaidHttpResponse) : Prop where
  sizeBytes : response.sizeBytes = bytes.length
  bounded : response.sizeBytes ≤ maxResponseBytes
  body : Denotes parseJson response.bodyEncoding response.body bytes
  identity : hasUnsupportedContentEncoding rawHeaders = false
  direct : isRedirect status rawHeaders = false

/-- It fails, by what it looks at. -/
inductive Refused (newURL : String → Option Url) (request : NormalizedPaidHttpRequest) (destination : ValidatedPaidHttpDestination)
    (options : PaidHttpExecutionOptions) (status : Nat) (rawHeaders : List (String × String)) (bytes : List UInt8)
    (events : List SocketEvent) : Prop
  | unopened (failure : PaidHttpFailure) (fails : openRequest newURL request destination options = .error failure)
  | interrupted (before : ¬EndsFirst events)
  | encoded (unsupported : hasUnsupportedContentEncoding (safeResponseHeaders rawHeaders) = true)
  | redirected (redirect : isRedirect status (safeResponseHeaders rawHeaders) = true)
  | tooLarge (above : options.maxResponseBytes.getD defaultPaidHttpResponseBytes < bytes.length)
  | notJson (declared : declaresJson (mediaType (firstHeader (safeResponseHeaders rawHeaders) "content-type")) = true)
    (invalid : ∀ text, utf8 text = bytes → parseJson (withoutBom text) = none)

end

/-- The `Connection` header hides no encoding and no location, and a text does not begin with a byte order mark. -/
structure Plain (status : Nat) (rawHeaders : List (String × String)) (bytes : List UInt8) : Prop where
  identity : hasUnsupportedContentEncoding rawHeaders = false
  direct : isRedirect status rawHeaders = false
  unmarked : declaresJson (mediaType (firstHeader (safeResponseHeaders rawHeaders) "content-type")) = false →
    declaresText (mediaType (firstHeader (safeResponseHeaders rawHeaders) "content-type")) = true →
    ∀ text, utf8 ('\uFEFF' :: text) ≠ bytes

section

variable {parseJson : List Char → Option Json} {newURL : String → Option Url} {request : NormalizedPaidHttpRequest}
  {destination : ValidatedPaidHttpDestination} {options : PaidHttpExecutionOptions} {opened : ClientRequest}
  {reception : Reception} {status : Nat} {rawHeaders headers : List (String × String)} {chunks : List (List UInt8)}
  {bytes : List UInt8} {events before : List SocketEvent} {event : SocketEvent}
  {outcome : Except PaidHttpFailure PaidHttpResponse}

theorem settled_onEvent (settled : reception.exchange.settled = some outcome) :
    (reception.onEvent parseJson event).exchange.settled = some outcome := by
  cases event with
  | head status rawHeaders =>
    simp only [Reception.onEvent, Exchange.onEvent]
    split
    · simp [Exchange.fail, settled]
    split
    · simp [Exchange.fail, settled]
    · exact settled
  | data chunk => simp [Reception.onEvent, Exchange.onEvent, settled]
  | ended => simp [Reception.onEvent, Exchange.onEvent, settled]
  | failed | timeout => simp [Reception.onEvent, Exchange.onEvent, Exchange.fail, settled]

theorem settled_foldl (settled : reception.exchange.settled = some outcome) :
    (events.foldl (Reception.onEvent parseJson) reception).exchange.settled = some outcome := by
  induction events generalizing reception with
  | nil => exact settled
  | cons event events ih => exact ih (settled_onEvent settled)

def Reception.Unanswered (reception : Reception) : Prop := ∀ response, reception.exchange.settled ≠ some (.ok response)

theorem Reception.Unanswered.fail {exchange : Exchange} (failure : PaidHttpFailure)
    (unanswered : ∀ response, exchange.settled ≠ some (.ok response)) :
    ∃ failure', (exchange.fail failure).settled = some (.error failure') := by
  cases settled : exchange.settled with
  | none => exact ⟨failure, by simp [Exchange.fail, settled]⟩
  | some outcome =>
    cases outcome with
    | error failure' => exact ⟨failure', by simp [Exchange.fail, settled]⟩
    | ok response => exact absurd settled (unanswered response)

theorem unanswered_onEvent (unanswered : reception.Unanswered) (part : event.isPart = true) :
    (reception.onEvent parseJson event).Unanswered := by
  have fails {exchange : Exchange} {failure : PaidHttpFailure} (unanswered : ∀ response, exchange.settled ≠ some (.ok response)) :
      ∀ response, (exchange.fail failure).settled ≠ some (.ok response) := by
    intro response settled
    obtain ⟨failure', failed⟩ := Reception.Unanswered.fail failure unanswered
    rw [failed] at settled
    cases settled
  cases event with
  | head status rawHeaders =>
    simp only [Reception.onEvent, Exchange.onEvent, Reception.Unanswered]
    split
    · exact fails unanswered
    split
    · exact fails unanswered
    · exact unanswered
  | data chunk =>
    simp only [Reception.onEvent, Exchange.onEvent, Reception.Unanswered]
    split
    · exact unanswered
    split
    · exact fails unanswered
    · exact unanswered
  | ended | failed | timeout => cases part

theorem unanswered_foldl (unanswered : reception.Unanswered) (parts : ∀ event ∈ events, event.isPart = true) :
    (events.foldl (Reception.onEvent parseJson) reception).Unanswered := by
  induction events generalizing reception with
  | nil => exact unanswered
  | cons event events ih =>
    rw [List.forall_mem_cons] at parts
    exact ih (unanswered_onEvent unanswered parts.1) parts.2

theorem unanswered_opened : (Reception.opened opened).Unanswered := nofun

theorem interrupted_outcome (receives : Receives status rawHeaders chunks events) (interrupted : ¬EndsFirst events) :
    ∃ failure, (events.foldl (Reception.onEvent parseJson) (.opened opened)).exchange.settled = some (.error failure) := by
  obtain ⟨event, found⟩ := Option.isSome_iff_exists.mp
    (List.find?_isSome.mpr (show ∃ event ∈ events, (!event.isPart) = true by simpa using receives.concludes))
  obtain ⟨concludes, before, after, rfl, parts⟩ := List.find?_eq_some_iff_append.mp found
  have parts : ∀ event ∈ before, event.isPart = true := by simpa using parts
  have unanswered : (before.foldl (Reception.onEvent parseJson) (.opened opened)).Unanswered :=
    unanswered_foldl unanswered_opened parts
  rw [List.foldl_append, List.foldl_cons]
  cases event with
  | head | data => cases concludes
  | ended => exact absurd ⟨before, after, rfl, parts⟩ interrupted
  | failed | timeout =>
    obtain ⟨failure, failed⟩ := Reception.Unanswered.fail _ unanswered
    exact ⟨failure, settled_foldl failed⟩

theorem whole_response (receives : Receives status rawHeaders chunks events) (ends : EndsFirst events) :
    ∃ after, events = .head status rawHeaders :: chunks.map .data ++ .ended :: after := by
  obtain ⟨before, after, rfl, parts⟩ := ends
  obtain ⟨rest, sent⟩ := receives.sent
  have kept : before.filter SocketEvent.isSent = before := List.filter_eq_self.mpr fun event member => by
    have part := parts event member
    cases event with
    | head | data => rfl
    | ended | failed | timeout => cases part
  rw [List.filter_append, kept, List.filter_cons_of_pos rfl, List.append_assoc, List.cons_append] at sent
  have noEnd : SocketEvent.ended ∉ .head status rawHeaders :: chunks.map SocketEvent.data := by simp
  obtain ⟨same, -⟩ := (List.append_cons_inj_of_notMem noEnd (List.not_mem_nil)).mp sent.symm
  exact ⟨after, by rw [same]⟩

structure Reception.Receiving (reception : Reception) (opened : ClientRequest) (status : Nat) (headers : List (String × String))
    (chunks : List (List UInt8)) : Prop where
  request : reception.exchange.request = opened
  head : reception.exchange.head = some (status, headers)
  settled : reception.exchange.settled = none
  kept : reception.chunks = chunks
  size : reception.exchange.sizeBytes = chunks.flatten.length

theorem Reception.Receiving.data {chunk : List UInt8} (receiving : reception.Receiving opened status headers chunks)
    (small : ((chunks ++ [chunk]).flatten.length : Int) ≤ opened.maxResponseBytes) :
    (reception.onEvent parseJson (.data chunk)).Receiving opened status headers (chunks ++ [chunk]) := by
  obtain ⟨rfl, head, settled, rfl, size⟩ := receiving
  have total : (reception.chunks ++ [chunk]).flatten.length = reception.exchange.sizeBytes + chunk.length := by simp [size]
  have fits : ¬reception.exchange.request.maxResponseBytes < (reception.exchange.sizeBytes + chunk.length : Nat) := by
    rw [← total]
    exact Int.not_lt.mpr small
  have waits : ¬(reception.exchange.head.isNone = true ∨ reception.exchange.settled.isSome = true) := by simp [head, settled]
  have exchange : reception.exchange.onEvent (.data chunk.length) =
      { reception.exchange with sizeBytes := reception.exchange.sizeBytes + chunk.length } := by
    rw [Exchange.onEvent, if_neg waits, if_neg fits]
  constructor <;> simp [Reception.onEvent, exchange, head, settled, size]

theorem Reception.Receiving.exceeds {chunk : List UInt8} (receiving : reception.Receiving opened status headers chunks)
    (large : opened.maxResponseBytes < ((chunks ++ [chunk]).flatten.length : Int)) :
    ∃ failure, (reception.onEvent parseJson (.data chunk)).exchange.settled = some (.error failure) := by
  obtain ⟨rfl, head, settled, rfl, size⟩ := receiving
  have total : (reception.chunks ++ [chunk]).flatten.length = reception.exchange.sizeBytes + chunk.length := by simp [size]
  have waits : ¬(reception.exchange.head.isNone = true ∨ reception.exchange.settled.isSome = true) := by simp [head, settled]
  rw [total] at large
  simp only [Reception.onEvent, Exchange.onEvent]
  rw [if_neg waits, if_pos large]
  exact Unanswered.fail _ (by simp [settled])

variable {rest : List (List UInt8)}

theorem Reception.Receiving.foldl (receiving : reception.Receiving opened status headers chunks)
    (small : ((chunks ++ rest).flatten.length : Int) ≤ opened.maxResponseBytes) :
    ((rest.map SocketEvent.data).foldl (Reception.onEvent parseJson) reception).Receiving opened status headers
      (chunks ++ rest) := by
  induction rest generalizing reception chunks with
  | nil => rwa [List.append_nil]
  | cons chunk rest ih =>
    have first : ((chunks ++ [chunk]).flatten.length : Int) ≤ opened.maxResponseBytes := by
      simp only [List.flatten_append, List.flatten_cons, List.flatten_nil, List.length_append, List.length_nil] at small ⊢
      omega
    rw [List.append_cons] at small ⊢
    exact ih (receiving.data first) small

theorem Reception.Receiving.foldl_exceeds (receiving : reception.Receiving opened status headers chunks)
    (room : (chunks.flatten.length : Int) ≤ opened.maxResponseBytes)
    (large : opened.maxResponseBytes < ((chunks ++ rest).flatten.length : Int)) :
    ∃ failure, ((rest.map SocketEvent.data).foldl (Reception.onEvent parseJson) reception).exchange.settled =
      some (.error failure) := by
  induction rest generalizing reception chunks with
  | nil =>
    rw [List.append_nil] at large
    exact absurd room (Int.not_le.mpr large)
  | cons chunk rest ih =>
    rw [List.append_cons] at large
    by_cases first : ((chunks ++ [chunk]).flatten.length : Int) ≤ opened.maxResponseBytes
    · exact ih (receiving.data first) first large
    · rw [List.map_cons, List.foldl_cons]
      obtain ⟨failure, failed⟩ := receiving.exceeds (Int.not_le.mp first)
      exact ⟨failure, settled_foldl failed⟩

theorem Reception.Receiving.ended (receiving : reception.Receiving opened status headers chunks) :
    (reception.onEvent parseJson .ended).exchange.settled = some (
      (decodeResponseBody parseJson chunks.flatten (firstHeader headers "content-type")).map fun decoded =>
        ⟨status, headers, firstHeader headers "content-type", decoded.1, decoded.2, chunks.flatten.length⟩) := by
  obtain ⟨rfl, head, settled, rfl, size⟩ := receiving
  simp only [Reception.onEvent, Exchange.onEvent, head, settled, size, Option.bind_some]
  cases decodeResponseBody parseJson reception.chunks.flatten (firstHeader headers "content-type") with
  | error failure => simp [Exchange.fail, settled, Except.map]
  | ok decoded => simp [Except.map]

variable {contentType : Option String} {decoded : String × Json}

theorem decodeResponseBody_isError : (∃ failure, decodeResponseBody parseJson bytes contentType = .error failure) ↔
    declaresJson (mediaType contentType) = true ∧ ∀ text, utf8 text = bytes → parseJson (withoutBom text) = none := by
  unfold decodeResponseBody
  split
  · rename_i declared
    simp only [declared, true_and]
    split
    · rename_i value read
      obtain ⟨text, decodes, parsed⟩ := Option.bind_eq_some_iff.mp read
      obtain ⟨sent, encoded, rfl⟩ := decodeUtf8_eq_some.mp decodes
      simp only [reduceCtorEq, exists_false, false_iff, not_forall]
      exact ⟨sent, encoded, by simp [parsed]⟩
    · rename_i unread
      refine iff_of_true ⟨_, rfl⟩ fun text encoded => ?_
      exact Option.bind_eq_none_iff.mp unread _ (decodeUtf8_eq_some.mpr ⟨text, encoded, rfl⟩)
  · rename_i undeclared
    simp only [undeclared]
    split <;> simp

theorem denotes_iff (ok : decodeResponseBody parseJson bytes contentType = .ok decoded) :
    Denotes parseJson decoded.1 decoded.2 bytes ↔ (declaresJson (mediaType contentType) = false →
      declaresText (mediaType contentType) = true → ∀ text, utf8 ('\uFEFF' :: text) ≠ bytes) := by
  unfold decodeResponseBody at ok
  split at ok
  · rename_i declared
    split at ok
    · rename_i value read
      obtain rfl := Except.ok.inj ok
      obtain ⟨text, decodes, parsed⟩ := Option.bind_eq_some_iff.mp read
      obtain ⟨sent, encoded, rfl⟩ := decodeUtf8_eq_some.mp decodes
      refine iff_of_true ⟨sent, encoded, parsed⟩ fun undeclared => ?_
      rw [declared] at undeclared
      cases undeclared
    · cases ok
  · rename_i undeclared
    split at ok
    · rename_i text read
      obtain rfl := Except.ok.inj ok
      split at read
      · rename_i textual
        obtain ⟨sent, rfl, rfl⟩ := decodeUtf8_eq_some.mp read
        simp only [Denotes, String.toList_ofList, utf8_injective.eq_iff, withoutBom_eq_self]
        exact ⟨fun unmarked _ _ text same => unmarked text (utf8_injective same.symm),
          fun unmarked text same => unmarked (Bool.eq_false_iff.mpr undeclared) textual text (congrArg utf8 same.symm)⟩
      · cases read
    · rename_i unread
      obtain rfl := Except.ok.inj ok
      refine iff_of_true ?_ fun _ textual text encoded => ?_
      · simp only [Denotes, String.toList_ofList]
        exact base64Read_base64Text bytes
      · rw [if_pos textual, decodeUtf8_eq_some.mpr ⟨_, encoded, rfl⟩] at unread
        cases unread

theorem openRequest_limit (ok : openRequest newURL request destination options = .ok opened) :
    opened.maxResponseBytes = options.maxResponseBytes.getD defaultPaidHttpResponseBytes ∧ 0 < opened.maxResponseBytes := by
  unfold openRequest at ok
  split at ok
  · split at ok
    · cases ok
    · obtain ⟨timeoutMs, -, ok⟩ := bind_eq_ok.mp ok
      obtain ⟨maxResponseBytes, bounded, ok⟩ := bind_eq_ok.mp ok
      obtain rfl := Except.ok.inj ok
      unfold boundedPositiveInteger at bounded
      dsimp only at bounded
      split at bounded
      · rename_i positive
        obtain rfl := Except.ok.inj bounded
        exact ⟨rfl, positive.1⟩
      · cases bounded
  · cases ok

theorem opened_head (parseJson : List Char → Option Json) (opened : ClientRequest) (status : Nat)
    (rawHeaders : List (String × String)) : (((Reception.opened opened).onEvent parseJson (.head status rawHeaders)).Receiving opened status
      (safeResponseHeaders rawHeaders) [] ∧ hasUnsupportedContentEncoding (safeResponseHeaders rawHeaders) = false ∧
      isRedirect status (safeResponseHeaders rawHeaders) = false) ∨
    ((hasUnsupportedContentEncoding (safeResponseHeaders rawHeaders) = true ∨
      isRedirect status (safeResponseHeaders rawHeaders) = true) ∧
      ∃ failure, ((Reception.opened opened).onEvent parseJson (.head status rawHeaders)).exchange.settled = some (.error failure)) := by
  have unanswered : ∀ response, (Reception.opened opened).exchange.settled ≠ some (.ok response) := by
    intro response settled
    cases settled
  simp only [Reception.onEvent, Exchange.onEvent]
  split
  · rename_i unsupported
    exact .inr ⟨.inl unsupported, Reception.Unanswered.fail _ unanswered⟩
  · rename_i supported
    split
    · rename_i redirect
      exact .inr ⟨.inr redirect, Reception.Unanswered.fail _ unanswered⟩
    · rename_i direct
      exact .inl ⟨⟨rfl, rfl, rfl, rfl, rfl⟩, Bool.eq_false_iff.mpr supported, Bool.eq_false_iff.mpr direct⟩

variable (parseJson newURL request destination options)

theorem execute_outcome (receives : Receives status rawHeaders chunks events) :
    (Refused parseJson newURL request destination options status rawHeaders chunks.flatten events ∧
      ∃ failure, executeBoundedHttpRequest parseJson newURL request destination options events = some (.error failure)) ∨
    (¬Refused parseJson newURL request destination options status rawHeaders chunks.flatten events ∧
      ∃ decoded, decodeResponseBody parseJson chunks.flatten (firstHeader (safeResponseHeaders rawHeaders) "content-type") =
          .ok decoded ∧
        (chunks.flatten.length : Int) ≤ options.maxResponseBytes.getD defaultPaidHttpResponseBytes ∧
        executeBoundedHttpRequest parseJson newURL request destination options events = some (.ok ⟨status,
          safeResponseHeaders rawHeaders, firstHeader (safeResponseHeaders rawHeaders) "content-type", decoded.1, decoded.2,
          chunks.flatten.length⟩)) := by
  unfold executeBoundedHttpRequest
  cases opens : openRequest newURL request destination options with
  | error failure => exact .inl ⟨.unopened failure opens, failure, rfl⟩
  | ok opened =>
    obtain ⟨limit, positive⟩ := openRequest_limit opens
    by_cases ends : EndsFirst events
    · obtain ⟨after, rfl⟩ := whole_response receives ends
      dsimp only
      rw [List.foldl_append, List.foldl_cons, List.foldl_cons]
      rcases opened_head parseJson opened status rawHeaders with ⟨receiving, supported, direct⟩ | ⟨refused, failure, failed⟩
      · by_cases fits : (chunks.flatten.length : Int) ≤ opened.maxResponseBytes
        · have received : ((chunks.map SocketEvent.data).foldl (Reception.onEvent parseJson) _).Receiving opened status
              (safeResponseHeaders rawHeaders) ([] ++ chunks) := receiving.foldl (by simpa using fits)
          rw [List.nil_append] at received
          rw [settled_foldl received.ended]
          rw [limit] at fits
          cases decodes : decodeResponseBody parseJson chunks.flatten
              (firstHeader (safeResponseHeaders rawHeaders) "content-type") with
          | error failure =>
            obtain ⟨declared, invalid⟩ := decodeResponseBody_isError.mp ⟨failure, decodes⟩
            exact .inl ⟨.notJson declared invalid, failure, rfl⟩
          | ok decoded =>
            refine .inr ⟨?_, decoded, rfl, fits, rfl⟩
            rintro (⟨failure, fails⟩ | interrupted | unsupported | redirect | above | ⟨declared, invalid⟩)
            · rw [opens] at fails
              cases fails
            · exact interrupted ends
            · rw [supported] at unsupported
              cases unsupported
            · rw [direct] at redirect
              cases redirect
            · omega
            · obtain ⟨failure, fails⟩ := decodeResponseBody_isError.mpr ⟨declared, invalid⟩
              rw [decodes] at fails
              cases fails
        · obtain ⟨failure, failed⟩ : ∃ failure, ((chunks.map SocketEvent.data).foldl (Reception.onEvent parseJson) _).exchange.settled =
              some (.error failure) := receiving.foldl_exceeds (by simpa using positive.le) (by simpa using fits)
          exact .inl ⟨.tooLarge (by omega), failure, settled_foldl (settled_onEvent failed)⟩
      · refine .inl ⟨?_, failure, settled_foldl (settled_onEvent (settled_foldl failed))⟩
        exact refused.elim .encoded .redirected
    · exact .inl ⟨.interrupted ends, interrupted_outcome receives ends⟩

/-- A response tells what was sent exactly when the request fails, the `Connection` header hides nothing that is checked, and no
text begins with a byte order mark. -/
theorem response_faithful_iff (receives : Receives status rawHeaders chunks events) :
    (∃ outcome, executeBoundedHttpRequest parseJson newURL request destination options events = some outcome ∧
      ∀ response, outcome = .ok response → FaithfulTo parseJson
        (options.maxResponseBytes.getD defaultPaidHttpResponseBytes) status rawHeaders chunks.flatten response) ↔
      Refused parseJson newURL request destination options status rawHeaders chunks.flatten events ∨
        Plain status rawHeaders chunks.flatten := by
  rcases execute_outcome parseJson newURL request destination options receives with
    ⟨refused, failure, fails⟩ | ⟨accepted, decoded, decodes, fits, returned⟩
  · exact iff_of_true ⟨_, fails, nofun⟩ (.inl refused)
  · rw [or_iff_right accepted, returned]
    constructor
    · rintro ⟨outcome, same, faithful⟩
      obtain rfl := Option.some.inj same
      obtain ⟨-, -, body, identity, direct⟩ := faithful _ rfl
      exact ⟨identity, direct, (denotes_iff decodes).mp body⟩
    · rintro ⟨identity, direct, unmarked⟩
      refine ⟨_, rfl, fun response same => ?_⟩
      obtain rfl := Except.ok.inj same
      exact ⟨rfl, fits, (denotes_iff decodes).mpr unmarked, identity, direct⟩

end

section Example

def quoteRequest : NormalizedPaidHttpRequest := ⟨quoteUrl.href, "GET", [], none⟩

def quoteDestination : ValidatedPaidHttpDestination := ⟨quoteUrl.href, "data.test", ["93.184.216.34"], answers ["93.184.216.34"]⟩

def parseNothing : List Char → Option Json := fun _ => none

def quoteOutcome (events : List SocketEvent) : Option (Except PaidHttpFailure PaidHttpResponse) :=
  executeBoundedHttpRequest parseNothing dataDeployment.newURL quoteRequest quoteDestination ⟨none, none⟩ events

def respond (rawHeaders : List (String × String)) (chunk : List UInt8) : List SocketEvent :=
  [.head 200 rawHeaders, .data chunk, .ended]

def plainText : List (String × String) := [("Content-Type", "text/plain")]

def hiddenEncoding : List (String × String) := [("Connection", "content-encoding"), ("Content-Encoding", "gzip")]

def twoChunks : List SocketEvent := [.head 200 plainText, .data [104], .data [105], .ended]

theorem receives_twoChunks : Receives 200 plainText [[104], [105]] twoChunks :=
  ⟨List.prefix_rfl, .ended, by simp [twoChunks], rfl⟩

theorem response_faithful_plain : ∃ response, quoteOutcome twoChunks = some (.ok response) ∧ response.body = .string "hi" ∧
    FaithfulTo parseNothing 1048576 200 plainText [104, 105] response := by
  obtain ⟨outcome, same, faithful⟩ :=
    (response_faithful_iff parseNothing dataDeployment.newURL quoteRequest quoteDestination ⟨none, none⟩
      receives_twoChunks).mpr (.inr ⟨by decide +kernel, by decide +kernel, fun _ _ text same => by
        simp [utf8, String.utf8EncodeChar] at same⟩)
  have read : quoteOutcome twoChunks = some (.ok ⟨200, plainText, some "text/plain", "text", .string "hi", 2⟩) := rfl
  obtain rfl := Option.some.inj (read.symm.trans same)
  exact ⟨_, read, rfl, faithful _ rfl⟩

/-- A compressed body passes for a plain one, and two bodies pass for one text. -/
theorem response_unfaithful :
    (∃ response, quoteOutcome (respond hiddenEncoding [31, 139]) = some (.ok response) ∧
      ¬FaithfulTo parseNothing 1048576 200 hiddenEncoding [31, 139] response) ∧
    ∃ response response', quoteOutcome (respond plainText [0xef, 0xbb, 0xbf, 97]) = some (.ok response) ∧
      quoteOutcome (respond plainText [97]) = some (.ok response') ∧
      response.bodyEncoding = "text" ∧ response'.bodyEncoding = "text" ∧ response.body = response'.body := by
  refine ⟨⟨⟨200, [], none, "base64", .string "H4s=", 2⟩, rfl, fun faithful => ?_⟩, ?_⟩
  · have hidden : hasUnsupportedContentEncoding hiddenEncoding = true := by decide +kernel
    rw [faithful.identity] at hidden
    cases hidden
  · exact ⟨⟨200, plainText, some "text/plain", "text", .string "a", 4⟩, ⟨200, plainText, some "text/plain", "text", .string "a", 1⟩,
      rfl, rfl, rfl, rfl, rfl⟩

end Example

end AgentOps.PaidHttp
