import AgentOps.Lib.Framed
import AgentOps.PaidHttp.Requests
import AgentOps.PaidHttp.StableJson
import AgentOps.Payments.AttemptStore

namespace AgentOps.PaidHttp
open Lib Identity Payments

/-! # The hash that identifies a paid request -/

def hostString (text : String) : CodeUnits := text.toList.flatMap fun c => (CodePoint.scalar c).units

mutual

/-- A number that is not finite is written as `null`. -/
def hostJson : Json → HostJson
  | .null => .null
  | .bool value => .bool value
  | .number rendered => (((numberOf? rendered).bind Double.ofRat?).map HostJson.number).getD .null
  | .string value => .string (hostString value)
  | .array items => .array (hostItems items)
  | .object fields => .object (hostFields fields)

def hostItems : List Json → List HostJson
  | [] => []
  | item :: items => hostJson item :: hostItems items

def hostFields : JsonObject → HostFields
  | [] => []
  | (name, value) :: fields => (hostString name, hostJson value) :: hostFields fields

end

inductive PaidHttpBody where
  | json (value : Option Json)
  | text (value : String)
  | base64 (value : String)
  | other (kind : String)

/-- The body that a request holds under its `kind` -/
def PaidHttpBody.ofJson : Json → PaidHttpBody
  | .object fields =>
    match JsonObject.string? fields "kind", JsonObject.string? fields "value" with
    | some "json", _ => .json (JsonObject.field? fields "value")
    | some "text", some value => .text value
    | some "base64", some value => .base64 value
    | kind, _ => .other (kind.getD "undefined")
  | _ => .other "undefined"

def isBase64Char (c : Char) : Bool := c.isAlphanum || c = '+' || c = '/'

def base64Value (c : Char) : Nat :=
  if c.isUpper then c.toNat - 'A'.toNat
  else if c.isLower then c.toNat - 'a'.toNat + 26
  else if c.isDigit then c.toNat - '0'.toNat + 52
  else if c = '+' then 62
  else 63

def base64Char (n : Nat) : Char :=
  if n < 26 then Char.ofNat ('A'.toNat + n)
  else if n < 52 then Char.ofNat ('a'.toNat + (n - 26))
  else if n < 62 then Char.ofNat ('0'.toNat + (n - 52))
  else if n = 62 then '+'
  else '/'

/-- `Buffer.from(value, 'base64')`, without the padding -/
def decodeBase64 : List Char → List UInt8
  | a :: b :: c :: d :: rest =>
    let n := ((base64Value a * 64 + base64Value b) * 64 + base64Value c) * 64 + base64Value d
    UInt8.ofNat (n / 65536) :: UInt8.ofNat (n / 256 % 256) :: UInt8.ofNat (n % 256) :: decodeBase64 rest
  | [a, b, c] =>
    let n := (base64Value a * 64 + base64Value b) * 64 + base64Value c
    [UInt8.ofNat (n / 1024), UInt8.ofNat (n / 4 % 256)]
  | [a, b] => [UInt8.ofNat ((base64Value a * 64 + base64Value b) / 16)]
  | _ => []

/-- `toString('base64')`, without the padding -/
def encodeBase64 : List UInt8 → List Char
  | a :: b :: c :: rest =>
    let n := (a.toNat * 256 + b.toNat) * 256 + c.toNat
    base64Char (n / 262144) :: base64Char (n / 4096 % 64) :: base64Char (n / 64 % 64) :: base64Char (n % 64) :: encodeBase64 rest
  | [a, b] =>
    let n := a.toNat * 256 + b.toNat
    [base64Char (n / 1024), base64Char (n / 16 % 64), base64Char (n % 16 * 4)]
  | [a] => [base64Char (a.toNat / 4), base64Char (a.toNat % 4 * 16)]
  | [] => []

def textBytes (value : List Char) : Except PaidHttpFailure (List UInt8) :=
  if unitsLength value > maxPaidHttpBodyBytes then .error bodyLimitError
  else (BoundedUtf8Writer.empty.append value).map BoundedUtf8Writer.bytes

def base64Bytes (value : List Char) : Except PaidHttpFailure (List UInt8) :=
  let unpadded := value.rdropWhile (· = '=')
  let padding := value.length - unpadded.length
  if unitsLength value > (maxPaidHttpBodyBytes + 2) / 3 * 4 then .error bodyLimitError
  else if !unpadded.all isBase64Char || padding > 2 || unpadded.length % 4 = 1 || (padding > 0 && value.length % 4 ≠ 0) then
    .error (.typeError "Invalid base64 paid HTTP body")
  else if value.length * 3 / 4 - padding > maxPaidHttpBodyBytes then .error bodyLimitError
  else if encodeBase64 (decodeBase64 unpadded) ≠ unpadded then .error (.typeError "Invalid base64 paid HTTP body")
  else .ok (decodeBase64 unpadded)

def PaidHttpBody.encode : PaidHttpBody → Except PaidHttpFailure (List UInt8)
  | .json value => stableJsonBytes (value.map hostJson)
  | .text value => textBytes value.toList
  | .base64 value => base64Bytes value.toList
  | .other kind => .error (.typeError ("Unsupported paid HTTP body encoding: " ++ kind))

def bodyBytes (body : Json) : Except PaidHttpFailure (List UInt8) :=
  (PaidHttpBody.ofJson body).encode.bind fun bytes =>
    if bytes.length > maxPaidHttpBodyBytes then .error bodyLimitError else .ok bytes

def updateHashField (value : List UInt8) : List UInt8 := frame value

def textField (value : String) : List UInt8 := utf8 value.toList

def headerFields (header : String × String) : List (List UInt8) := [textField (lower header.1), textField header.2]

def hashInput (normalized : NormalizedPaidHttpRequest) : List UInt8 :=
  updateHashField (textField normalized.method) ++ updateHashField (textField normalized.url) ++
  updateHashField (utf8 (Nat.toDigits 10 normalized.headers.length)) ++
  normalized.headers.flatMap (fun header =>
    updateHashField (textField (lower header.1)) ++ updateHashField (textField header.2)) ++
  updateHashField (textField (if normalized.body.isNone then "0" else "1")) ++
  (match normalized.body with
    | none => []
    | some body => updateHashField body)

def canonicalPaidHttpRequestHash (newURL : String → Option Url) (sha256 : List UInt8 → Hash) (request : PaidHttpRequest) :
    Except PaidHttpFailure Hash :=
  (normalizePaidHttpRequest newURL bodyBytes request).map fun normalized => sha256 (hashInput normalized)

/-- The same paid request: names of headers count up to letter case. -/
structure SamePaidRequest (request request' : NormalizedPaidHttpRequest) : Prop where
  method : request.method = request'.method
  url : request.url = request'.url
  headers : request.headers.map (fun header => (lower header.1, header.2)) =
    request'.headers.map fun header => (lower header.1, header.2)
  body : request.body = request'.body

/-- The same, of the requests as they are given: a body counts by its bytes. -/
structure PaidHttpRequest.Same (request request' : PaidHttpRequest) : Prop where
  method : request.method = request'.method
  url : request.url = request'.url
  headers : request.headers.map (fun header => (lower header.1, header.2)) =
    request'.headers.map fun header => (lower header.1, header.2)
  body : request.body.map bodyBytes = request'.body.map bodyBytes

theorem textField_injective : Function.Injective textField := fun _ _ same => String.toList_injective (utf8_injective same)

theorem headerFields_eq (headers : List (String × String)) :
    headers.flatMap (fun header => updateHashField (textField (lower header.1)) ++ updateHashField (textField header.2)) =
      (headers.flatMap headerFields).flatMap frame := by
  induction headers with
  | nil => rfl
  | cons header headers ih =>
    rw [List.flatMap_cons, List.flatMap_cons, List.flatMap_append, ih]
    simp [headerFields, updateHashField]

theorem length_headerFields (headers : List (String × String)) : (headers.flatMap headerFields).length = 2 * headers.length := by
  induction headers with
  | nil => rfl
  | cons header headers ih =>
    rw [List.flatMap_cons, List.length_append, ih, List.length_cons]
    simp only [headerFields, List.length_cons, List.length_nil]
    omega

theorem headerFields_inj {headers headers' : List (String × String)}
    (same : headers.flatMap headerFields = headers'.flatMap headerFields) :
    headers.map (fun header => (lower header.1, header.2)) = headers'.map fun header => (lower header.1, header.2) := by
  induction headers generalizing headers' with
  | nil =>
    cases headers' with
    | nil => rfl
    | cons header' headers' => simp [headerFields] at same
  | cons header headers ih =>
    cases headers' with
    | nil => simp [headerFields] at same
    | cons header' headers' =>
      simp only [List.flatMap_cons, headerFields, List.cons_append, List.nil_append, List.cons.injEq] at same
      rw [List.map_cons, List.map_cons, ih same.2.2, textField_injective same.1, textField_injective same.2.1]

variable {request request' : NormalizedPaidHttpRequest}

/-- The hashed bytes say which paid request it is. -/
theorem hashInput_inj (same : hashInput request = hashInput request') : SamePaidRequest request request' := by
  rw [hashInput, hashInput, headerFields_eq, headerFields_eq] at same
  simp only [updateHashField, List.append_assoc] at same
  obtain ⟨method, same⟩ := frame_append_inj same
  obtain ⟨url, same⟩ := frame_append_inj same
  obtain ⟨count, same⟩ := frame_append_inj same
  have lengths : request.headers.length = request'.headers.length := by
    have values := congrArg digitsValue (utf8_injective count)
    rwa [digitsValue_toDigits, digitsValue_toDigits] at values
  obtain ⟨headers, same⟩ := frames_append_inj (by rw [length_headerFields, length_headerFields, lengths]) same
  obtain ⟨presence, same⟩ := frame_append_inj same
  have presence := textField_injective presence
  refine ⟨textField_injective method, textField_injective url, headerFields_inj headers, ?_⟩
  cases body : request.body with
  | none =>
    cases body' : request'.body with
    | none => rfl
    | some bytes' => simp [body, body'] at presence
  | some bytes =>
    cases body' : request'.body with
    | none => simp [body, body'] at presence
    | some bytes' =>
      rw [body, body'] at same
      have padded : frame bytes ++ [] = frame bytes' ++ [] := by rw [List.append_nil, List.append_nil]; exact same
      rw [(frame_append_inj padded).1]

theorem SamePaidRequest.hashInput_eq (same : SamePaidRequest request request') : hashInput request = hashInput request' := by
  have lengths : request.headers.length = request'.headers.length := by
    simpa using congrArg List.length same.headers
  have fields (headers : List (String × String)) : headers.flatMap (fun header =>
      updateHashField (textField (lower header.1)) ++ updateHashField (textField header.2)) =
      (headers.map fun header => (lower header.1, header.2)).flatMap fun header =>
        updateHashField (textField header.1) ++ updateHashField (textField header.2) := by
    rw [List.flatMap_map]
  rw [hashInput, hashInput, same.method, same.url, lengths, fields, fields, same.headers, same.body]

theorem createAttempt_existing {db db' : Db} {now : Time} {id : AttemptId} {input : CreateX402AttemptInput}
    {row existing : X402AttemptRow} (found : db.attemptFor input.connectionId input.idempotencyKey = some existing)
    (created : createAttempt db now id input = .ok (db', row)) : existing.request_hash = input.requestHash := by
  unfold createAttempt at created
  rw [found] at created
  simp only at created
  split_ifs at created with invalid other
  exact not_not.mp other

variable {newURL : String → Option Url} {first second : PaidHttpRequest} {normalized normalized' : NormalizedPaidHttpRequest}

theorem normalized_eq (accepted : normalizePaidHttpRequest newURL bodyBytes first = .ok normalized) :
    normalized.url = first.url ∧ normalized.method = first.method ∧ normalized.headers = first.headers ∧
      first.body.map bodyBytes = normalized.body.map .ok := by
  unfold normalizePaidHttpRequest at accepted
  split at accepted
  · cases accepted
  split_ifs at accepted
  split at accepted
  · cases accepted
  split at accepted
  · rename_i empty
    obtain rfl := Except.ok.inj accepted
    exact ⟨rfl, rfl, rfl, congrArg (Option.map bodyBytes) empty⟩
  · rename_i body given
    cases encoded : bodyBytes body with
    | error failure =>
      rw [encoded] at accepted
      cases accepted
    | ok bytes =>
      rw [encoded] at accepted
      obtain rfl := Except.ok.inj accepted
      exact ⟨rfl, rfl, rfl, by rw [given, Option.map_some, encoded, Option.map_some]⟩

theorem samePaidRequest_iff (accepted : normalizePaidHttpRequest newURL bodyBytes first = .ok normalized)
    (accepted' : normalizePaidHttpRequest newURL bodyBytes second = .ok normalized') :
    SamePaidRequest normalized normalized' ↔ first.Same second := by
  obtain ⟨url, method, headers, body⟩ := normalized_eq accepted
  obtain ⟨url', method', headers', body'⟩ := normalized_eq accepted'
  have bodies : normalized.body = normalized'.body ↔ first.body.map bodyBytes = second.body.map bodyBytes := by
    rw [body, body']
    exact (Option.map_injective fun _ _ => Except.ok.inj).eq_iff.symm
  constructor
  · rintro ⟨methods, urls, fields, bytes⟩
    rw [method, method'] at methods
    rw [url, url'] at urls
    rw [headers, headers'] at fields
    exact ⟨methods, urls, fields, bodies.mp bytes⟩
  · rintro ⟨methods, urls, fields, bytes⟩
    rw [← method, ← method'] at methods
    rw [← url, ← url'] at urls
    rw [← headers, ← headers'] at fields
    exact ⟨methods, urls, fields, bodies.mpr bytes⟩

theorem canonicalHash_eq (sha256 : List UInt8 → Hash)
    (accepted : normalizePaidHttpRequest newURL bodyBytes first = .ok normalized) :
    canonicalPaidHttpRequestHash newURL sha256 first = .ok (sha256 (hashInput normalized)) := by
  rw [canonicalPaidHttpRequestHash, accepted]
  rfl

/-- The hashed bytes of two requests agree exactly when they are the same paid request. A hash without collisions that is stored
for the one and recomputed for the other, under one idempotency key, therefore means the same paid request. -/
theorem hashInput_samePaidRequest (accepted : normalizePaidHttpRequest newURL bodyBytes first = .ok normalized)
    (accepted' : normalizePaidHttpRequest newURL bodyBytes second = .ok normalized') :
    (hashInput normalized = hashInput normalized' ↔ SamePaidRequest normalized normalized') ∧
    (SamePaidRequest normalized normalized' ↔ first.Same second) ∧
    ∀ sha256 : List UInt8 → Hash,
      (canonicalPaidHttpRequestHash newURL sha256 first = .ok (sha256 (hashInput normalized)) ∧
        canonicalPaidHttpRequestHash newURL sha256 second = .ok (sha256 (hashInput normalized'))) ∧
      (Function.Injective sha256 →
      (∀ stored, canonicalPaidHttpRequestHash newURL sha256 first = .ok stored →
        canonicalPaidHttpRequestHash newURL sha256 second = .ok stored → SamePaidRequest normalized normalized') ∧
      ∀ (db db' : Db) (now : Time) (id : AttemptId) (input : CreateX402AttemptInput) (existing row : X402AttemptRow),
        db.attemptFor input.connectionId input.idempotencyKey = some existing →
        canonicalPaidHttpRequestHash newURL sha256 first = .ok existing.request_hash →
        canonicalPaidHttpRequestHash newURL sha256 second = .ok input.requestHash →
        createAttempt db now id input = .ok (db', row) → SamePaidRequest normalized normalized') := by
  refine ⟨⟨hashInput_inj, SamePaidRequest.hashInput_eq⟩, samePaidRequest_iff accepted accepted', fun sha256 => ?_⟩
  have hash := canonicalHash_eq sha256 accepted
  have hash' := canonicalHash_eq sha256 accepted'
  refine ⟨⟨hash, hash'⟩, fun injective => ?_⟩
  rw [hash, hash']
  constructor
  · intro stored hashed hashed'
    exact hashInput_inj (injective ((Except.ok.inj hashed).trans (Except.ok.inj hashed').symm))
  · intro db db' now id input existing row found hashed hashed' created
    have same := createAttempt_existing found created
    rw [← same] at hashed'
    exact hashInput_inj (injective ((Except.ok.inj hashed).trans (Except.ok.inj hashed').symm))

def postedRequest (header : String) : PaidHttpRequest where
  url := "https://seller.example/run"
  method := "POST"
  headers := [(header, "text/plain")]
  body := some (.object [("kind", .string "text"), ("value", .string "hi")])

def sellerURL (url : String) : Option Url :=
  if url = "https://seller.example/run" then
    some ⟨"https:", "seller.example", "", "seller.example", "https://seller.example", url⟩
  else none

theorem hashInput_posted : hashInput ⟨"https://seller.example/run", "POST", [("Content-Type", "text/plain")], some [104, 105]⟩ =
    hashInput ⟨"https://seller.example/run", "POST", [("content-type", "text/plain")], some [104, 105]⟩ :=
  (@hashInput_samePaidRequest sellerURL (postedRequest "Content-Type") (postedRequest "content-type") _ _ rfl rfl).1.mpr
    ⟨rfl, rfl, by decide, rfl⟩

end AgentOps.PaidHttp
