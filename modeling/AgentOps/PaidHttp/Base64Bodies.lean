import AgentOps.PaidHttp.Responses

namespace AgentOps.PaidHttp
open Lib Identity

/-! # Bodies given as base64 -/

/-- The text of these bytes, with its padding or without -/
def CanonicalBase64 (text : List Char) (bytes : List UInt8) : Prop := text = base64Text bytes ∨ text = encodeBase64 bytes

/-- What is checked of a request before its body -/
structure Addressed (newURL : String → Option Url) (request : PaidHttpRequest) : Prop where
  url : ∃ parsedUrl, newURL request.url = some parsedUrl ∧ (parsedUrl.protocol = "https:" ∨ parsedUrl.protocol = "http:")
  method : request.method ∈ ["POST", "PUT", "PATCH", "DELETE"]
  headers : request.headers.findSome? headerFailure = none

variable {value text : List Char} {bytes bytes' : List UInt8}

theorem isBase64Char_base64Char {n : Nat} (small : n < 64) : isBase64Char (base64Char n) = true := by
  interval_cases n <;> rfl

theorem unitsOf_base64Char {n : Nat} (small : n < 64) : unitsOf (base64Char n) = 1 := by
  interval_cases n <;> rfl

theorem encodeBase64_chars : ∀ c ∈ encodeBase64 bytes, ∃ n < 64, c = base64Char n := by
  induction bytes using encodeBase64.induct with
  | case1 a b c rest ih =>
    have first := a.toNat_lt
    have second := b.toNat_lt
    have third := c.toNat_lt
    simp only [encodeBase64, List.forall_mem_cons]
    exact ⟨⟨_, by omega, rfl⟩, ⟨_, by omega, rfl⟩, ⟨_, by omega, rfl⟩, ⟨_, by omega, rfl⟩, ih⟩
  | case2 a b =>
    have first := a.toNat_lt
    have second := b.toNat_lt
    simp only [encodeBase64, List.forall_mem_cons]
    exact ⟨⟨_, by omega, rfl⟩, ⟨_, by omega, rfl⟩, ⟨_, by omega, rfl⟩, List.forall_mem_nil _⟩
  | case3 a =>
    have first := a.toNat_lt
    simp only [encodeBase64, List.forall_mem_cons]
    exact ⟨⟨_, by omega, rfl⟩, ⟨_, by omega, rfl⟩, List.forall_mem_nil _⟩
  | case4 => exact List.forall_mem_nil _

theorem all_encodeBase64 : (encodeBase64 bytes).all isBase64Char = true := by
  rw [List.all_eq_true]
  intro c member
  obtain ⟨n, small, rfl⟩ := encodeBase64_chars c member
  exact isBase64Char_base64Char small

theorem unitsLength_encodeBase64 : unitsLength (encodeBase64 bytes) = (encodeBase64 bytes).length := by
  have ones : (encodeBase64 bytes).map unitsOf = (encodeBase64 bytes).map fun _ => 1 := by
    refine List.map_congr_left fun c member => ?_
    obtain ⟨n, small, rfl⟩ := encodeBase64_chars c member
    exact unitsOf_base64Char small
  simp [unitsLength, ones]

theorem length_encodeBase64 : (encodeBase64 bytes).length = (bytes.length * 4 + 2) / 3 := by
  induction bytes using encodeBase64.induct with
  | case1 a b c rest ih =>
    simp only [encodeBase64, List.length_cons, ih]
    omega
  | case2 | case3 | case4 => simp [encodeBase64]

theorem unitsLength_pads (text : List Char) (padding : Nat) :
    unitsLength (text ++ List.replicate padding '=') = unitsLength text + padding := by
  have one : unitsOf '=' = 1 := rfl
  simp [unitsLength, one]

theorem base64Bytes_pads (bytes : List UInt8) (padding : Nat) :
    base64Bytes (encodeBase64 bytes ++ List.replicate padding '=') =
      let length := (encodeBase64 bytes).length + padding
      if length > (maxPaidHttpBodyBytes + 2) / 3 * 4 then .error bodyLimitError
      else if padding > 2 ∨ (encodeBase64 bytes).length % 4 = 1 ∨ padding > 0 ∧ length % 4 ≠ 0 then
        .error (.typeError "Invalid base64 paid HTTP body")
      else if length * 3 / 4 - padding > maxPaidHttpBodyBytes then .error bodyLimitError
      else .ok bytes := by
  rw [base64Bytes, rdropWhile_pads encodeBase64_ne_pad, unitsLength_pads, unitsLength_encodeBase64, all_encodeBase64,
    decodeBase64_encodeBase64, List.length_append, List.length_replicate, Nat.add_sub_cancel_left]
  simp only [Bool.not_true, Bool.false_or, Bool.or_eq_true, Bool.and_eq_true, decide_eq_true_eq, or_assoc, ne_eq,
    not_true_eq_false, if_false]

theorem base64Bytes_pads_iff {padding : Nat} :
    base64Bytes (encodeBase64 bytes ++ List.replicate padding '=') = .ok bytes ↔
      (padding = 0 ∨ padding = (3 - bytes.length % 3) % 3) ∧ bytes.length ≤ maxPaidHttpBodyBytes := by
  have length : (encodeBase64 bytes).length = (bytes.length * 4 + 2) / 3 := length_encodeBase64
  have limit : maxPaidHttpBodyBytes = 262144 := rfl
  have groups : 3 * (bytes.length / 3) + bytes.length % 3 = bytes.length := Nat.div_add_mod _ _
  have left : bytes.length % 3 < 3 := Nat.mod_lt _ (by decide)
  rw [base64Bytes_pads, length, limit]
  dsimp only
  generalize bytes.length / 3 = q at groups
  generalize bytes.length % 3 = r at groups left ⊢
  rw [← groups]
  -- the bytes that are left over decide the padding
  interval_cases r <;> split_ifs <;> simp only [false_iff, true_iff] <;> omega

theorem base64Bytes_iff : base64Bytes value = .ok bytes ↔ CanonicalBase64 value bytes ∧ bytes.length ≤ maxPaidHttpBodyBytes := by
  constructor
  · intro accepted
    -- what is decoded gives the text back, so the text is that of the bytes with some padding
    have decoded : encodeBase64 bytes = value.rdropWhile (· = '=') := by
      unfold base64Bytes at accepted
      dsimp only at accepted
      split_ifs at accepted with _ _ _ same
      rw [← Except.ok.inj accepted]
      exact not_not.mp same
    have split := rdropWhile_append_replicate value '='
    rw [← decoded] at split
    rw [← split, base64Bytes_pads_iff] at accepted
    obtain ⟨unpadded | padded, fits⟩ := accepted
    · rw [unpadded, List.replicate_zero, List.append_nil] at split
      exact ⟨.inr split.symm, fits⟩
    · rw [padded] at split
      exact ⟨.inl split.symm, fits⟩
  · rintro ⟨rfl | rfl, fits⟩
    · exact base64Bytes_pads_iff.mpr ⟨.inr rfl, fits⟩
    · have accepted : base64Bytes (encodeBase64 bytes ++ List.replicate 0 '=') = .ok bytes := base64Bytes_pads_iff.mpr ⟨.inl rfl, fits⟩
      rwa [List.replicate_zero, List.append_nil] at accepted

theorem CanonicalBase64.unique (canonical : CanonicalBase64 text bytes) (canonical' : CanonicalBase64 text bytes') :
    bytes = bytes' := by
  have read {bytes : List UInt8} (canonical : CanonicalBase64 text bytes) : base64Read text = bytes := by
    rcases canonical with rfl | rfl
    · exact base64Read_base64Text bytes
    · have unpadded := rdropWhile_pads (@encodeBase64_ne_pad bytes) 0
      rw [List.replicate_zero, List.append_nil] at unpadded
      rw [base64Read, unpadded, decodeBase64_encodeBase64]
  rw [← read canonical, read canonical']

variable {newURL : String → Option Url} {request : PaidHttpRequest} {normalized : NormalizedPaidHttpRequest} {body : Json}

theorem normalize_body {encodeBody : Json → Except PaidHttpFailure (List UInt8)} (given : request.body = some body) :
    normalizePaidHttpRequest newURL encodeBody request = .ok normalized ↔
      Addressed newURL request ∧ ∃ bytes, encodeBody body = .ok bytes ∧
        normalized = ⟨request.url, request.method, request.headers, some bytes⟩ := by
  constructor
  · intro accepted
    unfold normalizePaidHttpRequest at accepted
    split at accepted
    · cases accepted
    rename_i parsedUrl read
    rw [given] at accepted
    split_ifs at accepted with scheme method get
    split at accepted
    · cases accepted
    rename_i headers
    dsimp only at accepted
    cases encoded : encodeBody body with
    | error failure => rw [encoded] at accepted; cases accepted
    | ok bytes =>
      rw [encoded] at accepted
      have known : request.method ∈ ["GET", "POST", "PUT", "PATCH", "DELETE"] := method
      have posted := (List.mem_cons.mp known).resolve_left fun isGet => get ⟨isGet, rfl⟩
      exact ⟨⟨⟨parsedUrl, read, by tauto⟩, posted, headers⟩, bytes, rfl, (Except.ok.inj accepted).symm⟩
  · rintro ⟨⟨⟨parsedUrl, read, scheme⟩, posted, headers⟩, bytes, encoded, rfl⟩
    have other : request.method ≠ "GET" := by rintro isGet; rw [isGet] at posted; revert posted; decide
    rw [normalizePaidHttpRequest, read, given]
    dsimp only
    rw [if_neg (by tauto), if_neg (not_not.mpr (List.mem_cons_of_mem _ posted)), if_neg fun get => other get.1, headers]
    dsimp only
    rw [encoded]
    rfl

theorem bodyBytes_base64 {value : String} (base64 : PaidHttpBody.ofJson body = .base64 value) :
    bodyBytes body = .ok bytes ↔ CanonicalBase64 value.toList bytes ∧ bytes.length ≤ maxPaidHttpBodyBytes := by
  rw [bodyBytes, base64, PaidHttpBody.encode]
  constructor
  · intro accepted
    obtain ⟨bytes', encoded, within⟩ := bind_eq_ok.mp accepted
    split_ifs at within
    obtain rfl := Except.ok.inj within
    exact base64Bytes_iff.mp encoded
  · intro canonical
    rw [base64Bytes_iff.mpr canonical]
    exact if_neg (Nat.not_lt.mpr canonical.2)

/-- A base64 body is accepted exactly when it is the text of a byte string within the limit, and it is read as that byte string:
not cut, not let through above the limit, and not as the bytes of another text. -/
theorem base64_bodies_exact {value : String} (given : request.body = some body)
    (base64 : PaidHttpBody.ofJson body = .base64 value) :
    (∀ normalized, normalizePaidHttpRequest newURL bodyBytes request = .ok normalized ↔
      Addressed newURL request ∧ ∃ bytes, CanonicalBase64 value.toList bytes ∧ bytes.length ≤ maxPaidHttpBodyBytes ∧
        normalized = ⟨request.url, request.method, request.headers, some bytes⟩) ∧
    (∀ bytes, CanonicalBase64 value.toList bytes → maxPaidHttpBodyBytes < bytes.length →
      ∀ normalized, normalizePaidHttpRequest newURL bodyBytes request ≠ .ok normalized) ∧
    ∀ (request' : PaidHttpRequest) (body' : Json) (value' : String),
      request'.body = some body' → PaidHttpBody.ofJson body' = .base64 value' →
      ∀ (normalized normalized' : NormalizedPaidHttpRequest) (bytes bytes' : List UInt8),
        normalizePaidHttpRequest newURL bodyBytes request = .ok normalized →
        normalizePaidHttpRequest newURL bodyBytes request' = .ok normalized' →
        CanonicalBase64 value.toList bytes → CanonicalBase64 value'.toList bytes' → bytes ≠ bytes' →
        normalized.body ≠ normalized'.body := by
  have exact {request : PaidHttpRequest} {body : Json} {value : String} {normalized : NormalizedPaidHttpRequest}
      (given : request.body = some body) (base64 : PaidHttpBody.ofJson body = .base64 value) :
      normalizePaidHttpRequest newURL bodyBytes request = .ok normalized ↔
        Addressed newURL request ∧ ∃ bytes, CanonicalBase64 value.toList bytes ∧ bytes.length ≤ maxPaidHttpBodyBytes ∧
          normalized = ⟨request.url, request.method, request.headers, some bytes⟩ := by
    simp only [normalize_body given, bodyBytes_base64 base64, and_assoc]
  refine ⟨fun normalized => exact given base64, ?_, ?_⟩
  · intro bytes canonical above normalized accepted
    obtain ⟨-, bytes', canonical', fits, -⟩ := (exact given base64).mp accepted
    rw [canonical.unique canonical'] at above
    exact absurd fits (Nat.not_le.mpr above)
  · intro request' body' value' given' base64' normalized normalized' bytes bytes' accepted accepted' canonical canonical' differ same
    obtain ⟨-, read, text, -, rfl⟩ := (exact given base64).mp accepted
    obtain ⟨-, read', text', -, rfl⟩ := (exact given' base64').mp accepted'
    refine differ ?_
    rw [canonical.unique text, canonical'.unique text']
    exact Option.some.inj same

/-- A request whose body is `hi` -/
def base64Request (value : String) : PaidHttpRequest :=
  { postedRequest "content-type" with body := some (.object [("kind", .string "base64"), ("value", .string value)]) }

theorem base64_bodies_exact_hi : normalizePaidHttpRequest sellerURL bodyBytes (base64Request "aGk=") =
    .ok ⟨"https://seller.example/run", "POST", [("content-type", "text/plain")], some [104, 105]⟩ :=
  ((base64_bodies_exact rfl rfl).1 _).mpr
    ⟨⟨⟨_, rfl, .inl rfl⟩, by decide, by decide⟩, [104, 105], .inl (by decide), by decide, rfl⟩

end AgentOps.PaidHttp
