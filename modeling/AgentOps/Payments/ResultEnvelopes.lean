import AgentOps.Lib.SealedBox
import AgentOps.Lib.Utf16
import AgentOps.PaidHttp.Base64Bodies

namespace AgentOps.Payments
open Lib PaidHttp

/-! # The sealed results of paid calls -/

def ALGORITHM : CodeUnits := unitsOfText "aes-256-gcm".toList

theorem one_exact : toDouble? 1 = some 1 := by decide +kernel

def VERSION : Double := ⟨1, one_exact⟩

def KEY_BYTES : Nat := 32

def IV_BYTES : Nat := 12

def TAG_BYTES : Nat := 16

structure X402ResultCryptoContext where
  attemptId : CodeUnits
  connectionId : CodeUnits
  orgId : CodeUnits

structure X402ResultEnvelope where
  ciphertext : CodeUnits
  iv : CodeUnits
  tag : CodeUnits

/-- `Buffer.from(value, 'base64')`, of what the encoder has written -/
def bytesOfBase64 (value : CodeUnits) : List UInt8 := base64Read (encoded value)

def base64Units (bytes : List UInt8) : CodeUnits := unitsOfText (base64Text bytes)

def decodeCanonicalBase64 (value : HostJson) (expectedBytes : Option Nat) (allowEmpty : Bool) (errorCode : String) :
    Except String (List UInt8) :=
  match value with
  | .string text =>
    if !allowEmpty && text.isEmpty then .error errorCode
    else
      let decoded := bytesOfBase64 text
      if base64Units decoded = text ∧ ∀ size ∈ expectedBytes, decoded.length = size then .ok decoded else .error errorCode
  | _ => .error errorCode

abbrev X402ResultKey := { bytes : List UInt8 // bytes.length = KEY_BYTES }

variable {value : HostJson} {bytes : List UInt8} {errorCode : String} {size : Nat}

@[simp] theorem bytesOfBase64_base64Units (bytes : List UInt8) : bytesOfBase64 (base64Units bytes) = bytes := by
  rw [bytesOfBase64, base64Units, encoded_unitsOfText, base64Read_base64Text]

theorem base64Units_ne_nil (filled : bytes ≠ []) : base64Units bytes ≠ [] := by
  intro empty
  have read := bytesOfBase64_base64Units bytes
  rw [empty] at read
  exact filled read.symm

theorem decodeCanonicalBase64_eq_ok {expectedBytes : Option Nat} :
    decodeCanonicalBase64 value expectedBytes false errorCode = .ok bytes ↔
      value = .string (base64Units bytes) ∧ bytes ≠ [] ∧ ∀ size ∈ expectedBytes, bytes.length = size := by
  unfold decodeCanonicalBase64
  constructor
  · intro accepted
    cases value with
    | string text =>
      simp only [Bool.not_false, Bool.true_and] at accepted
      split at accepted
      · cases accepted
      · rename_i filled
        split at accepted
        · rename_i canonical
          obtain rfl := Except.ok.inj accepted
          refine ⟨by rw [canonical.1], fun empty => ?_, canonical.2⟩
          rw [← canonical.1, empty] at filled
          exact filled rfl
        · cases accepted
    | _ => cases accepted
  · rintro ⟨rfl, filled, sized⟩
    have visible : (base64Units bytes).isEmpty = false := by simpa using base64Units_ne_nil filled
    simp only [visible, Bool.and_false, Bool.false_eq_true, if_false, bytesOfBase64_base64Units, true_and]
    rw [if_pos sized]

def resultKey (keyBase64 : CodeUnits) : Except String X402ResultKey :=
  match decodeCanonicalBase64 (.string keyBase64) (some KEY_BYTES) false "x402_result_key_must_be_32_byte_base64" with
  | .error message => .error message
  | .ok bytes => if sized : bytes.length = KEY_BYTES then .ok ⟨bytes, sized⟩
    else .error "x402_result_key_must_be_32_byte_base64"

def property (fields : HostFields) (key : CodeUnits) : Option HostJson :=
  (fields.find? fun entry => entry.1 = key).map Prod.snd

def name (text : String) : CodeUnits := unitsOfText text.toList

def envelopeKeys : List CodeUnits := ["algorithm", "ciphertext", "iv", "tag", "version"].map name

/-- `validateX402ResultEnvelope`; a property that is not there fails its check. -/
def validateX402ResultEnvelope (value : HostJson) : Except String X402ResultEnvelope :=
  match value with
  | .object fields =>
    if (fields.map Prod.fst).insertionSort (fun a b => HostJson.keyLe a b = true) =
        envelopeKeys then
      match property fields (name "algorithm"), property fields (name "version"), property fields (name "ciphertext"),
        property fields (name "iv"), property fields (name "tag") with
      | some (.string algorithm), some (.number version), some (.string ciphertext), some (.string iv), some (.string tag) =>
        if algorithm = ALGORITHM ∧ version = VERSION then do
          let _ ← decodeCanonicalBase64 (.string ciphertext) none false "x402_result_envelope_invalid"
          let _ ← decodeCanonicalBase64 (.string iv) (some IV_BYTES) false "x402_result_envelope_invalid"
          let _ ← decodeCanonicalBase64 (.string tag) (some TAG_BYTES) false "x402_result_envelope_invalid"
          return ⟨ciphertext, iv, tag⟩
        else .error "x402_result_envelope_invalid"
      | _, _, _, _, _ => .error "x402_result_envelope_invalid"
    else .error "x402_result_envelope_invalid"
  | _ => .error "x402_result_envelope_invalid"

def envelopeFields (ciphertext iv tag : List UInt8) : HostFields :=
  [(name "algorithm", .string ALGORITHM), (name "ciphertext", .string (base64Units ciphertext)),
    (name "iv", .string (base64Units iv)), (name "tag", .string (base64Units tag)), (name "version", .number VERSION)]

def X402ResultEnvelope.ofBytes (ciphertext iv tag : List UInt8) : X402ResultEnvelope :=
  ⟨base64Units ciphertext, base64Units iv, base64Units tag⟩

def X402ResultEnvelope.toJson (envelope : X402ResultEnvelope) : HostJson :=
  .object [(name "algorithm", .string ALGORITHM), (name "ciphertext", .string envelope.ciphertext),
    (name "iv", .string envelope.iv), (name "tag", .string envelope.tag), (name "version", .number VERSION)]

theorem envelopeKeys_nodup : envelopeKeys.Nodup := by decide +kernel

theorem envelopeKeys_sorted : envelopeKeys.insertionSort (fun a b => HostJson.keyLe a b = true) = envelopeKeys := by
  decide +kernel

instance : Std.Total fun a b : CodeUnits => HostJson.keyLe a b = true := ⟨fun _ _ => KeyOrder.lexLe_total _ _⟩

instance : IsTrans CodeUnits fun a b => HostJson.keyLe a b = true := ⟨fun _ _ _ => KeyOrder.lexLe_trans _ _ _⟩

theorem sorted_keys_iff {keys : List CodeUnits} :
    keys.insertionSort (fun a b => HostJson.keyLe a b = true) = envelopeKeys ↔ keys.Perm envelopeKeys := by
  constructor
  · intro same
    rw [← same]
    exact (List.perm_insertionSort _ _).symm
  · intro perm
    rw [← envelopeKeys_sorted]
    exact List.Perm.eq_of_pairwise (fun _ _ _ _ => HostJson.keyLe_antisymm) (List.pairwise_insertionSort _ _)
      (List.pairwise_insertionSort _ _) ((List.perm_insertionSort _ _).trans (perm.trans (List.perm_insertionSort _ _).symm))

theorem property_eq_some {fields : HostFields} {key : CodeUnits} (distinct : (fields.map Prod.fst).Nodup) :
    property fields key = some value ↔ (key, value) ∈ fields := by
  unfold property
  rw [Option.map_eq_some_iff]
  constructor
  · rintro ⟨entry, found, rfl⟩
    obtain rfl : entry.1 = key := by simpa using List.find?_some found
    exact List.mem_of_find?_eq_some found
  · intro member
    cases found : fields.find? fun entry => entry.1 = key with
    | none =>
      have missing := List.find?_eq_none.mp found _ member
      simp at missing
    | some entry =>
      have same : entry.1 = key := by simpa using List.find?_some found
      exact ⟨entry, rfl, congrArg Prod.snd (List.inj_on_of_nodup_map distinct (List.mem_of_find?_eq_some found) member same)⟩

theorem perm_envelopeFields {fields : HostFields} {ciphertext iv tag : List UInt8}
    (keys : (fields.map Prod.fst).Perm envelopeKeys) (members : ∀ entry ∈ envelopeFields ciphertext iv tag, entry ∈ fields) :
    fields.Perm (envelopeFields ciphertext iv tag) := by
  have distinct : ((envelopeFields ciphertext iv tag).map Prod.fst).Nodup := envelopeKeys_nodup
  have length : fields.length = (envelopeFields ciphertext iv tag).length := by
    rw [← List.length_map Prod.fst, keys.length_eq]
    rfl
  exact ((List.subperm_of_subset distinct.of_map members).perm_of_length_le length.le).symm

theorem validateX402ResultEnvelope_eq_ok {envelope : X402ResultEnvelope} :
    validateX402ResultEnvelope value = .ok envelope ↔ ∃ ciphertext iv tag fields, value = .object fields ∧
      fields.Perm (envelopeFields ciphertext iv tag) ∧ ciphertext ≠ [] ∧ iv.length = IV_BYTES ∧ tag.length = TAG_BYTES ∧
        envelope = .ofBytes ciphertext iv tag := by
  unfold validateX402ResultEnvelope
  constructor
  · intro accepted
    cases value with
    | object fields =>
      simp only at accepted
      split at accepted
      · rename_i sorted
        have keys := sorted_keys_iff.mp sorted
        have distinct : (fields.map Prod.fst).Nodup := keys.nodup_iff.mpr envelopeKeys_nodup
        split at accepted
        · rename_i algorithm version ciphertext iv tag algorithm' version' ciphertext' iv' tag'
          split at accepted
          · rename_i constants
            obtain ⟨rfl, rfl⟩ := constants
            obtain ⟨first, decodes, accepted⟩ := Identity.bind_eq_ok.mp accepted
            obtain ⟨second, decodes', accepted⟩ := Identity.bind_eq_ok.mp accepted
            obtain ⟨third, decodes'', accepted⟩ := Identity.bind_eq_ok.mp accepted
            obtain rfl := Except.ok.inj accepted
            obtain ⟨text, filled, -⟩ := decodeCanonicalBase64_eq_ok.mp decodes
            obtain ⟨text', -, sized⟩ := decodeCanonicalBase64_eq_ok.mp decodes'
            obtain ⟨text'', -, sized'⟩ := decodeCanonicalBase64_eq_ok.mp decodes''
            rw [property_eq_some distinct] at algorithm' version' ciphertext' iv' tag'
            obtain rfl := HostJson.string.inj text
            obtain rfl := HostJson.string.inj text'
            obtain rfl := HostJson.string.inj text''
            refine ⟨first, second, third, fields, rfl, perm_envelopeFields keys ?_, filled, sized _ rfl, sized' _ rfl, rfl⟩
            simp only [envelopeFields, List.forall_mem_cons]
            exact ⟨algorithm', ciphertext', iv', tag', version', List.forall_mem_nil _⟩
          · cases accepted
        · cases accepted
      · cases accepted
    | _ => cases accepted
  · rintro ⟨ciphertext, iv, tag, fields, rfl, perm, filled, sized, sized', rfl⟩
    have keys : (fields.map Prod.fst).Perm envelopeKeys := perm.map Prod.fst
    have distinct : (fields.map Prod.fst).Nodup := keys.nodup_iff.mpr envelopeKeys_nodup
    have members : ∀ entry ∈ envelopeFields ciphertext iv tag, entry ∈ fields := fun entry member => perm.mem_iff.mpr member
    simp only [envelopeFields, List.forall_mem_cons] at members
    obtain ⟨algorithm, ciphertext', iv', tag', version, -⟩ := members
    rw [← property_eq_some distinct] at algorithm version ciphertext' iv' tag'
    have nonempty {bytes : List UInt8} {size : Nat} (sized : bytes.length = size + 1) : bytes ≠ [] := by
      rintro rfl
      cases sized
    simp only
    rw [if_pos (sorted_keys_iff.mpr keys), algorithm, version, ciphertext', iv', tag']
    simp only [and_self, if_true]
    rw [decodeCanonicalBase64_eq_ok.mpr ⟨rfl, filled, by simp⟩, decodeCanonicalBase64_eq_ok.mpr ⟨rfl, nonempty sized, by simp [sized]⟩,
      decodeCanonicalBase64_eq_ok.mpr ⟨rfl, nonempty sized', by simp [sized']⟩]
    rfl

def continuation (byte : UInt8) : Option (Nat × UInt8 × UInt8) :=
  if 0xC2 ≤ byte ∧ byte ≤ 0xDF then some (1, 0x80, 0xBF)
  else if byte = 0xE0 then some (2, 0xA0, 0xBF)
  else if byte = 0xED then some (2, 0x80, 0x9F)
  else if 0xE1 ≤ byte ∧ byte ≤ 0xEF then some (2, 0x80, 0xBF)
  else if byte = 0xF0 then some (3, 0x90, 0xBF)
  else if 0xF1 ≤ byte ∧ byte ≤ 0xF3 then some (3, 0x80, 0xBF)
  else if byte = 0xF4 then some (3, 0x80, 0x8F)
  else none

def following : Nat → UInt8 → UInt8 → List UInt8 → Nat
  | count + 1, low, high, byte :: rest => if low ≤ byte ∧ byte ≤ high then following count 0x80 0xBF rest + 1 else 0
  | _, _, _, _ => 0

def replaced : Nat → List UInt8 → List Char
  | fuel + 1, byte :: rest =>
    match continuation byte with
    | none => (if byte < 0x80 then Char.ofNat byte.toNat else '\uFFFD') :: replaced fuel rest
    | some (count, low, high) =>
      let taken := following count low high rest
      let char := if taken = count then ((byte :: rest.take count).toByteArray.utf8Decode?.bind (·[0]?)).getD '\uFFFD' else '\uFFFD'
      char :: replaced fuel (rest.drop taken)
  | _, _ => []

/-- `toString('utf8')` -/
def textOfBytes (bytes : List UInt8) : List Char :=
  match bytes.toByteArray.utf8Decode? with
  | some text => text.toList
  | none => replaced bytes.length bytes

theorem textOfBytes_utf8 (text : List Char) : textOfBytes (utf8 text) = text := by
  rw [textOfBytes, utf8Decode?_utf8]

example : replaced 6 [0x61, 0xE2, 0x82, 0xC3, 0xA9, 0xFF] = ['a', '\uFFFD', 'é', '\uFFFD'] := by decide +kernel

def aadJson (context : X402ResultCryptoContext) : HostJson :=
  .object [(name "attemptId", .string context.attemptId), (name "connectionId", .string context.connectionId),
    (name "orgId", .string context.orgId), (name "version", .number VERSION)]

def aad (context : X402ResultCryptoContext) : List UInt8 := utf8 (aadJson context).text

/-- What `randomBytes(IV_BYTES)` gives -/
abbrev X402ResultIv := { bytes : List UInt8 // bytes.length = IV_BYTES }

section

variable (box : SealedBox TAG_BYTES) (key : X402ResultKey)

def decrypt (context : X402ResultCryptoContext) (input : HostJson) : Except String HostJson :=
  match validateX402ResultEnvelope input with
  | .error _ => .error "x402_result_decryption_failed"
  | .ok encrypted =>
    match (box.decrypt key.1 (bytesOfBase64 encrypted.iv) (aad context) (bytesOfBase64 encrypted.ciphertext)
        (bytesOfBase64 encrypted.tag)).bind fun plaintext => HostJson.parse (textOfBytes plaintext) with
    | none => .error "x402_result_decryption_failed"
    | some value => .ok value

def encrypt (iv : X402ResultIv) (context : X402ResultCryptoContext) (value : HostJson) : Except String X402ResultEnvelope :=
  let sealed := box.encrypt key.1 iv.1 (aad context) (utf8 value.text)
  validateX402ResultEnvelope (X402ResultEnvelope.ofBytes sealed.1 iv.1 sealed.2).toJson

end

variable {box : SealedBox TAG_BYTES} {key : X402ResultKey} {iv : X402ResultIv} {context context' : X402ResultCryptoContext}
variable {input : HostJson} {envelope : X402ResultEnvelope}

theorem aadKeys_nodup : ["attemptId", "connectionId", "orgId", "version"].map name |>.Nodup := by decide +kernel

theorem aadJson_plain (context : X402ResultCryptoContext) : (aadJson context).Plain := by
  refine HostJson.plain_object.mpr ⟨aadKeys_nodup, ?_⟩
  simp only [List.forall_mem_cons]
  exact ⟨trivial, trivial, trivial, trivial, List.forall_mem_nil _⟩

theorem aad_injective : Function.Injective aad := by
  intro context context' same
  have read := HostJson.parse_text (aadJson_plain context)
  rw [utf8_injective same, HostJson.parse_text (aadJson_plain context')] at read
  obtain ⟨attemptId, connectionId, orgId⟩ := context
  obtain ⟨attemptId', connectionId', orgId'⟩ := context'
  simpa [aadJson, eq_comm] using read

/-- The envelope that the key makes for the context from a text that is read as the value -/
def SealedFor (box : SealedBox TAG_BYTES) (key : X402ResultKey) (context : X402ResultCryptoContext)
    (input value : HostJson) : Prop :=
  ∃ (iv : X402ResultIv) (plaintext : List UInt8) (fields : HostFields),
    plaintext ≠ [] ∧ HostJson.parse (textOfBytes plaintext) = some value ∧ input = .object fields ∧
      fields.Perm (envelopeFields (box.encrypt key.1 iv.1 (aad context) plaintext).1 iv.1
        (box.encrypt key.1 iv.1 (aad context) plaintext).2)

theorem decrypt_eq_ok : decrypt box key context input = .ok value ↔ SealedFor box key context input value := by
  unfold decrypt
  constructor
  · intro opened
    split at opened
    · cases opened
    · rename_i encrypted valid
      split at opened
      · cases opened
      · rename_i read
        obtain rfl := Except.ok.inj opened
        obtain ⟨plaintext, opens, parsed⟩ := Option.bind_eq_some_iff.mp read
        obtain ⟨ciphertext, iv, tag, fields, rfl, perm, filled, sized, -, rfl⟩ := validateX402ResultEnvelope_eq_ok.mp valid
        simp only [X402ResultEnvelope.ofBytes, bytesOfBase64_base64Units] at opens
        have sealed := SealedBox.decrypt_eq_some.mp opens
        refine ⟨⟨iv, sized⟩, plaintext, fields, fun empty => filled ?_, parsed, rfl, by rw [sealed]; exact perm⟩
        have length : (box.encrypt key.1 iv (aad context) plaintext).1.length = plaintext.length := SealedBox.length_encrypt
        rw [sealed, empty] at length
        exact List.length_eq_zero_iff.mp length
  · rintro ⟨iv, plaintext, fields, filled, parsed, rfl, perm⟩
    have some : (box.encrypt key.1 iv.1 (aad context) plaintext).1 ≠ [] := by
      rw [← List.length_pos_iff, SealedBox.length_encrypt]
      exact List.length_pos_iff.mpr filled
    have valid := validateX402ResultEnvelope_eq_ok.mpr ⟨_, _, _, fields, rfl, perm, some, iv.2, box.length_tag .., rfl⟩
    simp only [valid, X402ResultEnvelope.ofBytes, bytesOfBase64_base64Units]
    rw [SealedBox.decrypt_own, Option.bind_some, parsed]

theorem decrypt_error {message : String} (refused : decrypt box key context input = .error message) :
    message = "x402_result_decryption_failed" := by
  unfold decrypt at refused
  split at refused
  · exact (Except.error.inj refused).symm
  · split at refused
    · exact (Except.error.inj refused).symm
    · cases refused

/-- What was sealed for the context opens, and everything else is refused with one message. -/
theorem sealed_result_authentic :
    (∀ value, decrypt box key context input = .ok value ↔ SealedFor box key context input value) ∧
      ∀ message, decrypt box key context input = .error message ↔
        message = "x402_result_decryption_failed" ∧ ∀ value, ¬SealedFor box key context input value := by
  refine ⟨fun value => decrypt_eq_ok, fun message => ⟨fun refused => ⟨decrypt_error refused, fun value sealed => ?_⟩, ?_⟩⟩
  · rw [decrypt_eq_ok.mpr sealed] at refused
    cases refused
  · rintro ⟨rfl, unsealed⟩
    cases outcome : decrypt box key context input with
    | ok value => exact (unsealed value (decrypt_eq_ok.mp outcome)).elim
    | error message => rw [decrypt_error outcome]

theorem validate_envelope {plaintext : List UInt8} (filled : plaintext ≠ []) : validateX402ResultEnvelope
    (X402ResultEnvelope.ofBytes (box.encrypt key.1 iv.1 (aad context) plaintext).1 iv.1
      (box.encrypt key.1 iv.1 (aad context) plaintext).2).toJson =
    .ok (.ofBytes (box.encrypt key.1 iv.1 (aad context) plaintext).1 iv.1 (box.encrypt key.1 iv.1 (aad context) plaintext).2) := by
  refine validateX402ResultEnvelope_eq_ok.mpr ⟨_, _, _, _, rfl, .refl _, ?_, iv.2, ?_, rfl⟩
  · rw [← List.length_pos_iff, SealedBox.length_encrypt]
    exact List.length_pos_iff.mpr filled
  · exact box.length_tag ..

/-- A stored result opens for the attempt, the connection and the organization it was sealed for, and for others only where their
tags agree. -/
theorem sealed_result_opens (box : SealedBox TAG_BYTES) (key : X402ResultKey) (iv : X402ResultIv)
    (context : X402ResultCryptoContext)
    (value : HostValue) : ∃ envelope, encrypt box key iv context value.value = .ok envelope ∧
      decrypt box key context envelope.toJson = .ok value.value ∧
      ∀ context', context' ≠ context → aad context' ≠ aad context ∧
        decrypt box key context' envelope.toJson =
          if box.tag key.1 iv.1 (aad context') (bytesOfBase64 envelope.ciphertext) = bytesOfBase64 envelope.tag
          then .ok value.value else .error "x402_result_decryption_failed" := by
  have filled : utf8 value.value.text ≠ [] := by
    intro empty
    obtain ⟨c, cs, text, -⟩ := HostJson.text_head value.value
    have none : value.value.text = [] := utf8_injective empty
    rw [text] at none
    cases none
  have valid := @validate_envelope box key iv context _ filled
  have opens (other : X402ResultCryptoContext) : decrypt box key other (X402ResultEnvelope.ofBytes
      (box.encrypt key.1 iv.1 (aad context) (utf8 value.value.text)).1 iv.1
      (box.encrypt key.1 iv.1 (aad context) (utf8 value.value.text)).2).toJson =
        if box.tag key.1 iv.1 (aad other) (box.stream key.1 iv.1 (utf8 value.value.text)) =
          box.tag key.1 iv.1 (aad context) (box.stream key.1 iv.1 (utf8 value.value.text))
        then .ok value.value else .error "x402_result_decryption_failed" := by
    unfold decrypt
    rw [valid]
    simp only [X402ResultEnvelope.ofBytes, bytesOfBase64_base64Units, SealedBox.decrypt_encrypt]
    by_cases agree : box.tag key.1 iv.1 (aad other) (box.stream key.1 iv.1 (utf8 value.value.text)) =
      box.tag key.1 iv.1 (aad context) (box.stream key.1 iv.1 (utf8 value.value.text))
    · simp [agree, textOfBytes_utf8, HostJson.parse_text value.plain]
    · simp [agree]
  refine ⟨_, valid, (opens context).trans (if_pos rfl), fun context' other => ⟨fun same => other (aad_injective same), ?_⟩⟩
  rw [opens]
  simp [X402ResultEnvelope.ofBytes, SealedBox.encrypt]

def countedKey : X402ResultKey := ⟨(List.range 32).map UInt8.ofNat, by decide⟩

def countedIv : X402ResultIv := ⟨(List.range 12).map UInt8.ofNat, by decide⟩

def countedContext (orgId : String) : X402ResultCryptoContext := ⟨name "a", name "c", name orgId⟩

/-- AES-GCM under the counted key and IV, of texts of up to six bytes; the tags are those of `[true]`. -/
def countedBox : SealedBox TAG_BYTES where
  stream _ _ text := text.mapIdx fun i byte => byte ^^^ [71, 2, 214, 27, 197, 229].getD i 0
  tag _ _ data _ :=
    if data = aad (countedContext "o") then [47, 164, 0, 212, 22, 171, 74, 249, 72, 190, 188, 112, 132, 229, 57, 70]
    else [212, 155, 2, 200, 236, 29, 117, 228, 219, 109, 86, 16, 10, 205, 198, 3]
  stream_stream _ _ text := by
    rw [List.mapIdx_mapIdx]
    have twice (i : Nat) : (fun byte : UInt8 => byte ^^^ [71, 2, 214, 27, 197, 229].getD i 0) ∘
        (fun byte : UInt8 => byte ^^^ [71, 2, 214, 27, 197, 229].getD i 0) = id := by
      funext byte
      simp only [Function.comp_apply, UInt8.xor_assoc, UInt8.xor_self, UInt8.xor_zero, id]
    exact List.mapIdx_eq_iff.mpr fun i => by rw [twice, Option.map_id_fun, id]
  length_stream _ _ _ := List.length_mapIdx
  length_tag _ _ _ _ := by split <;> rfl

theorem sealed_result_opens_counted : ∃ envelope,
    encrypt countedBox countedKey countedIv (countedContext "o") (.array [.bool true]) = .ok envelope ∧
    decrypt countedBox countedKey (countedContext "o") envelope.toJson = .ok (.array [.bool true]) ∧
    decrypt countedBox countedKey (countedContext "p") envelope.toJson = .error "x402_result_decryption_failed" := by
  obtain ⟨envelope, sealed, opens, others⟩ := sealed_result_opens countedBox countedKey countedIv (countedContext "o")
    ⟨.array [.bool true], HostJson.plain_array.mpr (by simp [HostJson.Plain])⟩
  refine ⟨envelope, sealed, opens, ?_⟩
  have elsewhere : countedContext "p" ≠ countedContext "o" := by
    intro same
    have orgs : name "p" = name "o" := congrArg X402ResultCryptoContext.orgId same
    revert orgs
    decide +kernel
  obtain ⟨different, refused⟩ := others _ elsewhere
  have filled : utf8 (HostJson.array [.bool true]).text ≠ [] := by decide +kernel
  obtain rfl := Except.ok.inj (sealed.symm.trans (validate_envelope filled))
  rw [refused, if_neg]
  simp only [X402ResultEnvelope.ofBytes, bytesOfBase64_base64Units, SealedBox.encrypt, countedBox, if_neg different]
  decide

end AgentOps.Payments
