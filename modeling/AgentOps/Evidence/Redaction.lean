import AgentOps.Lib.JsonText
import AgentOps.Lib.Text

namespace AgentOps.Evidence
open Lib

/-! # Redaction of audit payloads -/

def REDACTED : String := "[REDACTED]"

def sensitiveKeyFragments : List String :=
  ["apikey", "authorization", "bearer", "circleapikey", "cookie", "credential", "password", "privatekey", "providerkey",
    "secret", "session", "signature", "token", "xpayment"]

def isWordChar (c : Char) : Bool := c.isAlphanum || c = '_'

def after? (start cs : List Char) : Option (List Char) :=
  if start.isPrefixOf cs then some (cs.drop start.length) else none

def startsIn (allowed : Char → Bool) : List Char → Bool
  | [] => false
  | c :: _ => allowed c

/-- `bearer\s+[a-z0-9._~+/=-]+` -/
def bearerHere (cs : List Char) : Bool :=
  match after? "bearer".toList cs with
  | none => false
  | some rest => startsIn isSpace rest &&
    startsIn (fun c => c.isAlphanum || c ∈ ['.', '_', '~', '+', '/', '=', '-']) (rest.dropWhile isSpace)

/-- `sk_(live|test|prod|dev)_[a-z0-9_]+` -/
def secretKeyHere (cs : List Char) : Bool :=
  ["sk_live_", "sk_test_", "sk_prod_", "sk_dev_"].any fun start =>
    match after? start.toList cs with
    | none => false
    | some rest => startsIn isWordChar rest

def sessionHere (cs : List Char) : Bool := "agentops_session=".toList.isPrefixOf cs

/-- `x402[_:=.-]?[a-z0-9+/=-]*` -/
def x402Here (cs : List Char) : Bool := "x402".toList.isPrefixOf cs

def sensitiveValuePatterns : List (List Char → Bool) := [bearerHere, secretKeyHere, sessionHere, x402Here]

/-- The pattern matches at the start of a word: each of the patterns begins with `\b` and a letter. -/
def matchesWord (pattern : List Char → Bool) (afterWord : Bool) : List Char → Bool
  | [] => false
  | c :: cs => !afterWord && pattern (c :: cs) || matchesWord pattern (isWordChar c) cs

def isSensitiveString (value : String) : Bool :=
  sensitiveValuePatterns.any fun pattern => matchesWord pattern false (value.toList.map Char.toLower)

/-- `toLowerCase`, as far as it gives a letter of the ASCII alphabet -/
def lowerKeyChar (c : Char) : Char :=
  if c = '\u212A' then 'k' else if c = '\u0130' then 'i' else c.toLower

def normalizeKey (key : String) : List Char :=
  (key.toList.map lowerKeyChar).filter fun c => c.isLower || c.isDigit

def isSensitiveKey (key : String) : Bool :=
  sensitiveKeyFragments.any fun fragment => containsChars fragment.toList (normalizeKey key)

/-- What `redactValue` returns. An object that gets another object as its prototype is not a plain one any more. -/
structure RedactionResult where
  value : Json
  redacted : Bool
  plain : Bool

def redactedValue : RedactionResult := ⟨.string REDACTED, true, true⟩

def isPrimitive : Json → Bool
  | .array _ | .object _ => false
  | _ => true

structure ItemsResult where
  items : List Json
  redacted : Bool
  plain : Bool

structure FieldsResult where
  fields : JsonObject
  redacted : Bool
  plain : Bool

mutual

/-- `redactValue` of a value that no sensitive key names -/
def redactOpen : Json → RedactionResult
  | .string value => if isSensitiveString value then redactedValue else ⟨.string value, false, true⟩
  | .array items =>
    let result := redactItems items
    ⟨.array result.items, result.redacted, result.plain⟩
  | .object fields =>
    let result := redactFields fields
    ⟨.object result.fields, result.redacted, result.plain⟩
  | value => ⟨value, false, true⟩

def redactItems : List Json → ItemsResult
  | [] => ⟨[], false, true⟩
  | item :: items =>
    let result := redactOpen item
    let rest := redactItems items
    ⟨result.value :: rest.items, result.redacted || rest.redacted, result.plain && rest.plain⟩

def redactFields : JsonObject → FieldsResult
  | [] => ⟨[], false, true⟩
  | (key, item) :: fields =>
    let result := if isSensitiveKey key then redactedValue else redactOpen item
    let rest := redactFields fields
    -- an assignment to `next['__proto__']` sets the prototype, and is ignored for a primitive value
    if key = "__proto__" then
      ⟨rest.fields, result.redacted || rest.redacted, result.plain && isPrimitive result.value && rest.plain⟩
    else ⟨(key, result.value) :: rest.fields, result.redacted || rest.redacted, result.plain && rest.plain⟩

end

def redactAuditPayload (value : Json) : RedactionResult := redactOpen value

def isRedacted : Json → Bool
  | .string value => value = REDACTED
  | _ => false

def cleanHere : Json → Bool
  | .string value => !isSensitiveString value
  | .object fields => fields.all fun entry =>
    !isSensitiveString entry.1 && (!isSensitiveKey entry.1 || isRedacted entry.2)
  | _ => true

def Clean (value : Json) : Prop := value.all cleanHere = true

instance (value : Json) : Decidable (Clean value) := inferInstanceAs (Decidable (_ = true))

mutual

def openKeys : Json → List String
  | .array items => openItemKeys items
  | .object fields => openFieldKeys fields
  | _ => []

def openItemKeys : List Json → List String
  | [] => []
  | item :: items => openKeys item ++ openItemKeys items

def openFieldKeys : JsonObject → List String
  | [] => []
  | (key, item) :: fields =>
    if key = "__proto__" then openFieldKeys fields
    else key :: ((if isSensitiveKey key then [] else openKeys item) ++ openFieldKeys fields)

end

theorem clean_array {items : List Json} : Clean (.array items) ↔ ∀ item ∈ items, Clean item := by
  simp [Clean, Json.all_array_iff, cleanHere]

theorem clean_object {fields : JsonObject} : Clean (.object fields) ↔ ∀ entry ∈ fields,
    isSensitiveString entry.1 = false ∧ (isSensitiveKey entry.1 = true → isRedacted entry.2 = true) ∧
      Clean entry.2 := by
  simp only [Clean, Json.all_object_iff, cleanHere, List.all_eq_true, ← forall₂_and]
  refine forall₂_congr fun entry _ => ?_
  rw [Bool.and_eq_true, Bool.not_eq_true', and_assoc]
  refine and_congr_right fun _ => and_congr_left fun _ => ?_
  cases isSensitiveKey entry.1 <;> simp

theorem clean_string {value : String} : Clean (.string value) ↔ isSensitiveString value = false := by
  simp [Clean, Json.all, cleanHere]

theorem redacted_clean : Clean (.string REDACTED) := by decide

def redactEntry (entry : String × Json) : String × Json :=
  (entry.1, if isSensitiveKey entry.1 then .string REDACTED else (redactOpen entry.2).value)

def isOwnKey (entry : String × Json) : Bool := entry.1 ≠ "__proto__"

theorem redactItems_items (items : List Json) :
    (redactItems items).items = items.map fun item => (redactOpen item).value := by
  induction items with
  | nil => rfl
  | cons item items ih => rw [redactItems, ih, List.map_cons]

theorem redactFields_fields (fields : JsonObject) :
    (redactFields fields).fields = (fields.filter isOwnKey).map redactEntry := by
  induction fields with
  | nil => rfl
  | cons entry fields ih =>
    obtain ⟨key, item⟩ := entry
    rw [redactFields]
    by_cases proto : key = "__proto__"
    · rw [if_pos proto, ih, List.filter_cons_of_neg (by simp [isOwnKey, proto])]
    · rw [if_neg proto, List.filter_cons_of_pos (by simp [isOwnKey, proto]), List.map_cons, ih, redactEntry]
      split <;> rfl

theorem redactOpen_array (items : List Json) :
    (redactOpen (.array items)).value = .array (items.map fun item => (redactOpen item).value) := by
  rw [redactOpen, redactItems_items]

theorem redactOpen_object (fields : JsonObject) :
    (redactOpen (.object fields)).value = .object ((fields.filter isOwnKey).map redactEntry) := by
  rw [redactOpen, redactFields_fields]

theorem mem_openKeys_array {key : String} {items : List Json} :
    key ∈ openKeys (.array items) ↔ ∃ item ∈ items, key ∈ openKeys item := by
  rw [openKeys]
  induction items with
  | nil => simp [openItemKeys]
  | cons item items ih => simp [openItemKeys, ih]

theorem mem_openKeys_object {key : String} {fields : JsonObject} : key ∈ openKeys (.object fields) ↔
    ∃ entry ∈ fields.filter isOwnKey, key = entry.1 ∨ isSensitiveKey entry.1 = false ∧ key ∈ openKeys entry.2 := by
  rw [openKeys]
  induction fields with
  | nil => simp [openFieldKeys]
  | cons entry fields ih =>
    obtain ⟨name, item⟩ := entry
    rw [openFieldKeys]
    by_cases proto : name = "__proto__"
    · rw [if_pos proto, List.filter_cons_of_neg (by simp [isOwnKey, proto]), ih]
    · rw [if_neg proto, List.filter_cons_of_pos (by simp [isOwnKey, proto]), List.mem_cons, List.mem_append, ih]
      cases sensitive : isSensitiveKey name <;> simp [sensitive, or_assoc]

theorem redactOpen_clean (value : Json) :
    Clean (redactOpen value).value ↔ ∀ key ∈ openKeys value, isSensitiveString key = false := by
  induction value using Json.ind with
  | string value =>
    rw [redactOpen]
    split
    · simp [openKeys, redactedValue, redacted_clean]
    · rename_i plain
      simp [openKeys, clean_string, plain]
  | array items ih =>
    rw [redactOpen_array, clean_array, List.forall_mem_map]
    simp only [mem_openKeys_array]
    constructor
    · rintro clean key ⟨item, member, inside⟩
      exact (ih item member).mp (clean item member) key inside
    · intro clean item member
      exact (ih item member).mpr fun key inside => clean key ⟨item, member, inside⟩
  | object fields ih =>
    rw [redactOpen_object, clean_object, List.forall_mem_map]
    simp only [mem_openKeys_object]
    constructor
    · rintro clean key ⟨entry, member, rfl | ⟨plain, inside⟩⟩
      · exact (clean entry member).1
      · have below := (clean entry member).2.2
        rw [redactEntry, if_neg (by simp [plain])] at below
        exact (ih entry (List.mem_of_mem_filter member)).mp below key inside
    · intro clean entry member
      refine ⟨clean entry.1 ⟨entry, member, .inl rfl⟩, ?_, ?_⟩
      · intro sensitive
        have replaced : (redactEntry entry).2 = .string REDACTED := if_pos sensitive
        rw [replaced]
        decide
      · by_cases sensitive : isSensitiveKey entry.1 = true
        · have replaced : (redactEntry entry).2 = .string REDACTED := if_pos sensitive
          rw [replaced]
          exact redacted_clean
        · have kept : (redactEntry entry).2 = (redactOpen entry.2).value := if_neg sensitive
          rw [kept]
          refine (ih entry (List.mem_of_mem_filter member)).mpr fun key inside => ?_
          exact clean key ⟨entry, member, .inr ⟨by simpa using sensitive, inside⟩⟩
  | null | bool | number =>
    simp [redactOpen, openKeys, Clean, Json.all, cleanHere]

theorem redactOpen_distinct {value : Json} (distinct : value.Distinct) : (redactOpen value).value.Distinct := by
  induction value using Json.ind with
  | string value =>
    rw [redactOpen]
    split <;> rfl
  | array items ih =>
    rw [Json.distinct_array] at distinct
    rw [redactOpen_array, Json.distinct_array, List.forall_mem_map]
    exact fun item member => ih item member (distinct item member)
  | object fields ih =>
    rw [Json.distinct_object] at distinct
    rw [redactOpen_object, Json.distinct_object, List.forall_mem_map, List.map_map]
    constructor
    · exact distinct.1.sublist (List.filter_sublist.map _)
    · intro entry member
      have stored := List.mem_of_mem_filter member
      rw [redactEntry]
      split
      · rfl
      · exact ih entry stored (distinct.2 entry stored)
  | null | bool | number => rfl

theorem redactOpen_numbers {value : Json} (numbers : value.Numbers) : (redactOpen value).value.Numbers := by
  induction value using Json.ind with
  | string value =>
    rw [redactOpen]
    split <;> rfl
  | array items ih =>
    rw [Json.numbers_array] at numbers
    rw [redactOpen_array, Json.numbers_array, List.forall_mem_map]
    exact fun item member => ih item member (numbers item member)
  | object fields ih =>
    rw [Json.numbers_object] at numbers
    rw [redactOpen_object, Json.numbers_object, List.forall_mem_map]
    intro entry member
    have stored := List.mem_of_mem_filter member
    rw [redactEntry]
    split
    · rfl
    · exact ih entry stored (numbers entry stored)
  | null | bool | number => exact numbers

end AgentOps.Evidence
