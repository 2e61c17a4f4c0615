import AgentOps.Evidence.Recording
import Mathlib.Data.List.ReduceOption

namespace AgentOps.Evidence
open Lib Identity

variable {host : Host} {parseJson : String → Option JsonData} {store store' : AuditStore} {row : AuditEventRow}

/-! # What reaches the audit store -/

def freeTexts (input : RecordAuditEventInput) : List String :=
  input.action :: input.eventType :: ([input.actor.id, input.reasonCode, input.resource.map AuditResource.id,
    input.resource.map AuditResource.type, input.relations.bind AuditRelations.agent,
    input.relations.bind AuditRelations.connection, input.relations.bind AuditRelations.policy,
    input.relations.bind AuditRelations.team, input.relations.bind AuditRelations.wallet,
    input.relations.bind AuditRelations.walletRef, input.requestId, input.source.bind AuditSource.ref,
    input.source.bind AuditSource.section_, input.source.bind AuditSource.system, input.refs.bind AuditRefs.approval,
    input.refs.bind AuditRefs.decision, input.refs.bind AuditRefs.policy].reduceOption ++ (classification input).tags)

/-- A text handed over for a `jsonb` column reads as a value without secrets, if it reads as one at all. -/
def CleanText (parseJson : String → Option JsonData) (value : JsonData) : Prop :=
  ∀ text parsed, value.value = .string text → parseJson text = some parsed → Clean parsed.value

/-- No secret is in the canonical body or in a JSON column of the row. -/
structure NoSecrets (row : AuditEventRow) : Prop where
  canonical_body : Clean row.canonical_body.value
  external_refs : Clean row.external_refs.value
  payload : Clean row.payload.value

structure SafeInput (parseJson : String → Option JsonData) (input : RecordAuditEventInput) : Prop where
  texts : ∀ text ∈ freeTexts input, isSensitiveString text = false
  keys : ∀ key ∈ openKeys input.payloadValue.value, isSensitiveString key = false
  refs : Clean input.externalRefsValue.value
  refsText : CleanText parseJson input.externalRefsValue
  payloadText : CleanText parseJson input.payloadColumn

theorem matchesWord_eq_false {pattern : List Char → Bool} {starts : Char → Bool} {cs : List Char}
    (starting : ∀ c rest, starts c = false → pattern (c :: rest) = false) (none_ : ∀ c ∈ cs, starts c = false)
    (afterWord : Bool) : matchesWord pattern afterWord cs = false := by
  induction cs generalizing afterWord with
  | nil => rfl
  | cons c cs ih =>
    rw [matchesWord, starting c cs (none_ c (by simp)), Bool.and_false, Bool.false_or]
    exact ih (fun c member => none_ c (List.mem_cons_of_mem _ member)) _

def startsSecret (c : Char) : Bool := c = 'b' || c = 's' || c = 'a' || c = 'x'

theorem isPrefixOf_eq_false {c d : Char} {start rest : List Char} (different : d ≠ c) :
    (d :: start).isPrefixOf (c :: rest) = false := by
  simp [List.isPrefixOf, different]

theorem pattern_eq_false {pattern : List Char → Bool} (sensitive : pattern ∈ sensitiveValuePatterns) (c : Char)
    (rest : List Char) (plain : startsSecret c = false) : pattern (c :: rest) = false := by
  simp only [startsSecret, Bool.or_eq_false_iff, decide_eq_false_iff_not] at plain
  obtain ⟨⟨⟨b, s⟩, a⟩, x⟩ := plain
  simp only [sensitiveValuePatterns, List.mem_cons, List.not_mem_nil, or_false] at sensitive
  rcases sensitive with rfl | rfl | rfl | rfl
  · have none_ : after? "bearer".toList (c :: rest) = none := if_neg (by simp [Ne.symm b])
    rw [bearerHere, none_]
  · have none_ (start : List Char) : after? ('s' :: start) (c :: rest) = none := if_neg (by simp [Ne.symm s])
    have live : after? "sk_live_".toList (c :: rest) = none := none_ _
    have test : after? "sk_test_".toList (c :: rest) = none := none_ _
    have prod : after? "sk_prod_".toList (c :: rest) = none := none_ _
    have dev : after? "sk_dev_".toList (c :: rest) = none := none_ _
    simp only [secretKeyHere, List.any_cons, List.any_nil, live, test, prod, dev, Bool.or_false]
  · exact isPrefixOf_eq_false (Ne.symm a)
  · exact isPrefixOf_eq_false (Ne.symm x)

theorem isSensitiveString_eq_false {value : String}
    (plain : ∀ c ∈ value.toList, startsSecret c.toLower = false) : isSensitiveString value = false := by
  rw [isSensitiveString, List.any_eq_false]
  intro pattern sensitive
  rw [matchesWord_eq_false (pattern_eq_false sensitive) _ false]
  · simp
  · rw [List.forall_mem_map]
    exact plain

theorem isDigit_padded {width n : Nat} {c : Char} (member : c ∈ Date.padded width n) : c.isDigit = true := by
  rw [Date.padded, List.mem_append] at member
  rcases member with zeros | digits
  · rw [List.eq_of_mem_replicate zeros]
    rfl
  · rw [Nat.toList_repr] at digits
    exact Nat.isDigit_of_mem_toDigits (by decide) (by decide) digits

theorem startsSecret_digit {c : Char} (digit : c.isDigit = true) : startsSecret c.toLower = false := by
  have small : ¬c.val ≥ 'A'.val := by
    simp only [Char.isDigit, Bool.and_eq_true, decide_eq_true_eq] at digit
    exact fun letter => absurd (UInt32.le_trans letter digit.2) (by decide)
  have lower : c.toLower = c := dif_neg fun letter => small letter.1
  have different (letter : Char) (other : letter.isDigit = false) : c ≠ letter := by
    rintro rfl
    rw [digit] at other
    cases other
  rw [lower]
  simp [startsSecret, different]

theorem isSensitiveString_toISOString (date : Date) : isSensitiveString (Date.toISOString date) = false := by
  refine isSensitiveString_eq_false fun c member => ?_
  have digits {width n : Nat} (inside : c ∈ Date.padded width n) : startsSecret c.toLower = false :=
    startsSecret_digit (isDigit_padded inside)
  have mark (letter : Char) (plain : startsSecret letter.toLower = false) (same : c = letter) :
      startsSecret c.toLower = false := by
    rw [same]
    exact plain
  simp only [Date.toISOString, String.toList_ofList, List.mem_append, List.mem_cons, List.not_mem_nil, or_false, or_assoc] at member
  rcases member with year | dash | month | dash | day | t | hours | colon | minutes | colon | seconds | dot | ms | z
  · split at year
    · exact digits year
    · rcases List.mem_cons.mp year with plus | inside
      · exact mark '+' (by decide) plus
      · exact digits inside
  · exact mark '-' (by decide) dash
  · exact digits month
  · exact mark '-' (by decide) dash
  · exact digits day
  · exact mark 'T' (by decide) t
  · exact digits hours
  · exact mark ':' (by decide) colon
  · exact digits minutes
  · exact mark ':' (by decide) colon
  · exact digits seconds
  · exact mark '.' (by decide) dot
  · exact digits ms
  · exact mark 'Z' (by decide) z

theorem clean_textOrNull {text : Option String} :
    Clean (textOrNull text) ↔ ∀ value ∈ text, isSensitiveString value = false := by
  cases text with
  | none => simp [textOrNull, Clean, Json.all, cleanHere]
  | some value => simp [textOrNull, clean_string]

theorem canonicalNames_plain : ∀ name ∈ canonicalNames, isSensitiveString name = false ∧ isSensitiveKey name = false := by
  decide

theorem clean_fields {input : RecordAuditEventInput} :
    Clean (buildCanonicalBody input).value ↔ ∀ entry ∈ canonicalFields input, Clean entry.2 := by
  show Clean (.object (canonicalFields input)) ↔ _
  rw [clean_object]
  refine forall₂_congr fun entry member => ?_
  obtain ⟨text, key⟩ := canonicalNames_plain entry.1 (canonicalFields_names input ▸ List.mem_map_of_mem member)
  simp [text, key]

theorem enum_texts_clean :
    (∀ actorType : AuditActorType, Clean (.string actorType.text)) ∧
    (∀ outcome : AuditOutcome, Clean (.string outcome.text)) ∧
    (∀ retentionClass : AuditRetentionClass, Clean (.string retentionClass.text)) ∧
    (∀ eventDomain : AuditEventDomain, Clean (.string eventDomain.text)) ∧
    (∀ eventCategory : AuditEventCategory, Clean (.string eventCategory.text)) ∧
    (∀ severity : AuditSeverity, Clean (.string severity.text)) ∧
    (∀ redactionState : RedactionState, Clean (.string redactionState.text)) := by
  refine ⟨?_, ?_, ?_, ?_, ?_, ?_, ?_⟩ <;> intro value <;> cases value <;> decide

theorem forall_mem_reduceOption {texts : List (Option String)} {p : String → Prop} :
    (∀ text ∈ texts.reduceOption, p text) ↔ ∀ text ∈ texts, ∀ value ∈ text, p value := by
  simp only [List.reduceOption_mem_iff, Option.mem_def]
  constructor
  · rintro all text member value rfl
    exact all value member
  · intro all value member
    exact all _ member value rfl

theorem canonical_clean {input : RecordAuditEventInput} : Clean (buildCanonicalBody input).value ↔
    (∀ text ∈ freeTexts input, isSensitiveString text = false) ∧
      (∀ key ∈ openKeys input.payloadValue.value, isSensitiveString key = false) ∧ Clean input.externalRefsValue.value := by
  obtain ⟨actorType, outcome, retentionClass, eventDomain, eventCategory, severity, redactionState⟩ := enum_texts_clean
  have payload : Clean input.redactedPayload.value ↔ _ := redactOpen_clean input.payloadValue.value
  have time : Clean (textOrNull (input.occurredAt.map Date.toISOString)) := by
    rw [clean_textOrNull]
    intro value member
    obtain ⟨date, -, rfl⟩ := Option.map_eq_some_iff.mp member
    exact isSensitiveString_toISOString date
  have tags : Clean (.array ((classification input).tags.map .string)) ↔
      ∀ text ∈ (classification input).tags, isSensitiveString text = false := by
    rw [clean_array, List.forall_mem_map]
    simp only [clean_string]
  rw [clean_fields, ← payload]
  simp only [canonicalFields, List.forall_mem_cons, List.not_mem_nil, actorType, outcome, retentionClass, eventDomain,
    eventCategory, severity, redactionState, time, tags, clean_string, true_and]
  simp only [freeTexts, List.forall_mem_cons, List.forall_mem_append, forall_mem_reduceOption, ← clean_textOrNull,
    List.not_mem_nil]
  tauto

theorem column_clean {value stored : JsonData} (column : jsonbParameter parseJson value = some stored)
    (clean : Clean value.value) : Clean stored.value ↔ CleanText parseJson value := by
  unfold jsonbParameter at column
  unfold CleanText
  split at column
  · rename_i text located
    rw [located]
    constructor
    · rintro reads other parsed same read
      obtain rfl := Json.string.inj same
      obtain rfl := Option.some.inj (column.symm.trans read)
      exact reads
    · exact fun reads => reads text stored rfl column
  · rename_i located
    obtain rfl := Option.some.inj column
    rw [located]
    constructor
    · rintro _ text parsed same
      cases same
    · exact fun _ => (by decide : Clean emptyObject.value)
  · cases column
  · rename_i notText _ _
    obtain rfl := Option.some.inj column
    exact ⟨fun _ text parsed same => (notText text same).elim, fun _ => clean⟩

theorem insertEvent_columns {events events' : AuditEvents} {head : AuditEventHead} {now : Time} {eventId : String}
    {input : RecordAuditEventInput} {canonicalBodyHash : Hash}
    (ok : insertEvent host parseJson events head now eventId input canonicalBodyHash = .ok (events', row)) :
    row.canonical_body = buildCanonicalBody input ∧
      jsonbParameter parseJson input.externalRefsValue = some row.external_refs ∧
      jsonbParameter parseJson input.payloadColumn = some row.payload := by
  unfold insertEvent at ok
  split at ok
  · rename_i externalRefs payload refs column
    simp only at ok
    split_ifs at ok
    split at ok
    · cases ok
    simp only [Except.ok.injEq, Prod.mk.injEq] at ok
    obtain ⟨-, rfl⟩ := ok
    exact ⟨rfl, refs, column⟩
  · cases ok

theorem noSecrets_iff {input : RecordAuditEventInput} (body : row.canonical_body = buildCanonicalBody input)
    (refs : jsonbParameter parseJson input.externalRefsValue = some row.external_refs)
    (column : jsonbParameter parseJson input.payloadColumn = some row.payload) :
    NoSecrets row ↔ SafeInput parseJson input := by
  have payload : Clean input.payloadColumn.value ↔ _ := redactOpen_clean input.payloadValue.value
  constructor
  · rintro ⟨canonical, refsClean, payloadClean⟩
    rw [body, canonical_clean] at canonical
    obtain ⟨texts, keys, external⟩ := canonical
    exact ⟨texts, keys, external, (column_clean refs external).mp refsClean,
      (column_clean column (payload.mpr keys)).mp payloadClean⟩
  · rintro ⟨texts, keys, external, refsText, payloadText⟩
    refine ⟨?_, (column_clean refs external).mpr refsText, (column_clean column (payload.mpr keys)).mpr payloadText⟩
    rw [body, canonical_clean]
    exact ⟨texts, keys, external⟩

/-- What a call adds to the store has a secret just when the caller gives one outside the values of the payload. -/
theorem recorded_noSecrets {now : Time} {eventId : String} {input : RecordAuditEventInput}
    (ok : recordAuditEvent host parseJson store now eventId input = .ok (store', row)) :
    ∀ added ∈ store'.events, added ∉ store.events → (NoSecrets added ↔ SafeInput parseJson input) := by
  intro added member fresh
  obtain ⟨canonicalBodyHash, hashed, ⟨rfl, -⟩ | appended⟩ := recordAuditEvent_ok ok
  · exact (fresh member).elim
  unfold appendEvent at appended
  simp only at appended
  split at appended
  · cases appended
  rename_i head found
  split at appended
  · cases appended
  rename_i events row' inserted
  simp only [Except.ok.injEq, Prod.mk.injEq] at appended
  obtain ⟨rfl, rfl⟩ := appended
  rcases (Table.mem_insert? (insertEvent_ok inserted).inserted).mp member with rfl | earlier
  · obtain ⟨body, refs, column⟩ := insertEvent_columns inserted
    exact noSecrets_iff body refs column
  · exact (fresh earlier).elim

theorem exists_ok {ε α : Type} {result : Except ε α} (ok : result.isOk = true) : ∃ value, result = .ok value := by
  cases result with
  | error failure => cases ok
  | ok value => exact ⟨value, rfl⟩

namespace Settled

def input : RecordAuditEventInput :=
  { Accents.input emptyObject with eventType := "payment.x402.settled", action := "payment.x402.settled" }

end Settled

/-- The name of an action has the form of a payment header. -/
theorem settled_action_stored : ∃ store row,
    recordAuditEvent Accents.collation (fun _ => none) .empty 0 "aud" Settled.input = .ok (store, row) ∧
      row ∈ store.events ∧ ¬NoSecrets row := by
  obtain ⟨⟨store, row⟩, ok⟩ : ∃ result,
      recordAuditEvent Accents.collation (fun _ => none) .empty 0 "aud" Settled.input = .ok result :=
    exists_ok (by decide)
  obtain ⟨canonicalBodyHash, hashed, ⟨rfl, missing, -⟩ | appended⟩ := recordAuditEvent_ok ok
  · cases missing
  obtain ⟨head, events, found, inserted, rfl⟩ := appendEvent_ok appended
  obtain ⟨now, eventId, externalRefs, payload, made⟩ := inserted.row
  refine ⟨_, row, ok, (Table.mem_insert? inserted.inserted).mpr (.inl rfl), ?_⟩
  rintro ⟨canonical, -, -⟩
  rw [made] at canonical
  have plain := (canonical_clean.mp canonical).1 "payment.x402.settled" (by simp [freeTexts, Settled.input])
  revert plain
  decide

namespace Redacted

def payload : JsonData where
  value := .object [("password", .string "hunter2"), ("note", .string "paid with sk_live_51h"), ("count", .number "2")]
  distinct := by decide
  numbers := rfl

def input : RecordAuditEventInput := Accents.input payload

end Redacted

/-- The values of the payload are redacted, and nothing else was a secret. -/
theorem payload_redacted : ¬Clean Redacted.payload.value ∧ ∃ store row,
    recordAuditEvent Accents.collation (fun _ => none) .empty 0 "aud" Redacted.input = .ok (store, row) ∧
      row ∈ store.events ∧ NoSecrets row := by
  refine ⟨by decide, ?_⟩
  obtain ⟨⟨store, row⟩, ok⟩ : ∃ result,
      recordAuditEvent Accents.collation (fun _ => none) .empty 0 "aud" Redacted.input = .ok result :=
    exists_ok (by decide)
  obtain ⟨canonicalBodyHash, hashed, ⟨rfl, missing, -⟩ | appended⟩ := recordAuditEvent_ok ok
  · cases missing
  obtain ⟨head, events, found, inserted, rfl⟩ := appendEvent_ok appended
  have member : row ∈ events := (Table.mem_insert? inserted.inserted).mpr (.inl rfl)
  refine ⟨_, row, ok, member, (recorded_noSecrets ok row member (by simp [AuditStore.empty])).mpr ?_⟩
  refine ⟨by decide, by decide, by decide, ?_, ?_⟩
  · intro text parsed _ read
    cases read
  · intro text parsed _ read
    cases read

end AgentOps.Evidence
