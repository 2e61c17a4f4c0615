import AgentOps.Evidence.CanonicalJson
import AgentOps.Evidence.Redaction
import AgentOps.Identity.Errors
import AgentOps.Lib.Table

namespace AgentOps.Evidence
open Lib Identity

/-! # What an audit event says -/

inductive AuditActorType where
  | user | agent | connection | system | service | key | unknown
  deriving DecidableEq

inductive AuditOutcome where
  | success | denied | error | pending
  deriving DecidableEq

inductive AuditRetentionClass where
  | standard | payment | security | legal_hold
  deriving DecidableEq

inductive AuditEventDomain where
  | identity | credential | policy | wallet | payment | treasury | system
  deriving DecidableEq

inductive AuditEventCategory where
  | configuration | policy | runtime | financial | security | compliance
  deriving DecidableEq

inductive AuditSeverity where
  | info | warning | critical
  deriving DecidableEq

inductive RedactionState where
  | none | redacted
  deriving DecidableEq

def AuditActorType.text : AuditActorType → String
  | .user => "user" | .agent => "agent" | .connection => "connection" | .system => "system" | .service => "service"
  | .key => "key" | .unknown => "unknown"

def AuditOutcome.text : AuditOutcome → String
  | .success => "success" | .denied => "denied" | .error => "error" | .pending => "pending"

def AuditRetentionClass.text : AuditRetentionClass → String
  | .standard => "standard" | .payment => "payment" | .security => "security" | .legal_hold => "legal_hold"

def AuditEventDomain.text : AuditEventDomain → String
  | .identity => "identity" | .credential => "credential" | .policy => "policy" | .wallet => "wallet"
  | .payment => "payment" | .treasury => "treasury" | .system => "system"

def AuditEventCategory.text : AuditEventCategory → String
  | .configuration => "configuration" | .policy => "policy" | .runtime => "runtime" | .financial => "financial"
  | .security => "security" | .compliance => "compliance"

def AuditSeverity.text : AuditSeverity → String
  | .info => "info" | .warning => "warning" | .critical => "critical"

def RedactionState.text : RedactionState → String
  | .none => "none" | .redacted => "redacted"

abbrev Date := Nat

namespace Date

def padded (width n : Nat) : List Char :=
  let digits := (Nat.repr n).toList
  List.replicate (width - digits.length) '0' ++ digits

def civil (day : Nat) : Nat × Nat × Nat :=
  let z := day + 719468
  let era := z / 146097
  let dayOfEra := z % 146097
  let yearOfEra := (dayOfEra - dayOfEra / 1460 + dayOfEra / 36524 - dayOfEra / 146096) / 365
  let dayOfYear := dayOfEra - (365 * yearOfEra + yearOfEra / 4 - yearOfEra / 100)
  let shifted := (5 * dayOfYear + 2) / 153
  let month := if shifted < 10 then shifted + 3 else shifted - 9
  (yearOfEra + era * 400 + (if month ≤ 2 then 1 else 0), month, dayOfYear - (153 * shifted + 2) / 5 + 1)

def toISOString (date : Date) : String :=
  let (year, month, day) := civil (date / 86400000)
  let yearText := if year ≤ 9999 then padded 4 year else '+' :: padded 6 year
  String.ofList (yearText ++ '-' :: padded 2 month ++ '-' :: padded 2 day ++ 'T' :: padded 2 (date / 3600000 % 24) ++
    ':' :: padded 2 (date / 60000 % 60) ++ ':' :: padded 2 (date / 1000 % 60) ++ '.' :: padded 3 (date % 1000) ++ ['Z'])

end Date

structure AuditActor where
  type : AuditActorType
  id : Option String

structure AuditResource where
  type : String
  id : String

structure AuditClassification where
  domain : Option AuditEventDomain
  category : Option AuditEventCategory
  severity : Option AuditSeverity
  tags : Option (List String)

structure AuditRelations where
  agent : Option String
  team : Option String
  connection : Option String
  walletRef : Option String
  policy : Option String
  wallet : Option String

structure AuditSource where
  section_ : Option String
  system : Option String
  ref : Option String

structure AuditRefs where
  policy : Option String
  decision : Option String
  approval : Option String

structure RecordAuditEventInput where
  orgId : String
  idempotencyKey : Option String
  eventType : String
  occurredAt : Option Date
  actor : AuditActor
  action : String
  outcome : AuditOutcome
  reasonCode : Option String
  resource : Option AuditResource
  classification : Option AuditClassification
  relations : Option AuditRelations
  requestId : Option String
  source : Option AuditSource
  refs : Option AuditRefs
  externalRefs : Option JsonData
  retentionClass : Option AuditRetentionClass
  payload : Option JsonData

def emptyObject : JsonData := ⟨.object [], by decide, by decide⟩

def keepFirst (seen : List String) (tag : String) : List String := if tag ∈ seen then seen else seen ++ [tag]

def normalizedTags (tags : Option (List String)) : List String :=
  match tags with
  | none => []
  | some tags => (((tags.map trim).filter (· ≠ "")).take 32).foldl keepFirst []

structure Classified where
  eventDomain : AuditEventDomain
  eventCategory : AuditEventCategory
  severity : AuditSeverity
  tags : List String

def classification (input : RecordAuditEventInput) : Classified where
  eventDomain := (input.classification.bind AuditClassification.domain).getD .system
  eventCategory := (input.classification.bind AuditClassification.category).getD .configuration
  severity := (input.classification.bind AuditClassification.severity).getD .info
  tags := normalizedTags (input.classification.bind AuditClassification.tags)

/-- `input.payload ?? {}`: a `null` counts as missing. -/
def RecordAuditEventInput.payloadValue (input : RecordAuditEventInput) : JsonData :=
  match input.payload with
  | some ⟨.null, _, _⟩ | none => emptyObject
  | some payload => payload

def RecordAuditEventInput.redactedPayload (input : RecordAuditEventInput) : RedactionResult :=
  redactAuditPayload input.payloadValue.value

def RecordAuditEventInput.externalRefsValue (input : RecordAuditEventInput) : JsonData :=
  input.externalRefs.getD emptyObject

def redactionStateOf (result : RedactionResult) : RedactionState := if result.redacted then .redacted else .none

def textOrNull : Option String → Json
  | none => .null
  | some text => .string text

def canonicalFields (input : RecordAuditEventInput) : JsonObject :=
  let redacted := input.redactedPayload
  let auditClassification := classification input
  [("action", .string input.action),
    ("actorId", textOrNull input.actor.id),
    ("actorType", .string input.actor.type.text),
    ("approvalRef", textOrNull (input.refs.bind AuditRefs.approval)),
    ("decisionRef", textOrNull (input.refs.bind AuditRefs.decision)),
    ("eventType", .string input.eventType),
    ("externalRefs", input.externalRefsValue.value),
    ("eventCategory", .string auditClassification.eventCategory.text),
    ("eventDomain", .string auditClassification.eventDomain.text),
    ("occurredAt", textOrNull (input.occurredAt.map Date.toISOString)),
    ("outcome", .string input.outcome.text),
    ("payload", redacted.value),
    ("policyRef", textOrNull (input.refs.bind AuditRefs.policy)),
    ("reasonCode", textOrNull input.reasonCode),
    ("redactionState", .string (redactionStateOf redacted).text),
    ("relatedAgentId", textOrNull (input.relations.bind AuditRelations.agent)),
    ("relatedConnectionId", textOrNull (input.relations.bind AuditRelations.connection)),
    ("relatedPolicyId", textOrNull (input.relations.bind AuditRelations.policy)),
    ("relatedTeamId", textOrNull (input.relations.bind AuditRelations.team)),
    ("relatedWalletId", textOrNull (input.relations.bind AuditRelations.wallet)),
    ("relatedWalletRefId", textOrNull (input.relations.bind AuditRelations.walletRef)),
    ("requestId", textOrNull input.requestId),
    ("resourceId", textOrNull (input.resource.map AuditResource.id)),
    ("resourceType", textOrNull (input.resource.map AuditResource.type)),
    ("retentionClass", .string (input.retentionClass.getD .standard).text),
    ("severity", .string auditClassification.severity.text),
    ("sourceRef", textOrNull (input.source.bind AuditSource.ref)),
    ("sourceSection", textOrNull (input.source.bind AuditSource.section_)),
    ("sourceSystem", textOrNull (input.source.bind AuditSource.system)),
    ("tags", .array (auditClassification.tags.map .string))]

def canonicalNames : List String :=
  ["action", "actorId", "actorType", "approvalRef", "decisionRef", "eventType", "externalRefs", "eventCategory",
    "eventDomain", "occurredAt", "outcome", "payload", "policyRef", "reasonCode", "redactionState", "relatedAgentId",
    "relatedConnectionId", "relatedPolicyId", "relatedTeamId", "relatedWalletId", "relatedWalletRefId", "requestId",
    "resourceId", "resourceType", "retentionClass", "severity", "sourceRef", "sourceSection", "sourceSystem", "tags"]

theorem canonicalFields_names (input : RecordAuditEventInput) :
    (canonicalFields input).map Prod.fst = canonicalNames := rfl

theorem distinct_textOrNull (text : Option String) : (textOrNull text).Distinct := by cases text <;> rfl

theorem numbers_textOrNull (text : Option String) : (textOrNull text).Numbers := by cases text <;> rfl

theorem canonicalFields_distinct (input : RecordAuditEventInput) : (Json.object (canonicalFields input)).Distinct := by
  have payload : input.redactedPayload.value.Distinct := redactOpen_distinct input.payloadValue.distinct
  have refs := input.externalRefsValue.distinct
  have text (value : String) : (Json.string value).Distinct := rfl
  rw [Json.distinct_object, canonicalFields_names]
  refine ⟨by decide, ?_⟩
  simp [canonicalFields, distinct_textOrNull, Json.distinct_array, payload, refs, text]

theorem canonicalFields_numbers (input : RecordAuditEventInput) : (Json.object (canonicalFields input)).Numbers := by
  have payload : input.redactedPayload.value.Numbers := redactOpen_numbers input.payloadValue.numbers
  have refs := input.externalRefsValue.numbers
  have text (value : String) : (Json.string value).Numbers := rfl
  rw [Json.numbers_object]
  simp [canonicalFields, numbers_textOrNull, Json.numbers_array, payload, refs, text]

def buildCanonicalBody (input : RecordAuditEventInput) : JsonData :=
  ⟨.object (canonicalFields input), canonicalFields_distinct input, canonicalFields_numbers input⟩

/-! # What is stored -/

structure AuditEventHead where
  org_id : String
  last_sequence : Nat
  last_event_hash : Option Hash

structure AuditEventRow where
  id : String
  org_id : String
  sequence : Nat
  sequence_pos : 0 < sequence
  idempotency_key : Option String
  event_type : String
  occurred_at : Time
  recorded_at : Time
  actor_type : AuditActorType
  actor_id : Option String
  action : String
  outcome : AuditOutcome
  reason_code : Option String
  resource_type : Option String
  resource_id : Option String
  event_domain : String
  event_category : String
  severity : AuditSeverity
  tags : List String
  related_agent_id : Option String
  related_team_id : Option String
  related_connection_id : Option String
  related_wallet_ref_id : Option String
  related_policy_id : Option String
  related_wallet_id : Option String
  request_id : Option String
  source_section : Option String
  source_system : Option String
  source_ref : Option String
  policy_ref : Option String
  decision_ref : Option String
  approval_ref : Option String
  external_refs : JsonData
  retention_class : AuditRetentionClass
  redaction_state : RedactionState
  payload : JsonData
  canonical_body : JsonData
  canonical_body_hash : Hash
  previous_hash : Option Hash
  event_hash : Hash

/-- `UNIQUE (org_id, sequence)` -/
def AuditEventRow.key (row : AuditEventRow) : String × Nat := (row.org_id, row.sequence)

abbrev AuditEvents := Table AuditEventRow.key
abbrev AuditEventHeads := Table AuditEventHead.org_id

structure AuditStore where
  heads : AuditEventHeads
  events : AuditEvents

def storableHere : Json → Bool
  | .string value => storableText value
  | .object fields => fields.all fun entry => storableText entry.1
  | _ => true

def storable (value : Json) : Bool := value.all storableHere

/-- How the driver hands a value over for a `jsonb` column: a text as it is, to be read as JSON, and an array as an
array of the database, whose text is JSON only when the array is empty. -/
def jsonbParameter (parseJson : String → Option JsonData) (value : JsonData) : Option JsonData :=
  match value.value with
  | .string text => parseJson text
  | .array [] => some emptyObject
  | .array _ => none
  | _ => some value

def isObject : Json → Bool
  | .object _ => true
  | _ => false

def eventHashBody (orgId : String) (canonicalBodyHash : Hash) (previousHash : Option Hash) (sequence : Nat) : Json :=
  .object [("canonicalBodyHash", .string canonicalBodyHash), ("orgId", .string orgId),
    ("previousHash", textOrNull previousHash), ("sequence", .string (Nat.repr sequence))]

def eventHashOf (host : Host) (orgId : String) (canonicalBodyHash : Hash) (previousHash : Option Hash)
    (sequence : Nat) : Hash :=
  sha256Hex host (eventHashBody orgId canonicalBodyHash previousHash sequence)

def unsupportedAuditValue : Failure := .thrown "unsupported_audit_value"

def idempotencyConflict : Failure := .thrown "idempotency_conflict"

def invalidJson : Failure := .thrown "invalid input syntax for type json"

def canonicalBodyHashOf (host : Host) (input : RecordAuditEventInput) : Except Failure Hash :=
  if input.redactedPayload.plain then .ok (sha256Hex host (buildCanonicalBody input).value)
  else .error unsupportedAuditValue

/-- The locking `SELECT` for an idempotency key -/
def findByKey (events : AuditEvents) (orgId : String) (key : String) : Option AuditEventRow :=
  events.rows.find? fun row => row.org_id = orgId ∧ row.idempotency_key = some key

/-- `INSERT INTO audit_event_heads ... ON CONFLICT (org_id) DO NOTHING` -/
def insertHead (heads : AuditEventHeads) (orgId : String) : AuditEventHeads :=
  (heads.insert? ⟨orgId, 0, none⟩).getD heads

def eventRow (host : Host) (head : AuditEventHead) (now : Time) (eventId : String) (input : RecordAuditEventInput)
    (canonicalBodyHash : Hash) (externalRefs payload : JsonData) : AuditEventRow :=
  let auditClassification := classification input
  { id := eventId
    org_id := input.orgId
    sequence := head.last_sequence + 1
    sequence_pos := Nat.succ_pos _
    idempotency_key := input.idempotencyKey
    event_type := input.eventType
    occurred_at := (input.occurredAt.getD (now / 1000)) * 1000
    recorded_at := now
    actor_type := input.actor.type
    actor_id := input.actor.id
    action := input.action
    outcome := input.outcome
    reason_code := input.reasonCode
    resource_type := input.resource.map AuditResource.type
    resource_id := input.resource.map AuditResource.id
    event_domain := auditClassification.eventDomain.text
    event_category := auditClassification.eventCategory.text
    severity := auditClassification.severity
    tags := auditClassification.tags
    related_agent_id := input.relations.bind AuditRelations.agent
    related_team_id := input.relations.bind AuditRelations.team
    related_connection_id := input.relations.bind AuditRelations.connection
    related_wallet_ref_id := input.relations.bind AuditRelations.walletRef
    related_policy_id := input.relations.bind AuditRelations.policy
    related_wallet_id := input.relations.bind AuditRelations.wallet
    request_id := input.requestId
    source_section := input.source.bind AuditSource.section_
    source_system := input.source.bind AuditSource.system
    source_ref := input.source.bind AuditSource.ref
    policy_ref := input.refs.bind AuditRefs.policy
    decision_ref := input.refs.bind AuditRefs.decision
    approval_ref := input.refs.bind AuditRefs.approval
    external_refs := externalRefs
    retention_class := input.retentionClass.getD .standard
    redaction_state := redactionStateOf input.redactedPayload
    payload := payload
    canonical_body := buildCanonicalBody input
    canonical_body_hash := canonicalBodyHash
    previous_hash := head.last_event_hash
    event_hash := eventHashOf host input.orgId canonicalBodyHash head.last_event_hash (head.last_sequence + 1) }

def RecordAuditEventInput.payloadColumn (input : RecordAuditEventInput) : JsonData :=
  ⟨input.redactedPayload.value, redactOpen_distinct input.payloadValue.distinct,
    redactOpen_numbers input.payloadValue.numbers⟩

/-- `INSERT INTO audit_events`, with its constraints -/
def insertEvent (host : Host) (parseJson : String → Option JsonData) (events : AuditEvents) (head : AuditEventHead)
    (now : Time) (eventId : String) (input : RecordAuditEventInput) (canonicalBodyHash : Hash) :
    Except Failure (AuditEvents × AuditEventRow) :=
  match jsonbParameter parseJson input.externalRefsValue, jsonbParameter parseJson input.payloadColumn with
  | some externalRefs, some payload =>
    let row := eventRow host head now eventId input canonicalBodyHash externalRefs payload
    if !storable row.canonical_body.value then .error invalidJson
    else if !isObject externalRefs.value then .error (.constraint "audit_events_external_refs_check")
    else if events.rows.any fun other => other.id = row.id then .error (.constraint "audit_events_pkey")
    else if events.rows.any fun other => other.event_hash = row.event_hash then
      .error (.constraint "audit_events_event_hash_key")
    else if (row.idempotency_key.bind (findByKey events row.org_id)).isSome then
      .error (.constraint "audit_events_org_idempotency_key_idx")
    else match events.insert? row with
      | none => .error (.constraint "audit_events_org_id_sequence_key")
      | some events => .ok (events, row)
  | _, _ => .error invalidJson

def updateHead (heads : AuditEventHeads) (row : AuditEventRow) : AuditEventHeads :=
  heads.put ⟨row.org_id, row.sequence, some row.event_hash⟩

/-- The end of `recordAuditEvent`: the event is appended behind the head. -/
def appendEvent (host : Host) (parseJson : String → Option JsonData) (store : AuditStore) (now : Time)
    (eventId : String) (input : RecordAuditEventInput) (canonicalBodyHash : Hash) :
    Except Failure (AuditStore × AuditEventRow) :=
  let heads := insertHead store.heads input.orgId
  match heads.find? input.orgId with
  | none => .error (.thrown "audit_head_not_found")
  | some head =>
    match insertEvent host parseJson store.events head now eventId input canonicalBodyHash with
    | .error failure => .error failure
    | .ok (events, row) => .ok (⟨updateHead heads row, events⟩, row)

def recordAuditEvent (host : Host) (parseJson : String → Option JsonData) (store : AuditStore) (now : Time)
    (eventId : String) (input : RecordAuditEventInput) : Except Failure (AuditStore × AuditEventRow) :=
  match canonicalBodyHashOf host input with
  | .error failure => .error failure
  | .ok canonicalBodyHash =>
    match input.idempotencyKey.bind (findByKey store.events input.orgId) with
    | some existing =>
      if existing.canonical_body_hash ≠ canonicalBodyHash then .error idempotencyConflict else .ok (store, existing)
    | none => appendEvent host parseJson store now eventId input canonicalBodyHash

end AgentOps.Evidence
