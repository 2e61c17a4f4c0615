import AgentOps.AuditTrail.Binding

namespace AgentOps.AuditTrail
open Lib

/-! # Audit events in the database -/

inductive EntityState where
  | unchanged
  | deleted
  | modified
  | added
  deriving DecidableEq

/-- What an entity of another table has of `BaseEntity` -/
structure BaseEntity where
  id : Guid
  createdAtUtc : DateTime
  updatedAtUtc : Option DateTime

inductive Entity where
  | audit (event : AuditEvent)
  | other (base : BaseEntity)

structure Entry where
  state : EntityState
  entity : Entity

def Entry.auditId (entry : Entry) : Option Guid :=
  match entry.entity with
  | .audit event => some event.id
  | .other _ => none

structure ChangeTracker where
  entries : List Entry
  distinct : (entries.filterMap Entry.auditId).Nodup

def ChangeTracker.add (tracker : ChangeTracker) (event : AuditEvent) : Option ChangeTracker :=
  if untracked : event.id ∈ tracker.entries.filterMap Entry.auditId then none
  else some ⟨⟨.added, .audit event⟩ :: tracker.entries, List.nodup_cons.mpr ⟨untracked, tracker.distinct⟩⟩

abbrev AuditTable := Guid → Option AuditEvent

/-- What `SaveChangesAsync` sets before it saves -/
def Entry.stamp (now : DateTime) : Entry → Entry
  -- an audit event that is added keeps the time that is part of its hash
  | ⟨.added, .other base⟩ => ⟨.added, .other { base with createdAtUtc := now }⟩
  | ⟨.modified, .other base⟩ => ⟨.modified, .other { base with updatedAtUtc := some now }⟩
  | ⟨.modified, .audit event⟩ => ⟨.modified, .audit { event with updatedAtUtc := some now }⟩
  | entry => entry

/-- One command. A key that is there already is not inserted, and a row that is missing neither updated nor deleted. -/
def Entry.write (table : AuditTable) (entry : Entry) : Option AuditTable :=
  match entry.state, entry.entity with
  | .added, .audit event => if (table event.id).isSome then none else some (Function.update table event.id (some event))
  | .modified, .audit event => if (table event.id).isNone then none else some (Function.update table event.id (some event))
  | .deleted, .audit event => if (table event.id).isNone then none else some (Function.update table event.id none)
  | _, _ => some table

def saveChangesAsync (now : DateTime) (tracker : ChangeTracker) (table : AuditTable) : Option AuditTable :=
  (tracker.entries.map (Entry.stamp now)).foldlM Entry.write table

def DateTime.withoutKind (time : DateTime) : DateTime := { time with kind := .unspecified }

/-- `column` rounds to the scale of the column; a time comes back without its kind. -/
def AuditEvent.asLoaded (column : HostDecimal → HostDecimal) (e : AuditEvent) : AuditEvent :=
  { e with
    capitalTransactedUsd := column e.capitalTransactedUsd
    createdAtUtc := e.createdAtUtc.withoutKind
    updatedAtUtc := e.updatedAtUtc.map DateTime.withoutKind }

def load (column : HostDecimal → HostDecimal) (table : AuditTable) (id : Guid) : Option AuditEvent :=
  (table id).map (AuditEvent.asLoaded column)

section

variable {sha256 : List UInt8 → List UInt8} {localOffset : Nat → Int} {column : HostDecimal → HostDecimal} {now : DateTime}
  {table table' : AuditTable} {tracker tracker' : ChangeTracker} {entries : List Entry} {entry : Entry} {event : AuditEvent} {id : Guid}

@[simp] theorem auditId_stamp : (entry.stamp now).auditId = entry.auditId := by
  obtain ⟨state, entity⟩ := entry
  cases state <;> cases entity <;> rfl

theorem write_other (other : entry.auditId ≠ some id) (written : entry.write table = some table') : table' id = table id := by
  obtain ⟨state, entity⟩ := entry
  cases entity with
  | other base => cases state <;> cases written <;> rfl
  | audit event =>
    have apart : id ≠ event.id := fun same => other (congrArg some same.symm)
    cases state with
    | unchanged => cases written; rfl
    | added | modified | deleted =>
      obtain ⟨-, same⟩ := Option.ite_none_left_eq_some.mp written
      obtain rfl := Option.some.inj same
      exact Function.update_of_ne apart _ _

theorem foldlM_write_other (others : id ∉ entries.filterMap Entry.auditId)
    (written : entries.foldlM Entry.write table = some table') :
    table' id = table id := by
  induction entries generalizing table with
  | nil => cases written; rfl
  | cons entry entries ih =>
    rw [List.foldlM_cons] at written
    obtain ⟨middle, first, rest⟩ := Option.bind_eq_some_iff.mp written
    have other : entry.auditId ≠ some id := by
      intro same
      exact others (List.mem_filterMap.mpr ⟨entry, List.mem_cons_self, same⟩)
    rw [ih (fun member => others ?_) rest, write_other other first]
    obtain ⟨found, behind, same⟩ := List.mem_filterMap.mp member
    exact List.mem_filterMap.mpr ⟨found, List.mem_cons_of_mem _ behind, same⟩

theorem saved_added (added : tracker.add event = some tracker') (saved : saveChangesAsync now tracker' table = some table') :
    table' event.id = some event := by
  unfold ChangeTracker.add at added
  split at added
  · cases added
  rename_i untracked
  obtain rfl := Option.some.inj added
  rw [saveChangesAsync, List.map_cons, List.foldlM_cons] at saved
  obtain ⟨middle, inserted, rest⟩ := Option.bind_eq_some_iff.mp saved
  have others : event.id ∉ (tracker.entries.map (Entry.stamp now)).filterMap Entry.auditId := by
    rw [List.filterMap_map]
    simpa [Function.comp_def] using untracked
  rw [foldlM_write_other others rest]
  obtain ⟨-, same⟩ := Option.ite_none_left_eq_some.mp inserted
  obtain rfl := Option.some.inj same
  exact Function.update_self _ _ _

theorem verify_asLoaded (injective : Function.Injective sha256)
    (hash : event.merkleProofHash = computeDigest sha256 localOffset event) :
    verify sha256 localOffset (event.asLoaded column) = true ↔
      event.createdAtUtc.kind = .unspecified ∧ event.capitalTransactedUsd.rounded 4 = (column event.capitalTransactedUsd).rounded 4 := by
  have kept : (event.asLoaded column).merkleProofHash = event.merkleProofHash := rfl
  have kind : event.createdAtUtc = event.createdAtUtc.withoutKind ↔ event.createdAtUtc.kind = .unspecified := by
    constructor
    · intro same
      rw [same]
      rfl
    · intro unspecified
      rw [DateTime.withoutKind, ← unspecified]
  rw [verify, decide_eq_true_eq, kept, hash, digest_eq_iff injective, ← kind, and_comm (a := event.createdAtUtc = _)]
  exact ⟨fun same => same.2.2, fun same => ⟨rfl, rfl, same⟩⟩

theorem create_hash (id : Guid) (eventType : CodeUnits) (agentId : Guid) (organizationId : CodeUnits) (sessionId : Option Guid)
    (actionName decisionPolicy : CodeUnits) (capitalUsd : HostDecimal) (occurredAtUtc : DateTime) :
    (create sha256 localOffset id eventType agentId organizationId sessionId actionName decisionPolicy capitalUsd
      occurredAtUtc).merkleProofHash =
    computeDigest sha256 localOffset (create sha256 localOffset id eventType agentId organizationId sessionId actionName decisionPolicy
      capitalUsd occurredAtUtc) := rfl

/-- No event that is created at a UTC time verifies after it has been saved and loaded. -/
theorem created_unverified (injective : Function.Injective sha256) (localOffset : Nat → Int) (column : HostDecimal → HostDecimal)
    (now : DateTime) (tracker tracker' : ChangeTracker) (table table' : AuditTable) (id : Guid) (eventType : CodeUnits) (agentId : Guid)
    (organizationId : CodeUnits) (sessionId : Option Guid) (actionName decisionPolicy : CodeUnits) (capitalUsd : HostDecimal)
    (occurredAtUtc : DateTime) (utc : occurredAtUtc.kind = .utc)
    (added : tracker.add (create sha256 localOffset id eventType agentId organizationId sessionId actionName decisionPolicy capitalUsd
      occurredAtUtc) = some tracker')
    (saved : saveChangesAsync now tracker' table = some table') :
    ∃ loaded, load column table' id = some loaded ∧ verify sha256 localOffset loaded = false := by
  have row := saved_added added saved
  change table' id = _ at row
  refine ⟨_, by rw [load, row]; rfl, ?_⟩
  rw [← Bool.not_eq_true, verify_asLoaded injective (create_hash _ _ _ _ _ _ _ _ _)]
  rintro ⟨unspecified, -⟩
  exact absurd (utc.symm.trans unspecified) (by decide)

end

def emptyTracker : ChangeTracker := ⟨[], List.nodup_nil⟩

def paid : AuditEvent :=
  let e := settled "pay" "daily" (dollars 5 0 (by decide))
  create id (fun _ => 0) e.id e.eventType e.agentId e.organizationId e.sessionId e.actionName e.decisionPolicy e.capitalTransactedUsd
    e.createdAtUtc

def paidTable : AuditTable := Function.update (fun _ => none) paid.id (some paid)

theorem created_unverified_paid : ∃ loaded, load id paidTable ⟨1, by decide⟩ = some loaded ∧
    verify id (fun _ => 0) loaded = false :=
  created_unverified Function.injective_id (fun _ => 0) id ⟨0, by decide, .utc⟩ emptyTracker _ (fun _ => none) paidTable ⟨1, by decide⟩
    _ ⟨2, by decide⟩ _ none _ _ (dollars 5 0 (by decide)) ⟨0, by decide, .utc⟩ rfl rfl rfl

/-- It verifies until it is loaded. -/
theorem paid_unverified : verify id (fun _ => 0) paid = true ∧ paidTable paid.id = some paid ∧
    (load id paidTable paid.id).map (verify id fun _ => 0) = some false := by
  have row : paidTable paid.id = some paid := Function.update_self _ _ _
  have hash : paid.merkleProofHash = computeDigest id (fun _ => 0) paid := create_hash _ _ _ _ _ _ _ _ _
  refine ⟨decide_eq_true hash, row, ?_⟩
  rw [load, row, Option.map_some, Option.map_some, Option.some.injEq, ← Bool.not_eq_true, verify_asLoaded Function.injective_id hash]
  rintro ⟨unspecified, -⟩
  cases unspecified

end AgentOps.AuditTrail
