import AgentOps.Evidence.AuditQuery
import Mathlib.Data.List.Induction

namespace AgentOps.Evidence
open Lib Identity

section Binding

variable {host : Host} {event event' : AuditEventDetail}

/-! # What a valid audit chain binds -/

def AuditEventDetail.shown (event : AuditEventDetail) : AuditEventDetail :=
  { event with payload := event.payload.sortKeys .codePoints, canonicalBody := event.canonicalBody.sortKeys .codePoints }

def SameRecord (event event' : AuditEventDetail) : Prop := event.shown = event'.shown

def auditRecord (store : AuditStore) (orgId : String) : List AuditEventDetail :=
  (eventsAfter store.events orgId 0).map toDetail

/-- The two stores show the same audit record, if both are reported valid. -/
def TamperEvident (host : Host) (orgId : String) (store store' : AuditStore) : Prop :=
  (verifyAuditChain host store orgId).valid = true → (verifyAuditChain host store' orgId).valid = true →
    List.Forall₂ SameRecord (auditRecord store orgId) (auditRecord store' orgId)

theorem textOrNull_inj {text text' : Option String} (same : textOrNull text = textOrNull text') : text = text' := by
  cases text <;> cases text' <;> simp_all [textOrNull]

structure Bound (event event' : AuditEventDetail) : Prop where
  orgId : event.orgId = event'.orgId
  sequence : event.sequence = event'.sequence
  body : event.canonicalBody.Same event'.canonicalBody
  bodyHash : event.canonicalBodyHash = event'.canonicalBodyHash
  previousHash : event.previousHash = event'.previousHash
  eventHash : event.eventHash = event'.eventHash

theorem sequence_inj {n m : Nat} (same : Nat.repr n = Nat.repr m) : n = m := by
  have digits := congrArg String.toList same
  rw [Nat.toList_repr, Nat.toList_repr] at digits
  rw [← Nat.ofDigitChars_toDigits (b := 10) (n := n) (by decide) (by decide), digits,
    Nat.ofDigitChars_toDigits (by decide) (by decide)]

def eventHashData (orgId : String) (bodyHash : Hash) (previousHash : Option Hash) (sequence : Nat) : JsonData where
  value := eventHashBody orgId bodyHash previousHash sequence
  distinct := by
    rw [eventHashBody, Json.distinct_object]
    refine ⟨by simp, ?_⟩
    have text (value : String) : (Json.string value).Distinct := rfl
    simp [text, distinct_textOrNull]
  numbers := by
    rw [eventHashBody, Json.numbers_object]
    have text (value : String) : (Json.string value).Numbers := rfl
    simp [text, numbers_textOrNull]

theorem eventHashBody_sorted (orgId : String) (bodyHash : Hash) (previousHash : Option Hash) (sequence : Nat) :
    (eventHashBody orgId bodyHash previousHash sequence).sortKeys .codePoints =
      eventHashBody orgId bodyHash previousHash sequence := by
  refine Json.sortKeys_of_sorted ?_ ?_
  · show List.Pairwise _ ["canonicalBodyHash", "orgId", "previousHash", "sequence"]
    decide
  · intro entry member
    simp only [List.mem_cons, List.not_mem_nil, or_false] at member
    rcases member with rfl | rfl | rfl | rfl
    · rfl
    · rfl
    · cases previousHash <;> rfl
    · rfl

theorem eventHash_inj (injective : Function.Injective host.sha256) {orgId orgId' : String} {bodyHash bodyHash' : Hash}
    {previousHash previousHash' : Option Hash} {sequence sequence' : Nat}
    (same : eventHashOf host orgId bodyHash previousHash sequence =
      eventHashOf host orgId' bodyHash' previousHash' sequence') :
    orgId = orgId' ∧ bodyHash = bodyHash' ∧ previousHash = previousHash' ∧ sequence = sequence' := by
  have bodies : (eventHashData orgId bodyHash previousHash sequence).value.Same
      (eventHashData orgId' bodyHash' previousHash' sequence').value := canonicalJson_inj (injective same)
  simp only [eventHashData] at bodies
  rw [Json.Same, eventHashBody_sorted, eventHashBody_sorted] at bodies
  simp only [eventHashBody, Json.object.injEq, List.cons.injEq, Prod.mk.injEq, Json.string.injEq, true_and,
    and_true] at bodies
  obtain ⟨hashes, orgs, previous, sequences⟩ := bodies
  exact ⟨orgs, hashes, textOrNull_inj previous, sequence_inj sequences⟩

theorem bound_of_hash (injective : Function.Injective host.sha256) {row row' : AuditEventRow}
    {state state' next next' : Verification} (checked : state.check host (toDetail row) = .ok next)
    (checked' : state'.check host (toDetail row') = .ok next') (same : next.previousHash = next'.previousHash) :
    Bound (toDetail row) (toDetail row') ∧ state.previousHash = state'.previousHash := by
  obtain ⟨body, previous, hash, rfl⟩ := Verification.check_ok checked
  obtain ⟨body', previous', hash', rfl⟩ := Verification.check_ok checked'
  have hashes : (toDetail row).eventHash = (toDetail row').eventHash := Option.some.inj same
  obtain ⟨orgs, bodyHashes, previousHashes, sequences⟩ := eventHash_inj injective (hash.trans (hashes.trans hash'.symm))
  have bodies : row.canonical_body.value.Same row'.canonical_body.value :=
    canonicalJson_inj (injective (body.trans (bodyHashes.trans body'.symm)))
  refine ⟨⟨orgs, sequences, bodies, bodyHashes, previousHashes, hashes⟩, ?_⟩
  rw [← previous, ← previous', previousHashes]

theorem chains_bound (injective : Function.Injective host.sha256) {rows rows' : List AuditEventRow}
    {state state' next next' : Verification} (checked : state.checkPage host (rows.map toDetail) = .ok next)
    (checked' : state'.checkPage host (rows'.map toDetail) = .ok next') (lengths : rows.length = rows'.length)
    (same : next.previousHash = next'.previousHash) :
    List.Forall₂ (fun row row' => Bound (toDetail row) (toDetail row')) rows rows' := by
  induction rows using List.reverseRecOn generalizing rows' next next' with
  | nil =>
    rw [List.length_nil] at lengths
    rw [List.eq_nil_of_length_eq_zero lengths.symm]
    exact .nil
  | append_singleton rows row ih =>
    rcases List.eq_nil_or_concat rows' with rfl | ⟨rest, row', rfl⟩
    · simp at lengths
    rw [List.concat_eq_append] at checked' lengths ⊢
    rw [List.map_append, List.map_singleton] at checked checked'
    obtain ⟨middle, first, last⟩ := Verification.checkPage_concat checked
    obtain ⟨middle', first', last'⟩ := Verification.checkPage_concat checked'
    obtain ⟨bound, before⟩ := bound_of_hash injective last last' same
    have shorter : rows.length = rest.length := by simpa using lengths
    exact List.rel_append (ih first first' shorter before) (.cons bound .nil)

theorem valid_iff {store : AuditStore} {orgId : String} {head : AuditEventHead}
    (found : store.heads.find? orgId = some head) : (verifyAuditChain host store orgId).valid = true ↔
      ∃ state, Verification.start.checkPage host (auditRecord store orgId) = .ok state ∧
        head.last_sequence = (auditRecord store orgId).length ∧ head.last_event_hash = state.previousHash := by
  have result : verifyAuditChain host store orgId =
      Verification.start.verifyAll host (some head) (auditRecord store orgId) := by
    rw [verifyAuditChain_eq, found]
    rfl
  rw [result, Verification.verifyAll]
  cases checked : Verification.start.checkPage host (auditRecord store orgId) with
  | error result => simp [Verification.checkPage_error checked]
  | ok state =>
    have counted := Verification.checkPage_checked checked
    simp only [Verification.finish_valid, Except.ok.injEq, exists_eq_left']
    rw [counted, Verification.start, Nat.zero_add]

/-- Two valid chains of one head have the same hashes and canonical bodies. -/
theorem records_bound (injective : Function.Injective host.sha256) {store store' : AuditStore} {orgId : String}
    {head : AuditEventHead} (found : store.heads.find? orgId = some head)
    (found' : store'.heads.find? orgId = some head) (valid : (verifyAuditChain host store orgId).valid = true)
    (valid' : (verifyAuditChain host store' orgId).valid = true) :
    List.Forall₂ Bound (auditRecord store orgId) (auditRecord store' orgId) := by
  obtain ⟨state, checked, counted, ended⟩ := (valid_iff found).mp valid
  obtain ⟨state', checked', counted', ended'⟩ := (valid_iff found').mp valid'
  rw [auditRecord, List.length_map] at counted counted'
  rw [auditRecord, auditRecord, List.forall₂_map_left_iff, List.forall₂_map_right_iff]
  exact chains_bound injective checked checked' (counted.symm.trans counted') (ended.symm.trans ended')

/-- The row with another text in its column `action` -/
def AuditEventRow.marked (row : AuditEventRow) : AuditEventRow := { row with action := row.action ++ "'" }

def AuditEventDetail.marked (event : AuditEventDetail) : AuditEventDetail := { event with action := event.action ++ "'" }

def AuditStore.marked (store : AuditStore) : AuditStore :=
  { store with events := store.events.rewrite AuditEventRow.marked fun _ => rfl }

theorem eventsAfter_marked (store : AuditStore) (orgId : String) :
    eventsAfter store.marked.events orgId 0 = (eventsAfter store.events orgId 0).map AuditEventRow.marked := by
  have sorted := List.map_insertionSort bySequence bySequence AuditEventRow.marked
    (store.events.rows.filter fun row => row.org_id = orgId ∧ 0 < row.sequence) fun _ _ _ _ => Iff.rfl
  rw [eventsAfter, eventsAfter, sorted]
  show List.insertionSort bySequence (List.filter _ (store.events.rows.map AuditEventRow.marked)) = _
  rw [List.filter_map]
  rfl

theorem auditRecord_marked (store : AuditStore) (orgId : String) :
    auditRecord store.marked orgId = (auditRecord store orgId).map AuditEventDetail.marked := by
  rw [auditRecord, auditRecord, eventsAfter_marked, List.map_map, List.map_map]
  rfl

theorem checkPage_marked (state : Verification) (events : List AuditEventDetail) :
    (∃ next, state.checkPage host events = .ok next) →
      state.checkPage host (events.map AuditEventDetail.marked) = state.checkPage host events := by
  induction events generalizing state with
  | nil => exact fun _ => rfl
  | cons event events ih =>
    rintro ⟨next, checked⟩
    rw [List.map_cons, Verification.checkPage, Verification.checkPage]
    have same : state.check host event.marked = state.check host event := rfl
    rw [same]
    cases here : state.check host event with
    | error => rfl
    | ok middle =>
      rw [Verification.checkPage, here] at checked
      exact ih middle ⟨next, checked⟩

theorem valid_marked {store : AuditStore} {orgId : String} {head : AuditEventHead}
    (found : store.heads.find? orgId = some head) (valid : (verifyAuditChain host store orgId).valid = true) :
    (verifyAuditChain host store.marked orgId).valid = true := by
  obtain ⟨state, checked, counted, ended⟩ := (valid_iff found).mp valid
  have found' : store.marked.heads.find? orgId = some head := found
  rw [valid_iff found', auditRecord_marked, List.length_map, checkPage_marked _ _ ⟨state, checked⟩]
  exact ⟨state, checked, counted, ended⟩

theorem not_sameRecord_marked (event : AuditEventDetail) : ¬SameRecord event event.marked := by
  intro same
  have lengths := congrArg (String.length ∘ AuditEventDetail.action) same
  simp [AuditEventDetail.shown, AuditEventDetail.marked] at lengths

/-- A valid chain fixes what its hashes cover. The record that the views show is fixed by it only where it is empty. -/
theorem tamperEvident_iff (injective : Function.Injective host.sha256) {store : AuditStore} {orgId : String}
    {head : AuditEventHead} (found : store.heads.find? orgId = some head)
    (valid : (verifyAuditChain host store orgId).valid = true) :
    (∀ store', store'.heads.find? orgId = some head → (verifyAuditChain host store' orgId).valid = true →
      List.Forall₂ Bound (auditRecord store orgId) (auditRecord store' orgId)) ∧
    ((∀ store', store'.heads.find? orgId = some head → TamperEvident host orgId store store') ↔
      auditRecord store orgId = []) := by
  have bound (store' : AuditStore) (found' : store'.heads.find? orgId = some head) :=
    records_bound injective found found' valid
  refine ⟨bound, fun evident => ?_, fun empty store' found' _ valid' => ?_⟩
  · have records := evident store.marked found valid (valid_marked found valid)
    rw [auditRecord_marked, List.forall₂_map_right_iff] at records
    cases shown : auditRecord store orgId with
    | nil => rfl
    | cons event events =>
      rw [shown, List.forall₂_cons] at records
      exact (not_sameRecord_marked event records.1).elim
  · have both := bound store' found' valid'
    rw [empty, List.forall₂_nil_left_iff] at both
    rw [empty, both]
    exact .nil

end Binding

namespace Workspace

def host : Host := ⟨.codePoints, id⟩

def input : RecordAuditEventInput where
  orgId := "org"
  idempotencyKey := none
  eventType := "agent.paused"
  occurredAt := none
  actor := ⟨.user, some "usr"⟩
  action := "agent.pause"
  outcome := .success
  reasonCode := none
  resource := none
  classification := none
  relations := none
  requestId := none
  source := none
  refs := none
  externalRefs := none
  retentionClass := none
  payload := none

def rowWithAction (action : String) : AuditEventRow :=
  { eventRow host ⟨"org", 0, none⟩ 0 "aud" input (host.sha256 (canonicalJson host (buildCanonicalBody input).value))
      emptyObject emptyObject with action }

def storeWithAction (action : String) : AuditStore where
  heads := .singleton ⟨"org", 1, some (rowWithAction action).event_hash⟩
  events := .singleton (rowWithAction action)

theorem record_storeWithAction (action : String) :
    auditRecord (storeWithAction action) "org" = [toDetail (rowWithAction action)] := rfl

theorem valid_storeWithAction (action : String) : (verifyAuditChain host (storeWithAction action) "org").valid = true := by
  have found : (storeWithAction action).heads.find? "org" = some ⟨"org", 1, some (rowWithAction action).event_hash⟩ := rfl
  rw [valid_iff found, record_storeWithAction]
  refine ⟨⟨some (rowWithAction action).event_hash, 1, 1⟩, ?_, rfl, rfl⟩
  rw [Verification.checkPage, Verification.check_row rfl rfl rfl]
  rfl

end Workspace

/-- Another text in a column that no hash covers goes unnoticed. -/
theorem forged_action_valid : ¬TamperEvident Workspace.host "org" (Workspace.storeWithAction "agent.pause")
    (Workspace.storeWithAction "agent.resume") := by
  intro evident
  have records := evident (Workspace.valid_storeWithAction _) (Workspace.valid_storeWithAction _)
  rw [Workspace.record_storeWithAction, Workspace.record_storeWithAction, List.forall₂_cons] at records
  have actions := congrArg AuditEventDetail.action records.1
  exact absurd actions (by decide)

/-- The hashes bind the two records of one event to each other, and still another record passes for that of the chain. -/
theorem tamperEvident_recorded :
    List.Forall₂ Bound (auditRecord (Workspace.storeWithAction "agent.pause") "org")
      (auditRecord (Workspace.storeWithAction "agent.resume") "org") ∧
    ¬∀ store', store'.heads.find? "org" = some ⟨"org", 1, some (Workspace.rowWithAction "agent.pause").event_hash⟩ →
      TamperEvident Workspace.host "org" (Workspace.storeWithAction "agent.pause") store' := by
  obtain ⟨bound, evident⟩ := tamperEvident_iff Function.injective_id rfl (Workspace.valid_storeWithAction "agent.pause")
  refine ⟨bound _ rfl (Workspace.valid_storeWithAction _), evident.not.mpr ?_⟩
  rw [Workspace.record_storeWithAction]
  exact List.cons_ne_nil _ _

end AgentOps.Evidence
