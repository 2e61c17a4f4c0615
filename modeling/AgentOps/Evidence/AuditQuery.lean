import AgentOps.Evidence.AuditWriter

namespace AgentOps.Evidence
open Lib Identity

variable {host : Host}

/-! # Reading the audit events -/

@[ext]
structure AuditEventDetail where
  id : String
  orgId : String
  sequence : Nat
  idempotencyKey : Option String
  eventType : String
  occurredAt : String
  recordedAt : String
  actorType : AuditActorType
  actorId : Option String
  action : String
  outcome : AuditOutcome
  reasonCode : Option String
  resourceType : Option String
  resourceId : Option String
  eventDomain : String
  eventCategory : String
  severity : AuditSeverity
  tags : List String
  relatedAgentId : Option String
  relatedTeamId : Option String
  relatedConnectionId : Option String
  relatedWalletRefId : Option String
  relatedPolicyId : Option String
  relatedWalletId : Option String
  requestId : Option String
  sourceSection : Option String
  sourceSystem : Option String
  sourceRef : Option String
  policyRef : Option String
  decisionRef : Option String
  approvalRef : Option String
  retentionClass : AuditRetentionClass
  redactionState : RedactionState
  payload : Json
  canonicalBody : Json
  canonicalBodyHash : Hash
  previousHash : Option Hash
  eventHash : Hash

def toDetail (row : AuditEventRow) : AuditEventDetail where
  id := row.id
  orgId := row.org_id
  sequence := row.sequence
  idempotencyKey := row.idempotency_key
  eventType := row.event_type
  occurredAt := Date.toISOString (row.occurred_at / 1000)
  recordedAt := Date.toISOString (row.recorded_at / 1000)
  actorType := row.actor_type
  actorId := row.actor_id
  action := row.action
  outcome := row.outcome
  reasonCode := row.reason_code
  resourceType := row.resource_type
  resourceId := row.resource_id
  eventDomain := row.event_domain
  eventCategory := row.event_category
  severity := row.severity
  tags := row.tags
  relatedAgentId := row.related_agent_id
  relatedTeamId := row.related_team_id
  relatedConnectionId := row.related_connection_id
  relatedWalletRefId := row.related_wallet_ref_id
  relatedPolicyId := row.related_policy_id
  relatedWalletId := row.related_wallet_id
  requestId := row.request_id
  sourceSection := row.source_section
  sourceSystem := row.source_system
  sourceRef := row.source_ref
  policyRef := row.policy_ref
  decisionRef := row.decision_ref
  approvalRef := row.approval_ref
  retentionClass := row.retention_class
  redactionState := row.redaction_state
  payload := row.payload.value
  canonicalBody := row.canonical_body.value
  canonicalBodyHash := row.canonical_body_hash
  previousHash := row.previous_hash
  eventHash := row.event_hash

inductive VerifyFailure where
  | canonical_body_hash_mismatch
  | event_hash_mismatch
  | previous_hash_mismatch
  | event_count_mismatch
  | tail_hash_mismatch
  deriving DecidableEq

structure VerifyAuditChainResult where
  valid : Bool
  checked : Nat
  failedEventId : Option String
  reason : Option VerifyFailure
  deriving DecidableEq

def expectedEventHash (host : Host) (event : AuditEventDetail) : Hash :=
  eventHashOf host event.orgId event.canonicalBodyHash event.previousHash event.sequence

/-- What `verifyAuditChain` carries from event to event -/
structure Verification where
  previousHash : Option Hash
  checked : Nat
  afterSequence : Nat
  deriving DecidableEq

namespace Verification

def start : Verification := ⟨none, 0, 0⟩

def check (host : Host) (state : Verification) (event : AuditEventDetail) : Except VerifyAuditChainResult Verification :=
  let checked := state.checked + 1
  if sha256Hex host (.string (canonicalJson host event.canonicalBody)) ≠ event.canonicalBodyHash then
    .error ⟨false, checked, some event.id, some .canonical_body_hash_mismatch⟩
  else if event.previousHash ≠ state.previousHash then
    .error ⟨false, checked, some event.id, some .previous_hash_mismatch⟩
  else if expectedEventHash host event ≠ event.eventHash then
    .error ⟨false, checked, some event.id, some .event_hash_mismatch⟩
  else .ok ⟨some event.eventHash, checked, event.sequence⟩

def checkPage (host : Host) (state : Verification) : List AuditEventDetail → Except VerifyAuditChainResult Verification
  | [] => .ok state
  | event :: events =>
    match state.check host event with
    | .error result => .error result
    | .ok state => state.checkPage host events

def finish (state : Verification) (head : Option AuditEventHead) : VerifyAuditChainResult :=
  match head with
  | none => ⟨true, state.checked, none, none⟩
  | some head =>
    if head.last_sequence ≠ state.checked then ⟨false, state.checked, none, some .event_count_mismatch⟩
    else if head.last_event_hash ≠ state.previousHash then ⟨false, state.checked, none, some .tail_hash_mismatch⟩
    else ⟨true, state.checked, none, none⟩

end Verification

def VERIFY_PAGE_SIZE : Nat := 500

def bySequence (row row' : AuditEventRow) : Prop := row.sequence ≤ row'.sequence

instance : DecidableRel bySequence := fun row row' => inferInstanceAs (Decidable (row.sequence ≤ row'.sequence))

def eventsAfter (events : AuditEvents) (orgId : String) (afterSequence : Nat) : List AuditEventRow :=
  (events.rows.filter fun row => row.org_id = orgId ∧ afterSequence < row.sequence).insertionSort bySequence

def auditPage (events : AuditEvents) (orgId : String) (afterSequence : Nat) : List AuditEventRow :=
  (eventsAfter events orgId afterSequence).take VERIFY_PAGE_SIZE

def verifyPages (host : Host) (store : AuditStore) (orgId : String) : Nat → Verification → VerifyAuditChainResult
  | 0, state => state.finish (store.heads.find? orgId)
  | pages + 1, state =>
    match auditPage store.events orgId state.afterSequence with
    | [] => state.finish (store.heads.find? orgId)
    | row :: rows =>
      match state.checkPage host ((row :: rows).map toDetail) with
      | .error result => result
      | .ok state =>
        if (row :: rows).length < VERIFY_PAGE_SIZE then state.finish (store.heads.find? orgId)
        else verifyPages host store orgId pages state

/-- `verifyAuditChain` on a store that nobody writes to. Each page has an event, so the pages are at most the events. -/
def verifyAuditChain (host : Host) (store : AuditStore) (orgId : String) : VerifyAuditChainResult :=
  verifyPages host store orgId (store.events.rows.length + 1) .start

theorem eventsAfter_perm (events : AuditEvents) (orgId : String) (afterSequence : Nat) :
    (eventsAfter events orgId afterSequence).Perm
      (events.rows.filter fun row => row.org_id = orgId ∧ afterSequence < row.sequence) :=
  List.perm_insertionSort _ _

theorem mem_eventsAfter {events : AuditEvents} {orgId : String} {afterSequence : Nat} {row : AuditEventRow} :
    row ∈ eventsAfter events orgId afterSequence ↔
      row ∈ events ∧ row.org_id = orgId ∧ afterSequence < row.sequence := by
  rw [(eventsAfter_perm _ _ _).mem_iff]
  simp [Table.mem_def]

instance : Std.Total bySequence := ⟨fun row row' => Nat.le_total row.sequence row'.sequence⟩

instance : IsTrans AuditEventRow bySequence := ⟨fun _ _ _ => Nat.le_trans⟩

theorem eventsAfter_sorted (events : AuditEvents) (orgId : String) (afterSequence : Nat) :
    (eventsAfter events orgId afterSequence).Pairwise fun row row' => row.sequence < row'.sequence := by
  have sorted : (eventsAfter events orgId afterSequence).Pairwise bySequence := List.pairwise_insertionSort _ _
  have nodup : (eventsAfter events orgId afterSequence).Nodup :=
    (eventsAfter_perm _ _ _).nodup_iff.mpr ((events.distinct.of_map _).filter _)
  refine (sorted.and nodup).imp_of_mem fun {row row'} member member' both => ?_
  obtain ⟨stored, org, -⟩ := mem_eventsAfter.mp member
  obtain ⟨stored', org', -⟩ := mem_eventsAfter.mp member'
  refine Nat.lt_of_le_of_ne both.1 fun same => both.2 (Table.eq_of_key stored stored' ?_)
  rw [AuditEventRow.key, AuditEventRow.key, org, org', same]

theorem eventsAfter_later {events : AuditEvents} {orgId : String} {first later : Nat} (le : first ≤ later) :
    eventsAfter events orgId later = (eventsAfter events orgId first).filter fun row => later < row.sequence := by
  have sorted := eventsAfter_sorted events orgId later
  have sorted' := (eventsAfter_sorted events orgId first).filter fun row => decide (later < row.sequence)
  refine List.Perm.eq_of_pairwise (fun row row' _ _ less greater => ?_) sorted sorted' ?_
  · omega
  · refine (eventsAfter_perm _ _ _).trans (.trans ?_ ((eventsAfter_perm _ _ _).filter _).symm)
    rw [List.filter_filter]
    refine List.Perm.of_eq (List.filter_congr fun row _ => ?_)
    rw [← Bool.decide_and, decide_eq_decide]
    constructor
    · rintro ⟨org, less⟩
      exact ⟨less, org, le.trans_lt less⟩
    · rintro ⟨less, org, -⟩
      exact ⟨org, less⟩

theorem filter_after_take {rows : List AuditEventRow} {n : Nat} {last : AuditEventRow}
    (sorted : rows.Pairwise fun row row' => row.sequence < row'.sequence) (ends : (rows.take n).getLast? = some last) :
    rows.filter (fun row => last.sequence < row.sequence) = rows.drop n := by
  have inside : last ∈ rows.take n := List.mem_of_getLast? ends
  have parts := sorted
  rw [← List.take_append_drop n rows, List.pairwise_append] at parts
  conv_lhs => rw [← List.take_append_drop n rows]
  rw [List.filter_append, List.filter_eq_nil_iff.mpr, List.filter_eq_self.mpr, List.nil_append]
  · intro row member
    simpa using parts.2.2 last inside row member
  · intro row member
    obtain ⟨before, same⟩ := List.getLast?_eq_some_iff.mp ends
    rw [same] at member
    have first := parts.1
    rw [same, List.pairwise_append] at first
    rcases List.mem_append.mp member with member | member
    · have less := first.2.2 row member last (by simp)
      simp only [decide_eq_true_eq, not_lt]
      exact less.le
    · obtain rfl := List.mem_singleton.mp member
      simp

namespace Verification

theorem checkPage_append (state : Verification) (events events' : List AuditEventDetail) :
    state.checkPage host (events ++ events') =
      (state.checkPage host events).bind fun state => state.checkPage host events' := by
  induction events generalizing state with
  | nil => rfl
  | cons event events ih =>
    rw [List.cons_append, checkPage, checkPage]
    cases state.check host event with
    | error result => rfl
    | ok next => exact ih next

theorem check_ok {state state' : Verification} {event : AuditEventDetail} (checked : state.check host event = .ok state') :
    host.sha256 (canonicalJson host event.canonicalBody) = event.canonicalBodyHash ∧
      event.previousHash = state.previousHash ∧ expectedEventHash host event = event.eventHash ∧
      state' = ⟨some event.eventHash, state.checked + 1, event.sequence⟩ := by
  unfold check at checked
  simp only at checked
  split at checked
  · cases checked
  rename_i body
  split at checked
  · cases checked
  rename_i previous
  split at checked
  · cases checked
  rename_i hash
  exact ⟨not_not.mp body, not_not.mp previous, not_not.mp hash, (Except.ok.inj checked).symm⟩

theorem check_row {state : Verification} {row : AuditEventRow}
    (body : row.canonical_body_hash = host.sha256 (canonicalJson host row.canonical_body.value))
    (previous : row.previous_hash = state.previousHash)
    (hash : row.event_hash = eventHashOf host row.org_id row.canonical_body_hash row.previous_hash row.sequence) :
    state.check host (toDetail row) = .ok ⟨some row.event_hash, state.checked + 1, row.sequence⟩ := by
  simp [check, toDetail, sha256Hex, expectedEventHash, body, previous, hash]

theorem check_error {state : Verification} {event : AuditEventDetail} {result : VerifyAuditChainResult}
    (failed : state.check host event = .error result) : result.valid = false := by
  unfold check at failed
  simp only at failed
  split_ifs at failed <;> obtain rfl := Except.error.inj failed <;> rfl

theorem checkPage_error {state : Verification} {events : List AuditEventDetail} {result : VerifyAuditChainResult}
    (failed : state.checkPage host events = .error result) : result.valid = false := by
  induction events generalizing state with
  | nil => cases failed
  | cons event events ih =>
    rw [checkPage] at failed
    cases here : state.check host event with
    | error other =>
      rw [here] at failed
      obtain rfl := Except.error.inj failed
      exact check_error here
    | ok next =>
      rw [here] at failed
      exact ih failed

theorem finish_valid {state : Verification} {head : AuditEventHead} : (state.finish (some head)).valid = true ↔
    head.last_sequence = state.checked ∧ head.last_event_hash = state.previousHash := by
  unfold finish
  simp only
  split_ifs <;> simp_all

theorem checkPage_ok_append {state state' : Verification} {events events' : List AuditEventDetail}
    (checked : state.checkPage host (events ++ events') = .ok state') :
    ∃ middle, state.checkPage host events = .ok middle ∧ middle.checkPage host events' = .ok state' := by
  rw [checkPage_append] at checked
  cases first : state.checkPage host events with
  | error result =>
    rw [first] at checked
    cases checked
  | ok middle =>
    rw [first] at checked
    exact ⟨middle, rfl, checked⟩

theorem checkPage_concat {state state' : Verification} {events : List AuditEventDetail} {event : AuditEventDetail}
    (checked : state.checkPage host (events ++ [event]) = .ok state') :
    ∃ middle, state.checkPage host events = .ok middle ∧ middle.check host event = .ok state' := by
  obtain ⟨middle, first, last⟩ := checkPage_ok_append checked
  rw [checkPage] at last
  refine ⟨middle, first, ?_⟩
  cases here : middle.check host event with
  | error result =>
    rw [here] at last
    cases last
  | ok next =>
    rw [here] at last
    exact last

theorem checkPage_checked {state state' : Verification} {events : List AuditEventDetail}
    (checked : state.checkPage host events = .ok state') : state'.checked = state.checked + events.length := by
  induction events generalizing state with
  | nil =>
    obtain rfl := Except.ok.inj checked
    rfl
  | cons event events ih =>
    rw [checkPage] at checked
    cases here : state.check host event with
    | error result =>
      rw [here] at checked
      cases checked
    | ok next =>
      rw [here] at checked
      obtain ⟨-, -, -, rfl⟩ := check_ok here
      rw [ih checked, List.length_cons]
      simp only
      omega

theorem checkPage_after {state state' : Verification} {events : List AuditEventDetail} {last : AuditEventDetail}
    (checked : state.checkPage host events = .ok state') (ends : events.getLast? = some last) :
    state'.afterSequence = last.sequence := by
  obtain ⟨before, rfl⟩ := List.getLast?_eq_some_iff.mp ends
  obtain ⟨middle, -, here⟩ := checkPage_concat checked
  obtain ⟨-, -, -, rfl⟩ := check_ok here
  rfl

def verifyAll (host : Host) (head : Option AuditEventHead) (state : Verification) (events : List AuditEventDetail) :
    VerifyAuditChainResult :=
  match state.checkPage host events with
  | .error result => result
  | .ok state => state.finish head

end Verification

theorem verifyPages_eq (store : AuditStore) (orgId : String) (pages : Nat) (state : Verification)
    (enough : (eventsAfter store.events orgId state.afterSequence).length < pages) :
    verifyPages host store orgId pages state = state.verifyAll host (store.heads.find? orgId)
      ((eventsAfter store.events orgId state.afterSequence).map toDetail) := by
  induction pages generalizing state with
  | zero => omega
  | succ pages ih =>
    rw [verifyPages]
    generalize located : eventsAfter store.events orgId state.afterSequence = rows at enough
    have pageIs : auditPage store.events orgId state.afterSequence = rows.take VERIFY_PAGE_SIZE := by
      rw [auditPage, located]
    have parts : rows.map toDetail = (rows.take VERIFY_PAGE_SIZE).map toDetail ++
        (rows.drop VERIFY_PAGE_SIZE).map toDetail := by
      rw [← List.map_append, List.take_append_drop]
    rw [Verification.verifyAll, parts, Verification.checkPage_append, pageIs]
    cases page : rows.take VERIFY_PAGE_SIZE with
    | nil =>
      have nothing : rows = [] := by
        rcases List.take_eq_nil_iff.mp page with zero | nothing
        · cases zero
        · exact nothing
      subst nothing
      rfl
    | cons row rest =>
      simp only
      cases checked : state.checkPage host ((row :: rest).map toDetail) with
      | error result => rfl
      | ok next =>
        simp only [Except.bind]
        obtain ⟨last, ends⟩ : ∃ last, (row :: rest).getLast? = some last := ⟨_, List.getLast?_eq_some_getLast (by simp)⟩
        split
        · rename_i short
          rw [← page, List.length_take] at short
          have nothing : rows.drop VERIFY_PAGE_SIZE = [] := List.drop_eq_nil_iff.mpr (by omega)
          rw [nothing]
          rfl
        · have behind : next.afterSequence = last.sequence :=
            Verification.checkPage_after checked (by rw [List.getLast?_map, ends]; rfl)
          have sorted := eventsAfter_sorted store.events orgId state.afterSequence
          have inside : last ∈ eventsAfter store.events orgId state.afterSequence := by
            rw [located]
            exact List.mem_of_mem_take (by rw [page]; exact List.mem_of_getLast? ends)
          have rest : eventsAfter store.events orgId next.afterSequence = rows.drop VERIFY_PAGE_SIZE := by
            rw [behind, eventsAfter_later (mem_eventsAfter.mp inside).2.2.le, located]
            rw [located] at sorted
            exact filter_after_take sorted (by rw [page]; exact ends)
          have fewer : (rows.drop VERIFY_PAGE_SIZE).length < pages := by
            have some : 0 < rows.length := by
              have taken := congrArg List.length page
              rw [List.length_take, List.length_cons] at taken
              omega
            rw [List.length_drop, VERIFY_PAGE_SIZE]
            omega
          rw [ih next (by rw [rest]; exact fewer), rest]
          rfl

theorem verifyAuditChain_eq (store : AuditStore) (orgId : String) :
    verifyAuditChain host store orgId = Verification.start.verifyAll host (store.heads.find? orgId)
      ((eventsAfter store.events orgId 0).map toDetail) := by
  refine verifyPages_eq store orgId _ .start ?_
  have bound : (eventsAfter store.events orgId 0).length ≤ store.events.rows.length := by
    rw [(eventsAfter_perm _ _ _).length_eq]
    exact List.length_filter_le _ _
  show (eventsAfter store.events orgId 0).length < _
  omega

end AgentOps.Evidence
