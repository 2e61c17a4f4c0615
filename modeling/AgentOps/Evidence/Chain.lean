import AgentOps.Evidence.AuditQuery

namespace AgentOps.Evidence
open Lib Identity

variable {host : Host} {store : AuditStore} {orgId : String} {row : AuditEventRow} {rows : List AuditEventRow}

/-! # The chain that the writer builds -/

structure Follows (host : Host) (previous : Option Hash) (n : Nat) (row : AuditEventRow) : Prop where
  sequence : row.sequence = n + 1
  previous : row.previous_hash = previous
  body : row.canonical_body_hash = host.sha256 (canonicalJson host row.canonical_body.value)
  hash : row.event_hash = eventHashOf host row.org_id row.canonical_body_hash row.previous_hash row.sequence

def Linked (host : Host) : Option Hash → Nat → List AuditEventRow → Prop
  | _, _, [] => True
  | previous, n, row :: rows => Follows host previous n row ∧ Linked host (some row.event_hash) (n + 1) rows

def lastHash : Option Hash → List AuditEventRow → Option Hash
  | previous, [] => previous
  | _, row :: rows => lastHash (some row.event_hash) rows

theorem lastHash_append (previous : Option Hash) (rows more : List AuditEventRow) :
    lastHash previous (rows ++ more) = lastHash (lastHash previous rows) more := by
  induction rows generalizing previous with
  | nil => rfl
  | cons first rows ih => exact ih _

theorem lastHash_concat (previous : Option Hash) (rows : List AuditEventRow) (row : AuditEventRow) :
    lastHash previous (rows ++ [row]) = some row.event_hash := by
  rw [lastHash_append]
  rfl

theorem linked_append {previous : Option Hash} {n : Nat} {more : List AuditEventRow} :
    Linked host previous n (rows ++ more) ↔
      Linked host previous n rows ∧ Linked host (lastHash previous rows) (n + rows.length) more := by
  induction rows generalizing previous n with
  | nil => simp [Linked, lastHash]
  | cons first rows ih =>
    rw [List.cons_append, Linked, ih, Linked, lastHash, List.length_cons, and_assoc]
    have sums : n + 1 + rows.length = n + (rows.length + 1) := by omega
    rw [sums]

theorem linked_concat {previous : Option Hash} {n : Nat} : Linked host previous n (rows ++ [row]) ↔
    Linked host previous n rows ∧ Follows host (lastHash previous rows) (n + rows.length) row := by
  rw [linked_append]
  simp [Linked]

theorem Linked.sequence {previous : Option Hash} {n : Nat} (linked : Linked host previous n rows) (i : Nat)
    (bound : i < rows.length) : rows[i].sequence = n + i + 1 := by
  induction rows generalizing previous n i with
  | nil => cases bound
  | cons first rows ih =>
    cases i with
    | zero => exact linked.1.sequence
    | succ i =>
      have later := ih linked.2 i (by simpa using bound)
      simp only [List.getElem_cons_succ, later]
      omega

theorem Linked.previous {previous : Option Hash} {n : Nat} (linked : Linked host previous n rows) (i : Nat)
    (bound : i + 1 < rows.length) : rows[i + 1].previous_hash = some rows[i].event_hash := by
  induction rows generalizing previous n i with
  | nil => cases bound
  | cons first rows ih =>
    cases rows with
    | nil => simp at bound
    | cons second rows =>
      cases i with
      | zero => exact linked.2.1.previous
      | succ i => exact ih linked.2 i (by simpa using bound)

structure OrgChain (host : Host) (store : AuditStore) (orgId : String) : Prop where
  linked : Linked host none 0 (eventsAfter store.events orgId 0)
  head : ∀ head ∈ store.heads.find? orgId, head.last_sequence = (eventsAfter store.events orgId 0).length ∧
    head.last_event_hash = lastHash none (eventsAfter store.events orgId 0)
  headed : eventsAfter store.events orgId 0 ≠ [] → (store.heads.find? orgId).isSome

def KeysOnce (events : AuditEvents) : Prop :=
  ∀ row ∈ events, ∀ row' ∈ events, row.org_id = row'.org_id → ∀ key, row.idempotency_key = some key →
    row'.idempotency_key = some key → row = row'

def AuditStore.empty : AuditStore := ⟨.empty, .empty⟩

theorem orgChain_empty (host : Host) (orgId : String) : OrgChain host .empty orgId :=
  ⟨trivial, fun _ found => (by cases found), fun nonempty => (nonempty rfl).elim⟩

theorem keysOnce_empty : KeysOnce AuditStore.empty.events := fun row member => by cases member

theorem eventsAfter_insert_other {events events' : AuditEvents} (inserted : events.insert? row = some events')
    (other : row.org_id ≠ orgId) : eventsAfter events' orgId 0 = eventsAfter events orgId 0 := by
  rw [eventsAfter, eventsAfter, (Table.insert?_eq_some inserted).1, List.filter_cons_of_neg (by simp [other])]

theorem eventsAfter_insert {events events' : AuditEvents} (inserted : events.insert? row = some events')
    (org : row.org_id = orgId) (last : ∀ other ∈ eventsAfter events orgId 0, other.sequence < row.sequence) :
    eventsAfter events' orgId 0 = eventsAfter events orgId 0 ++ [row] := by
  have sorted := eventsAfter_sorted events' orgId 0
  have sorted' : (eventsAfter events orgId 0 ++ [row]).Pairwise fun row row' => row.sequence < row'.sequence := by
    rw [List.pairwise_append]
    refine ⟨eventsAfter_sorted events orgId 0, List.pairwise_singleton _ _, fun other member row' member' => ?_⟩
    obtain rfl := List.mem_singleton.mp member'
    exact last other member
  refine List.Perm.eq_of_pairwise (fun row row' _ _ less greater => ?_) sorted sorted' ?_
  · omega
  · refine (eventsAfter_perm _ _ _).trans ?_
    rw [(Table.insert?_eq_some inserted).1, List.filter_cons_of_pos (by simp [org, row.sequence_pos])]
    exact ((eventsAfter_perm _ _ _).symm.cons row).trans (List.perm_append_singleton row _).symm

/-- What `insertEvent` inserts and checks -/
structure Inserted (host : Host) (events : AuditEvents) (head : AuditEventHead) (input : RecordAuditEventInput)
    (canonicalBodyHash : Hash) (events' : AuditEvents) (row : AuditEventRow) : Prop where
  inserted : events.insert? row = some events'
  fresh : ∀ key, row.idempotency_key = some key → findByKey events row.org_id key = none
  row : ∃ now eventId externalRefs payload,
    row = eventRow host head now eventId input canonicalBodyHash externalRefs payload

theorem insertEvent_ok {parseJson : String → Option JsonData} {events events' : AuditEvents} {head : AuditEventHead}
    {now : Time} {eventId : String} {input : RecordAuditEventInput} {canonicalBodyHash : Hash}
    (ok : insertEvent host parseJson events head now eventId input canonicalBodyHash = .ok (events', row)) :
    Inserted host events head input canonicalBodyHash events' row := by
  unfold insertEvent at ok
  split at ok
  · rename_i externalRefs payload _ _
    simp only at ok
    split_ifs at ok with storable refs ids hashes keys
    split at ok
    · cases ok
    rename_i events'' inserted
    simp only [Except.ok.injEq, Prod.mk.injEq] at ok
    obtain ⟨rfl, rfl⟩ := ok
    refine ⟨inserted, fun key same => ?_, now, eventId, externalRefs, payload, rfl⟩
    simpa [same] using keys
  · cases ok

theorem findByKey_eq_none {events : AuditEvents} {key : String} (missing : findByKey events orgId key = none)
    (member : row ∈ events) (org : row.org_id = orgId) : row.idempotency_key ≠ some key := by
  intro same
  have other := List.find?_eq_none.mp missing row member
  simp [org, same] at other

theorem Inserted.keysOnce {events events' : AuditEvents} {head : AuditEventHead} {input : RecordAuditEventInput}
    {canonicalBodyHash : Hash} (inserted : Inserted host events head input canonicalBodyHash events' row)
    (once : KeysOnce events) : KeysOnce events' := by
  intro a member b member' org key keyA keyB
  rcases (Table.mem_insert? inserted.inserted).mp member with rfl | member
  · rcases (Table.mem_insert? inserted.inserted).mp member' with rfl | member'
    · rfl
    · exact (findByKey_eq_none (inserted.fresh key keyA) member' org.symm keyB).elim
  · rcases (Table.mem_insert? inserted.inserted).mp member' with rfl | member'
    · exact (findByKey_eq_none (inserted.fresh key keyB) member org keyA).elim
    · exact once a member b member' org key keyA keyB

theorem canonicalBodyHashOf_ok {input : RecordAuditEventInput} {canonicalBodyHash : Hash}
    (hashed : canonicalBodyHashOf host input = .ok canonicalBodyHash) :
    canonicalBodyHash = host.sha256 (canonicalJson host (buildCanonicalBody input).value) := by
  unfold canonicalBodyHashOf at hashed
  split at hashed
  · exact (Except.ok.inj hashed).symm
  · cases hashed

theorem Inserted.events {store : AuditStore} {events' : AuditEvents} {head : AuditEventHead}
    {input : RecordAuditEventInput} {canonicalBodyHash : Hash}
    (inserted : Inserted host store.events head input canonicalBodyHash events' row)
    (chain : OrgChain host store input.orgId) (found : store.heads.find? input.orgId = some head) :
    eventsAfter events' input.orgId 0 = eventsAfter store.events input.orgId 0 ++ [row] := by
  obtain ⟨now, eventId, externalRefs, payload, rfl⟩ := inserted.row
  refine eventsAfter_insert inserted.inserted rfl fun other member => ?_
  obtain ⟨i, bound, rfl⟩ := List.getElem_of_mem member
  have number := chain.linked.sequence i bound
  have counted := (chain.head head found).1
  show _ < head.last_sequence + 1
  omega

theorem Inserted.follows {store : AuditStore} {events' : AuditEvents} {head : AuditEventHead}
    {input : RecordAuditEventInput} {canonicalBodyHash : Hash}
    (inserted : Inserted host store.events head input canonicalBodyHash events' row)
    (hashed : canonicalBodyHashOf host input = .ok canonicalBodyHash) (chain : OrgChain host store input.orgId)
    (found : store.heads.find? input.orgId = some head) :
    Follows host (lastHash none (eventsAfter store.events input.orgId 0)) (eventsAfter store.events input.orgId 0).length
      row := by
  obtain ⟨now, eventId, externalRefs, payload, rfl⟩ := inserted.row
  obtain ⟨counted, last⟩ := chain.head head found
  refine ⟨?_, last, canonicalBodyHashOf_ok hashed, rfl⟩
  rw [← counted]
  rfl

theorem Inserted.orgChain {store : AuditStore} {events' : AuditEvents} {head : AuditEventHead}
    {input : RecordAuditEventInput} {canonicalBodyHash : Hash}
    (inserted : Inserted host store.events head input canonicalBodyHash events' row)
    (hashed : canonicalBodyHashOf host input = .ok canonicalBodyHash)
    (chain : ∀ orgId, OrgChain host store orgId) (found : store.heads.find? input.orgId = some head) (orgId : String) :
    OrgChain host ⟨updateHead store.heads row, events'⟩ orgId := by
  have org : row.org_id = input.orgId := by
    obtain ⟨now, eventId, externalRefs, payload, rfl⟩ := inserted.row
    rfl
  have stored : store.heads.find? (AuditEventHead.org_id ⟨row.org_id, row.sequence, some row.event_hash⟩) =
      some head := by
    simp only [org]
    exact found
  by_cases same : orgId = input.orgId
  · subst same
    have events := inserted.events (chain _) found
    have follows := inserted.follows hashed (chain _) found
    refine ⟨?_, ?_, ?_⟩
    · show Linked host none 0 (eventsAfter events' input.orgId 0)
      rw [events, linked_concat, Nat.zero_add]
      exact ⟨(chain _).linked, follows⟩
    · intro head' located
      rw [updateHead, ← org] at located
      have put := Table.find?_put_self stored
      obtain rfl := Option.some.inj (located.symm.trans put)
      simp only [events, List.length_append, List.length_singleton, lastHash_concat, and_true]
      exact follows.sequence
    · intro _
      rw [updateHead, ← org, Table.find?_put_self stored]
      rfl
  · have events : eventsAfter events' orgId 0 = eventsAfter store.events orgId 0 :=
      eventsAfter_insert_other inserted.inserted (by rw [org]; exact Ne.symm same)
    have heads : (updateHead store.heads row).find? orgId = store.heads.find? orgId := by
      refine Table.find?_put_ne ?_
      show row.org_id ≠ orgId
      rw [org]
      exact Ne.symm same
    obtain ⟨linked, head, headed⟩ := chain orgId
    refine ⟨?_, ?_, ?_⟩
    · show Linked host none 0 (eventsAfter events' orgId 0)
      rw [events]
      exact linked
    · rw [events, heads]
      exact head
    · rw [events, heads]
      exact headed

theorem insertHead_orgChain (chain : ∀ orgId, OrgChain host store orgId) (inserting orgId : String) :
    OrgChain host ⟨insertHead store.heads inserting, store.events⟩ orgId := by
  obtain ⟨linked, head, headed⟩ := chain orgId
  unfold insertHead
  cases inserted : store.heads.insert? ⟨inserting, 0, none⟩ with
  | none => exact ⟨linked, head, headed⟩
  | some heads =>
    have missing := (Table.insert?_eq_some inserted).2
    by_cases same : inserting = orgId
    · subst same
      have nothing : eventsAfter store.events inserting 0 = [] := by
        by_contra nonempty
        have found := headed nonempty
        rw [missing] at found
        cases found
      refine ⟨linked, ?_, fun nonempty => (nonempty nothing).elim⟩
      intro head' located
      have self := Table.find?_insert?_self inserted
      obtain rfl := Option.some.inj (located.symm.trans self)
      simp only [nothing]
      exact ⟨rfl, rfl⟩
    · have heads' : heads.find? orgId = store.heads.find? orgId := Table.find?_insert?_ne inserted same
      refine ⟨linked, ?_, ?_⟩
      · intro head' located
        exact head head' (heads'.symm.trans located)
      · intro nonempty
        show (heads.find? orgId).isSome
        rw [heads']
        exact headed nonempty

def AuditEventRow.reread (row : AuditEventRow) (body : JsonData) : AuditEventRow := { row with canonical_body := body }

structure Reading where
  body : AuditEventRow → JsonData
  same : ∀ row, (body row).value.Same row.canonical_body.value

namespace Reading

variable (reading : Reading)

def read (row : AuditEventRow) : AuditEventRow := row.reread (reading.body row)

theorem checkPage_read {previous : Option Hash} {n : Nat} (linked : Linked host previous n rows)
    (free : ∀ row ∈ rows, row.canonical_body.value.TieFree host.localeCompare) (checked : Nat) :
    Verification.checkPage host ⟨previous, checked, n⟩ (rows.map fun row => toDetail (reading.read row)) =
      .ok ⟨lastHash previous rows, checked + rows.length, n + rows.length⟩ := by
  induction rows generalizing previous n checked with
  | nil => rfl
  | cons row rows ih =>
    obtain ⟨follows, rest⟩ := linked
    have body : (reading.read row).canonical_body_hash =
        host.sha256 (canonicalJson host (reading.read row).canonical_body.value) := by
      show row.canonical_body_hash = host.sha256 (canonicalJson host (reading.body row).value)
      rw [← canonicalJson_same (reading.same row).symm (free row (by simp))]
      exact follows.body
    have before : (reading.read row).previous_hash =
        (⟨previous, checked, n⟩ : Verification).previousHash := follows.previous
    have hash : (reading.read row).event_hash = eventHashOf host (reading.read row).org_id
        (reading.read row).canonical_body_hash (reading.read row).previous_hash (reading.read row).sequence :=
      follows.hash
    have number : (reading.read row).sequence = n + 1 := follows.sequence
    rw [List.map_cons, Verification.checkPage, Verification.check_row body before hash, number]
    simp only [lastHash, List.length_cons]
    rw [← Nat.add_assoc, Nat.add_right_comm, ← Nat.add_assoc, Nat.add_right_comm n]
    exact ih rest (fun row member => free row (List.mem_cons_of_mem _ member)) _

theorem canonical_of_check {state state' : Verification} {previous : Option Hash} {n : Nat}
    (injective : Function.Injective host.sha256) (follows : Follows host previous n row)
    (checked : state.check host (toDetail (reading.read row)) = .ok state') :
    canonicalJson host (reading.body row).value = canonicalJson host row.canonical_body.value := by
  obtain ⟨body, -⟩ := Verification.check_ok checked
  exact injective (body.trans follows.body)

theorem canonical_of_checkPage {state state' : Verification} {previous : Option Hash} {n : Nat}
    (injective : Function.Injective host.sha256) (linked : Linked host previous n rows)
    (checked : state.checkPage host (rows.map fun row => toDetail (reading.read row)) = .ok state') :
    ∀ row ∈ rows, canonicalJson host (reading.body row).value = canonicalJson host row.canonical_body.value := by
  induction rows generalizing state previous n with
  | nil => simp
  | cons row rows ih =>
    rw [List.map_cons, Verification.checkPage] at checked
    cases here : state.check host (toDetail (reading.read row)) with
    | error result =>
      rw [here] at checked
      cases checked
    | ok next =>
      rw [here] at checked
      exact List.forall_mem_cons.mpr ⟨reading.canonical_of_check injective linked.1 here, ih linked.2 checked⟩

theorem eventsAfter_read (events : AuditEvents) (orgId : String) (afterSequence : Nat) :
    eventsAfter (events.rewrite reading.read fun _ => rfl) orgId afterSequence =
      (eventsAfter events orgId afterSequence).map reading.read := by
  unfold eventsAfter
  rw [List.map_insertionSort bySequence bySequence reading.read _ fun _ _ _ _ => Iff.rfl]
  simp only [Table.rewrite, List.filter_map]
  rfl

def reread (stored : AuditStore) : AuditStore :=
  { stored with events := stored.events.rewrite reading.read fun _ => rfl }

end Reading

end AgentOps.Evidence
