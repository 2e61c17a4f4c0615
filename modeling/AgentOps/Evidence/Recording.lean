import AgentOps.Evidence.Chain

namespace AgentOps.Evidence
open Lib Identity

variable {host : Host} {parseJson : String → Option JsonData} {store store' : AuditStore} {orgId : String}
  {row : AuditEventRow}

/-! # What is recorded verifies -/

structure AuditCall where
  now : Time
  eventId : String
  input : RecordAuditEventInput

/-- Calls of `recordAuditEvent` one after the other, all of which succeed -/
def recordAll (host : Host) (parseJson : String → Option JsonData) : AuditStore → List AuditCall → Option AuditStore
  | store, [] => some store
  | store, call :: calls =>
    match recordAuditEvent host parseJson store call.now call.eventId call.input with
    | .error _ => none
    | .ok (store, _) => recordAll host parseJson store calls

def AuditStore.countOf (store : AuditStore) (orgId : String) : Nat :=
  store.events.rows.countP fun row => row.org_id = orgId

/-- However the database orders the keys it returns, the chain of the org is reported valid, with the right count. -/
def Verifies (host : Host) (store : AuditStore) (orgId : String) : Prop :=
  ∀ reading : Reading, verifyAuditChain host (reading.reread store) orgId = ⟨true, store.countOf orgId, none, none⟩

/-- The locale tells the keys of every object apart in what the call records. -/
def AuditCall.Distinguished (host : Host) (call : AuditCall) : Prop :=
  (buildCanonicalBody call.input).value.TieFree host.localeCompare

instance (call : AuditCall) : Decidable (call.Distinguished host) := by
  unfold AuditCall.Distinguished
  infer_instance

theorem length_eventsAfter (store : AuditStore) (orgId : String) :
    (eventsAfter store.events orgId 0).length = store.countOf orgId := by
  rw [(eventsAfter_perm _ _ _).length_eq, AuditStore.countOf, List.countP_eq_length_filter]
  congr 1
  refine List.filter_congr fun row _ => ?_
  simp [row.sequence_pos]

theorem appendEvent_ok {now : Time} {eventId : String} {input : RecordAuditEventInput} {canonicalBodyHash : Hash}
    (ok : appendEvent host parseJson store now eventId input canonicalBodyHash = .ok (store', row)) :
    ∃ head events', (insertHead store.heads input.orgId).find? input.orgId = some head ∧
      Inserted host store.events head input canonicalBodyHash events' row ∧
      store' = ⟨updateHead (insertHead store.heads input.orgId) row, events'⟩ := by
  unfold appendEvent at ok
  simp only at ok
  split at ok
  · cases ok
  rename_i head found
  split at ok
  · cases ok
  rename_i events row' inserted
  simp only [Except.ok.injEq, Prod.mk.injEq] at ok
  obtain ⟨rfl, rfl⟩ := ok
  exact ⟨head, events, found, insertEvent_ok inserted, rfl⟩

theorem findByKey_eq_some {events : AuditEvents} {key : String} (found : findByKey events orgId key = some row) :
    row ∈ events ∧ row.org_id = orgId ∧ row.idempotency_key = some key := by
  have matches_ := List.find?_some found
  simp only [decide_eq_true_eq] at matches_
  exact ⟨List.mem_of_find?_eq_some found, matches_⟩

theorem recordAuditEvent_ok {now : Time} {eventId : String} {input : RecordAuditEventInput}
    (ok : recordAuditEvent host parseJson store now eventId input = .ok (store', row)) :
    ∃ canonicalBodyHash, canonicalBodyHashOf host input = .ok canonicalBodyHash ∧
      (store' = store ∧ row ∈ store.events ∧ row.org_id = input.orgId ∧ row.canonical_body_hash = canonicalBodyHash ∨
        appendEvent host parseJson store now eventId input canonicalBodyHash = .ok (store', row)) := by
  unfold recordAuditEvent at ok
  split at ok
  · cases ok
  rename_i canonicalBodyHash hashed
  refine ⟨canonicalBodyHash, hashed, ?_⟩
  split at ok
  · rename_i existing found
    split_ifs at ok with same
    simp only [Except.ok.injEq, Prod.mk.injEq] at ok
    obtain ⟨rfl, rfl⟩ := ok
    obtain ⟨key, -, located⟩ := Option.bind_eq_some_iff.mp found
    obtain ⟨member, org, -⟩ := findByKey_eq_some located
    exact .inl ⟨rfl, member, org, not_not.mp same⟩
  · exact .inr ok

structure Recorded (host : Host) (calls : List AuditCall) (store : AuditStore) : Prop where
  chain : ∀ orgId, OrgChain host store orgId
  source : ∀ row ∈ store.events, ∃ call ∈ calls, call.input.orgId = row.org_id ∧
    row.canonical_body = buildCanonicalBody call.input
  stored : ∀ call ∈ calls, ∃ row ∈ store.events, row.org_id = call.input.orgId ∧
    row.canonical_body_hash = host.sha256 (canonicalJson host (buildCanonicalBody call.input).value)

theorem recorded_empty (host : Host) : Recorded host [] .empty where
  chain := orgChain_empty host
  source _ member := by cases member
  stored _ member := by cases member

theorem Recorded.call {calls : List AuditCall} {call : AuditCall} (recorded : Recorded host calls store)
    (ok : recordAuditEvent host parseJson store call.now call.eventId call.input = .ok (store', row)) :
    Recorded host (calls ++ [call]) store' := by
  obtain ⟨canonicalBodyHash, hashed, found | appended⟩ := recordAuditEvent_ok ok
  · obtain ⟨rfl, member, org, same⟩ := found
    refine ⟨recorded.chain, ?_, ?_⟩
    · intro other stored
      obtain ⟨source, earlier, from_⟩ := recorded.source other stored
      exact ⟨source, List.mem_append_left _ earlier, from_⟩
    · intro other called
      rcases List.mem_append.mp called with earlier | last
      · exact recorded.stored other earlier
      · obtain rfl := List.mem_singleton.mp last
        exact ⟨row, member, org, same.trans (canonicalBodyHashOf_ok hashed)⟩
  · obtain ⟨head, events', located, inserted, rfl⟩ := appendEvent_ok appended
    let opened : AuditStore := ⟨insertHead store.heads call.input.orgId, store.events⟩
    have headed : ∀ orgId, OrgChain host opened orgId := insertHead_orgChain recorded.chain _
    have appending : Inserted host opened.events head call.input canonicalBodyHash events' row := inserted
    have mem (other : AuditEventRow) : other ∈ events' ↔ other = row ∨ other ∈ store.events :=
      Table.mem_insert? inserted.inserted
    obtain ⟨now, eventId, externalRefs, payload, made⟩ := inserted.row
    refine ⟨appending.orgChain hashed headed located, ?_, ?_⟩
    · intro other member
      rcases (mem other).mp member with rfl | earlier
      · exact ⟨call, by simp, by rw [made]; rfl, by rw [made]; rfl⟩
      · obtain ⟨source, called, from_⟩ := recorded.source other earlier
        exact ⟨source, List.mem_append_left _ called, from_⟩
    · intro other called
      rcases List.mem_append.mp called with earlier | last
      · obtain ⟨found, member, from_⟩ := recorded.stored other earlier
        exact ⟨found, (mem found).mpr (.inr member), from_⟩
      · obtain rfl := List.mem_singleton.mp last
        refine ⟨row, (mem row).mpr (.inl rfl), by rw [made]; rfl, ?_⟩
        rw [made]
        exact canonicalBodyHashOf_ok hashed

theorem recordAll_recorded {done calls : List AuditCall} (recorded : Recorded host done store)
    (all : recordAll host parseJson store calls = some store') : Recorded host (done ++ calls) store' := by
  induction calls generalizing done store with
  | nil =>
    obtain rfl := Option.some.inj all
    simpa using recorded
  | cons call calls ih =>
    rw [recordAll] at all
    cases called : recordAuditEvent host parseJson store call.now call.eventId call.input with
    | error failure =>
      rw [called] at all
      cases all
    | ok result =>
      rw [called] at all
      have later := ih (recorded.call called) all
      rwa [List.append_assoc, List.singleton_append] at later

theorem verify_reread (reading : Reading) (store : AuditStore) (orgId : String) :
    verifyAuditChain host (reading.reread store) orgId = Verification.start.verifyAll host (store.heads.find? orgId)
      ((eventsAfter store.events orgId 0).map fun row => toDetail (reading.read row)) := by
  rw [verifyAuditChain_eq]
  have events : eventsAfter (reading.reread store).events orgId 0 =
      (eventsAfter store.events orgId 0).map reading.read := reading.eventsAfter_read _ _ _
  rw [events, List.map_map]
  rfl

theorem Linked.body {rows : List AuditEventRow} {previous : Option Hash} {n : Nat} (linked : Linked host previous n rows)
    (member : row ∈ rows) : row.canonical_body_hash = host.sha256 (canonicalJson host row.canonical_body.value) := by
  induction rows generalizing previous n with
  | nil => cases member
  | cons first rows ih =>
    rcases List.mem_cons.mp member with rfl | later
    · exact linked.1.body
    · exact ih linked.2 later

theorem OrgChain.verifies (chain : OrgChain host store orgId)
    (free : ∀ row ∈ eventsAfter store.events orgId 0, row.canonical_body.value.TieFree host.localeCompare) :
    Verifies host store orgId := by
  intro reading
  have checked : Verification.checkPage host ⟨none, 0, 0⟩
      ((eventsAfter store.events orgId 0).map fun row => toDetail (reading.read row)) = _ :=
    reading.checkPage_read chain.linked free 0
  rw [verify_reread, Verification.verifyAll, Verification.start, checked, Nat.zero_add, ← length_eventsAfter]
  simp only
  cases found : store.heads.find? orgId with
  | none => rfl
  | some head =>
    obtain ⟨counted, last⟩ := chain.head head found
    simp [Verification.finish, counted, last]

def Reading.reversed : Reading where
  body row := row.canonical_body.reversed
  same row := Json.same_reverseKeys row.canonical_body.distinct

theorem OrgChain.tieFree (chain : OrgChain host store orgId) (injective : Function.Injective host.sha256)
    (verifies : Verifies host store orgId) (member : row ∈ eventsAfter store.events orgId 0) :
    row.canonical_body.value.TieFree host.localeCompare := by
  have verdict := verifies .reversed
  rw [verify_reread, Verification.verifyAll] at verdict
  apply tieFree_of_reversed
  split at verdict
  · rename_i failed
    have invalid := Verification.checkPage_error failed
    rw [verdict] at invalid
    cases invalid
  · rename_i checked
    exact Reading.reversed.canonical_of_checkPage injective chain.linked checked row member

theorem tieFree_of_canonical {body body' : JsonData}
    (same : canonicalJson host body.value = canonicalJson host body'.value)
    (free : body.value.TieFree host.localeCompare) : body'.value.TieFree host.localeCompare :=
  (canonicalJson_inj same).tieFree.mp free

/-- The recorded chain verifies just when the locale tells the keys of every recorded object apart. -/
theorem recordAll_verifies_iff {calls : List AuditCall}
    (recorded : recordAll host parseJson .empty calls = some store) (orgId : String) :
    ((∀ call ∈ calls, call.input.orgId = orgId → call.Distinguished host) → Verifies host store orgId) ∧
      (Function.Injective host.sha256 → Verifies host store orgId →
        ∀ call ∈ calls, call.input.orgId = orgId → call.Distinguished host) := by
  obtain ⟨chain, source, stored⟩ : Recorded host calls store := by
    simpa using recordAll_recorded (recorded_empty host) recorded
  constructor
  · intro distinguished
    refine (chain orgId).verifies fun row member => ?_
    obtain ⟨inside, org, -⟩ := mem_eventsAfter.mp member
    obtain ⟨call, called, of, made⟩ := source row inside
    rw [made]
    exact distinguished call called (of.trans org)
  · intro injective verifies call called of
    obtain ⟨row, inside, org, hash⟩ := stored call called
    have member : row ∈ eventsAfter store.events orgId 0 := mem_eventsAfter.mpr ⟨inside, org.trans of, row.sequence_pos⟩
    have own := (chain orgId).linked.body member
    exact tieFree_of_canonical (injective (own.symm.trans hash)) ((chain orgId).tieFree injective verifies member)

namespace Accents

def weights (key : String) : List Nat :=
  key.toList.flatMap fun c => if c = '\u00e9' then ['e'.toNat, '\u0301'.toNat] else [c.toNat]

def collation : Host where
  localeCompare :=
    { le a b := KeyOrder.lexLe (weights a) (weights b)
      total _ _ := KeyOrder.lexLe_total _ _
      trans _ _ _ := KeyOrder.lexLe_trans _ _ _ }
  sha256 := id

def payload (a b : String) (distinct : Json.Distinct (.object [(a, .number "1"), (b, .number "2")])) : JsonData :=
  ⟨.object [(a, .number "1"), (b, .number "2")], distinct, rfl⟩

def input (payload : JsonData) : RecordAuditEventInput where
  orgId := "org"
  idempotencyKey := none
  eventType := "agent.updated"
  occurredAt := none
  actor := ⟨.user, none⟩
  action := "agent.update"
  outcome := .success
  reasonCode := none
  resource := none
  classification := none
  relations := none
  requestId := none
  source := none
  refs := none
  externalRefs := none
  retentionClass := none
  payload := some payload

/-- Two spellings of one letter as keys of the payload, the longer in bytes first: `jsonb` puts it last. -/
def accented : AuditCall := ⟨0, "aud", input (payload "e\u0301" "\u00e9" (by decide))⟩

def plain : AuditCall := ⟨0, "aud", input (payload "a" "b" (by decide))⟩

end Accents

/-- An event that was just recorded is reported as tampered with once the database reorders its keys. -/
theorem accented_fails : ∃ store, recordAll Accents.collation (fun _ => none) .empty [Accents.accented] = some store ∧
    ¬Verifies Accents.collation store "org" := by
  obtain ⟨store, recorded⟩ : ∃ store, recordAll Accents.collation (fun _ => none) .empty [Accents.accented] = some store :=
    Option.isSome_iff_exists.mp (by decide +kernel)
  obtain ⟨chain, source, stored⟩ : Recorded Accents.collation [Accents.accented] store :=
    recordAll_recorded (recorded_empty _) recorded
  refine ⟨store, recorded, fun verifies => ?_⟩
  obtain ⟨row, inside, org, -⟩ := stored Accents.accented (by simp)
  obtain ⟨call, called, -, made⟩ := source row inside
  obtain rfl := List.mem_singleton.mp called
  have free := (chain "org").tieFree Function.injective_id verifies
    (mem_eventsAfter.mpr ⟨inside, org, row.sequence_pos⟩)
  rw [made] at free
  revert free
  decide +kernel

theorem plain_verifies : ∃ store, recordAll Accents.collation (fun _ => none) .empty [Accents.plain] = some store ∧
    Verifies Accents.collation store "org" := by
  obtain ⟨store, recorded⟩ : ∃ store, recordAll Accents.collation (fun _ => none) .empty [Accents.plain] = some store :=
    Option.isSome_iff_exists.mp (by decide +kernel)
  refine ⟨store, recorded, (recordAll_verifies_iff recorded "org").1 fun call called _ => ?_⟩
  obtain rfl := List.mem_singleton.mp called
  decide +kernel

end AgentOps.Evidence
