import AgentOps.Evidence.Protocol

namespace AgentOps.Evidence
open Lib Identity

variable {env : Setting} {recordable : AuditCall → Prop} {s s' : State} {store : AuditStore} {id : WriterId}
  {phase phase' : WriterPhase} {label : Label} {events : List (State × Label)}

/-! # One chain, whatever writers and verifiers do -/

structure Whole (env : Setting) (recordable : AuditCall → Prop) (store : AuditStore) : Prop where
  chain : ∀ orgId, OrgChain env.host store orgId
  once : KeysOnce store.events
  source : ∀ row ∈ store.events, ∃ call, recordable call ∧ row.canonical_body = buildCanonicalBody call.input

def rowsOf (env : Setting) (store : AuditStore) : List AuditEventRow := eventsAfter store.events env.orgId 0

def WriterPhase.settled (phase : WriterPhase) (store : AuditStore) : AuditStore :=
  match phase with
  | .inserted row => ⟨updateHead store.heads row, store.events⟩
  | _ => store

structure CallSound (env : Setting) (recordable : AuditCall → Prop) (call : AuditCall) (canonicalBodyHash : Hash) :
    Prop where
  allowed : recordable call
  org : call.input.orgId = env.orgId
  hashed : canonicalBodyHashOf env.host call.input = .ok canonicalBodyHash

def PhaseSound (env : Setting) (recordable : AuditCall → Prop) (holder : Option Holder) (id : WriterId) :
    WriterPhase → Prop
  | .keyed call canonicalBodyHash _ | .fresh call canonicalBodyHash | .opened call canonicalBodyHash =>
    CallSound env recordable call canonicalBodyHash
  | .locked call canonicalBodyHash head => CallSound env recordable call canonicalBodyHash ∧
    ∃ store, holder = some ⟨id, store⟩ ∧ store.heads.find? env.orgId = some head
  | .inserted _ => ∃ store, holder = some ⟨id, store⟩
  | .idle _ | .failed | .ended => True

structure Sound (env : Setting) (recordable : AuditCall → Prop) (s : State) : Prop where
  committed : Whole env recordable s.committed
  held : ∀ holder, s.holder = some holder → ∃ phase, s.writers.find? holder.writer = some ⟨holder.writer, phase⟩ ∧
    Whole env recordable (phase.settled holder.store)
  extended : ∀ holder, s.holder = some holder → rowsOf env s.committed <+: rowsOf env holder.store
  writers : ∀ writer ∈ s.writers, PhaseSound env recordable s.holder writer.id writer.phase

theorem whole_empty (env : Setting) (recordable : AuditCall → Prop) : Whole env recordable .empty where
  chain := orgChain_empty env.host
  once := keysOnce_empty
  source _ member := by cases member

theorem sound_empty (env : Setting) (recordable : AuditCall → Prop) : Sound env recordable .empty where
  committed := whole_empty env recordable
  held _ held := by cases held
  extended _ held := by cases held
  writers _ member := by cases member

theorem view_of_held {holder : Holder} (held : s.holder = some holder) : s.view holder.writer = holder.store := by
  simp [State.view, held]

theorem view_of_other (other : ∀ holder, s.holder = some holder → holder.writer ≠ id) : s.view id = s.committed := by
  unfold State.view
  cases held : s.holder with
  | none => rfl
  | some holder => simp [other holder held]

theorem Sound.phaseSound (sound : Sound env recordable s) (found : s.writers.find? id = some ⟨id, phase⟩) :
    PhaseSound env recordable s.holder id phase :=
  sound.writers _ (Table.mem_of_find? found)

theorem Sound.view (sound : Sound env recordable s) (found : s.writers.find? id = some ⟨id, phase⟩) :
    Whole env recordable (phase.settled (s.view id)) ∧ rowsOf env s.committed <+: rowsOf env (s.view id) := by
  by_cases holds : ∃ holder, s.holder = some holder ∧ holder.writer = id
  · obtain ⟨holder, held, rfl⟩ := holds
    obtain ⟨other, found', whole⟩ := sound.held holder held
    obtain rfl : phase = other := by simpa using found.symm.trans found'
    rw [view_of_held held]
    exact ⟨whole, sound.extended holder held⟩
  · have other : ∀ holder, s.holder = some holder → holder.writer ≠ id := fun holder held same =>
      holds ⟨holder, held, same⟩
    rw [view_of_other other]
    refine ⟨?_, List.prefix_rfl⟩
    cases phase
    case inserted row =>
      obtain ⟨store, held⟩ := sound.phaseSound found
      exact (other _ held rfl).elim
    all_goals exact sound.committed

theorem find?_writer_put {writers : Table Writer.id} {old : Writer} (found : writers.find? id = some old) :
    (writers.put ⟨id, phase⟩).find? id = some ⟨id, phase⟩ := by
  have put : (writers.put ⟨id, phase⟩).find? (Writer.id ⟨id, phase⟩) = some ⟨id, phase⟩ := Table.find?_put_self found
  exact put

theorem Sound.setWriter (sound : Sound env recordable s) (found : s.writers.find? id = some ⟨id, phase⟩)
    (settles : ∀ store, phase'.settled store = phase.settled store)
    (moved : PhaseSound env recordable s.holder id phase') : Sound env recordable (s.setWriter id phase') := by
  have put : (s.writers.put ⟨id, phase'⟩).find? id = some ⟨id, phase'⟩ := find?_writer_put found
  refine ⟨sound.committed, ?_, sound.extended, ?_⟩
  · intro holder held
    obtain ⟨other, found', whole⟩ := sound.held holder held
    by_cases same : holder.writer = id
    · rw [same] at found'
      obtain rfl : phase = other := by simpa using found.symm.trans found'
      refine ⟨phase', ?_, ?_⟩
      · rw [same]
        exact put
      · rw [settles]
        exact whole
    · refine ⟨other, ?_, whole⟩
      exact (Table.find?_put_ne (Ne.symm same)).trans found'
  · intro writer member
    rcases Table.mem_put.mp member with ⟨stored, -⟩ | ⟨rfl, -⟩
    · exact sound.writers writer stored
    · exact moved

theorem Sound.hold (sound : Sound env recordable s) (found : s.writers.find? id = some ⟨id, phase⟩)
    (free : s.free id = true) (whole : Whole env recordable (phase'.settled store))
    (extended : rowsOf env (s.view id) <+: rowsOf env store)
    (moved : PhaseSound env recordable (some ⟨id, store⟩) id phase') :
    Sound env recordable ((s.hold id store).setWriter id phase') := by
  have put : (s.writers.put ⟨id, phase'⟩).find? id = some ⟨id, phase'⟩ := find?_writer_put found
  have unheld : ∀ other, other ≠ id → ∀ store, s.holder ≠ some ⟨other, store⟩ := by
    intro other different store held
    simp [State.free, held, different] at free
  refine ⟨sound.committed, ?_, ?_, ?_⟩
  · intro holder held
    obtain rfl := Option.some.inj held
    exact ⟨phase', put, whole⟩
  · intro holder held
    obtain rfl := Option.some.inj held
    exact (sound.view found).2.trans extended
  · intro writer member
    rcases Table.mem_put.mp member with ⟨stored, different⟩ | ⟨rfl, -⟩
    · have before := sound.writers writer stored
      revert before
      cases writer.phase
      case locked =>
        rintro ⟨-, store, held, -⟩
        exact (unheld _ different _ held).elim
      case inserted =>
        rintro ⟨store, held⟩
        exact (unheld _ different _ held).elim
      all_goals exact fun before => before
    · exact moved

theorem Sound.finish (sound : Sound env recordable s) (found : s.writers.find? id = some ⟨id, phase⟩)
    (committed : store = s.committed ∨ store = s.view id ∧ ∀ store, phase.settled store = store) :
    Sound env recordable (({ s with committed := store }.release id).setWriter id .ended) := by
  have kept : ∀ holder, (s.holder.filter fun holder => holder.writer ≠ id) = some holder →
      s.holder = some holder ∧ holder.writer ≠ id := fun holder left => by
    simpa [Option.filter_eq_some_iff] using left
  have unchanged : ∀ holder, s.holder = some holder → holder.writer ≠ id → store = s.committed := by
    intro holder held different
    rcases committed with same | ⟨viewed, -⟩
    · exact same
    · rw [viewed]
      refine view_of_other fun other held' => ?_
      obtain rfl := Option.some.inj (held.symm.trans held')
      exact different
  refine ⟨?_, ?_, ?_, ?_⟩
  · show Whole env recordable store
    rcases committed with rfl | ⟨rfl, settled⟩
    · exact sound.committed
    · have whole := (sound.view found).1
      rwa [settled] at whole
  · intro holder left
    obtain ⟨held, different⟩ := kept holder left
    obtain ⟨other, found', whole⟩ := sound.held holder held
    exact ⟨other, (Table.find?_put_ne (Ne.symm different)).trans found', whole⟩
  · intro holder left
    obtain ⟨held, different⟩ := kept holder left
    show rowsOf env store <+: _
    rw [unchanged holder held different]
    exact sound.extended holder held
  · intro writer member
    rcases Table.mem_put.mp member with ⟨stored, different⟩ | ⟨rfl, -⟩
    · have before := sound.writers writer stored
      have released {store : AuditStore} (held : s.holder = some ⟨writer.id, store⟩) :
          (s.holder.filter fun holder => holder.writer ≠ id) = some ⟨writer.id, store⟩ := by
        rw [held, Option.filter_some, if_pos]
        simpa using different
      revert before
      show PhaseSound env recordable s.holder writer.id writer.phase →
        PhaseSound env recordable (s.holder.filter fun holder => holder.writer ≠ id) writer.id writer.phase
      cases writer.phase
      case locked =>
        rintro ⟨call, store, held, head⟩
        exact ⟨call, store, released held, head⟩
      case inserted =>
        rintro ⟨store, held⟩
        exact ⟨store, released held⟩
      all_goals exact fun before => before
    · trivial

theorem startCall_sound {call : AuditCall} {holder : Option Holder} (allowed : recordable call)
    (org : call.input.orgId = env.orgId) : PhaseSound env recordable holder id (startCall env.host call) := by
  unfold startCall
  split
  · trivial
  · rename_i canonicalBodyHash hashed
    split <;> exact ⟨allowed, org, hashed⟩

theorem afterFind_sound {call : AuditCall} {canonicalBodyHash : Hash} {holder : Option Holder}
    (sound : CallSound env recordable call canonicalBodyHash) (existing : Option AuditEventRow) :
    PhaseSound env recordable holder id (afterFind call canonicalBodyHash existing) := by
  unfold afterFind
  split
  · split <;> trivial
  · exact sound

theorem Sound.insertHead {call : AuditCall} {canonicalBodyHash : Hash} {opened : State}
    (sound : Sound env recordable s) (found : s.writers.find? id = some ⟨id, .fresh call canonicalBodyHash⟩)
    (inserted : s.insertHead env.orgId id = some opened) :
    Sound env recordable (opened.setWriter id (.opened call canonicalBodyHash)) := by
  have called := sound.phaseSound found
  obtain ⟨whole, extended⟩ := sound.view found
  unfold State.insertHead at inserted
  split at inserted
  · obtain rfl := Option.some.inj inserted
    exact sound.setWriter found (fun _ => rfl) called
  · split_ifs at inserted with free
    obtain rfl := Option.some.inj inserted
    exact sound.hold found free ⟨insertHead_orgChain whole.chain _, whole.once, whole.source⟩ List.prefix_rfl called

theorem Sound.insertEvent {call : AuditCall} {canonicalBodyHash : Hash} {head : AuditEventHead} {rows : AuditEvents}
    {row : AuditEventRow} (sound : Sound env recordable s)
    (found : s.writers.find? id = some ⟨id, .locked call canonicalBodyHash head⟩)
    (inserted : Inserted env.host (s.view id).events head call.input canonicalBodyHash rows row) :
    Sound env recordable ((s.hold id ⟨(s.view id).heads, rows⟩).setWriter id (.inserted row)) := by
  obtain ⟨called, store, held, located⟩ := sound.phaseSound found
  obtain ⟨whole, -⟩ := sound.view found
  have viewed : s.view id = store := view_of_held held
  rw [viewed] at inserted whole ⊢
  have located' : store.heads.find? call.input.orgId = some head := by
    rw [called.org]
    exact located
  have free : s.free id = true := by simp [State.free, held]
  obtain ⟨now, eventId, externalRefs, payload, made⟩ := inserted.row
  refine sound.hold found free ⟨inserted.orgChain called.hashed whole.chain located', inserted.keysOnce whole.once, ?_⟩
    ?_ ⟨_, rfl⟩
  · intro other member
    rcases (Table.mem_insert? inserted.inserted).mp member with rfl | earlier
    · exact ⟨call, called.allowed, by rw [made]; rfl⟩
    · exact whole.source other earlier
  · have appended := inserted.events (whole.chain _) located'
    rw [called.org] at appended
    rw [viewed, rowsOf, rowsOf, appended]
    exact List.prefix_append _ _

def Records (recordable : AuditCall → Prop) (_ : State) (label : Label) : Prop :=
  ∀ id call, label = .recordAuditEvent id call → recordable call

theorem Sound.step (sound : Sound env recordable s) (allowed : Records recordable s label) (taken : Step env s label s') :
    Sound env recordable s' := by
  cases taken with
  | @begin id writers inserted =>
    obtain ⟨committed, held, extended, old⟩ := sound
    refine ⟨committed, ?_, extended, ?_⟩
    · intro holder holds
      obtain ⟨phase, found, whole⟩ := held holder holds
      exact ⟨phase, Table.find?_insert?_of_find? inserted found, whole⟩
    · intro writer member
      rcases (Table.mem_insert? inserted).mp member with rfl | earlier
      · trivial
      · exact old writer earlier
  | @recordAuditEvent id call answer found org =>
    refine sound.setWriter found (fun store => ?_) (startCall_sound (allowed id call rfl) org)
    unfold startCall
    split
    · rfl
    · split <;> rfl
  | @findExisting id call canonicalBodyHash key found =>
    refine sound.setWriter found (fun store => ?_) (afterFind_sound (sound.phaseSound found) _)
    unfold afterFind
    split
    · split <;> rfl
    · rfl
  | insertHead found inserted => exact sound.insertHead found inserted
  | headMissing found => exact sound.setWriter found (fun _ => rfl) trivial
  | lockHead found free located =>
    obtain ⟨whole, -⟩ := sound.view found
    exact sound.hold found free whole List.prefix_rfl ⟨sound.phaseSound found, _, rfl, located⟩
  | insertFails found => exact sound.setWriter found (fun _ => rfl) trivial
  | insertEvent found inserted => exact sound.insertEvent found inserted
  | @updateHead id row found =>
    obtain ⟨store, held⟩ := sound.phaseSound found
    obtain ⟨whole, -⟩ := sound.view found
    have free : s.free id = true := by simp [State.free, held]
    exact sound.hold found free whole List.prefix_rfl trivial
  | commit found => exact sound.finish found (.inr ⟨rfl, fun _ => rfl⟩)
  | @rollback id writer found =>
    obtain rfl := Table.key_of_find? found
    exact sound.finish found (.inl rfl)
  | verifyAuditChain _ | readPage _ | readHead _ => exact ⟨sound.committed, sound.held, sound.extended, sound.writers⟩

theorem reachable_sound (run : Run (step env) .empty events s) (allowed : Conforms (Records recordable) events) :
    Sound env recordable s :=
  run.invariant (Sound env recordable) allowed (sound_empty env recordable)
    fun _ _ _ sound allowed taken => sound.step allowed (step_inversion taken)

def walkOf (rows : List AuditEventRow) (n : Nat) : Verification := ⟨lastHash none (rows.take n), n, n⟩

def VerifierSound (rows : List AuditEventRow) : VerifierPhase → Prop
  | .walking state => ∃ n ≤ rows.length, state = walkOf rows n
  | .walked state => state = walkOf rows rows.length
  | .finished result => result.valid = true

theorem linked_after {host : Host} {previous : Option Hash} {n : Nat} {rows : List AuditEventRow}
    (linked : Linked host previous n rows) (k : Nat) :
    rows.filter (fun row => n + k < row.sequence) = rows.drop k := by
  induction rows generalizing previous n k with
  | nil => simp
  | cons first rows ih =>
    have number := linked.1.sequence
    cases k with
    | zero =>
      have rest := ih linked.2 0
      have later : ∀ row ∈ rows, n < row.sequence := by
        intro row member
        obtain ⟨i, bound, rfl⟩ := List.getElem_of_mem member
        rw [linked.2.sequence i bound]
        omega
      rw [List.drop_zero, List.filter_eq_self]
      intro row member
      rcases List.mem_cons.mp member with rfl | member
      · simp [number]
      · simpa using later row member
    | succ k =>
      rw [List.filter_cons_of_neg (by simp [number]), List.drop_succ_cons, ← ih linked.2 k]
      refine List.filter_congr fun row _ => ?_
      rw [decide_eq_decide]
      omega

theorem afterPage_sound {n : Nat} (chain : OrgChain env.host store env.orgId)
    (free : ∀ row ∈ rowsOf env store, row.canonical_body.value.TieFree env.host.localeCompare)
    (inside : n ≤ (rowsOf env store).length) :
    VerifierSound (rowsOf env store) (afterPage env (walkOf (rowsOf env store) n) (auditPage store.events env.orgId n)) := by
  have linked := chain.linked
  change Linked env.host none 0 (rowsOf env store) at linked
  have behind : eventsAfter store.events env.orgId n = (rowsOf env store).drop n := by
    rw [eventsAfter_later (Nat.zero_le n), ← linked_after linked n]
    simp [rowsOf]
  generalize rowsOf env store = rows at *
  generalize paged : auditPage store.events env.orgId n = page
  rw [auditPage, behind] at paged
  have parts : rows.take (n + page.length) = rows.take n ++ page := by
    rw [List.take_add, ← paged]
    congr 1
    rw [List.take_eq_take_iff, List.length_take]
    omega
  have count : page.length = min VERIFY_PAGE_SIZE (rows.length - n) := by
    rw [← paged, List.length_take, List.length_drop]
  have seen : (rows.take n).length = n := by
    rw [List.length_take]
    omega
  have linkedPage : Linked env.host (lastHash none (rows.take n)) n page := by
    have whole := linked
    rw [← List.take_append_drop (n + page.length) rows, linked_append, parts, linked_append, seen, Nat.zero_add] at whole
    exact whole.1.2
  have freePage : ∀ row ∈ page, row.canonical_body.value.TieFree env.host.localeCompare := by
    intro row member
    rw [← paged] at member
    exact free row (List.mem_of_mem_drop (List.mem_of_mem_take member))
  have checked := env.reading.checkPage_read linkedPage freePage n
  cases page with
  | nil =>
    have all : n = rows.length := by
      simp only [List.length_nil, VERIFY_PAGE_SIZE] at count
      omega
    show walkOf rows n = walkOf rows rows.length
    rw [all]
  | cons row rest =>
    rw [afterPage, walkOf, checked]
    simp only
    have state : (⟨lastHash (lastHash none (rows.take n)) (row :: rest), n + (row :: rest).length,
        n + (row :: rest).length⟩ : Verification) = walkOf rows (n + (row :: rest).length) := by
      rw [walkOf, parts, lastHash_append]
    rw [state]
    split
    · rename_i short
      have all : n + (row :: rest).length = rows.length := by omega
      show walkOf rows _ = walkOf rows rows.length
      rw [all]
    · exact ⟨_, by omega, rfl⟩

theorem finish_sound (chain : OrgChain env.host store env.orgId) :
    ((walkOf (rowsOf env store) (rowsOf env store).length).finish (store.heads.find? env.orgId)).valid = true := by
  cases found : store.heads.find? env.orgId with
  | none => rfl
  | some head =>
    obtain ⟨counted, last⟩ := chain.head head found
    rw [Verification.finish_valid]
    refine ⟨counted, ?_⟩
    rw [last, walkOf, List.take_length]
    rfl

theorem VerifierSound.append {rows rows' : List AuditEventRow} {phase : VerifierPhase}
    (sound : VerifierSound rows phase) (extended : rows <+: rows')
    (quiet : rows.length ≠ rows'.length → ∀ state, phase ≠ .walked state) : VerifierSound rows' phase := by
  obtain ⟨more, rfl⟩ := extended
  cases phase with
  | walking state =>
    obtain ⟨n, inside, rfl⟩ := sound
    refine ⟨n, ?_, ?_⟩
    · rw [List.length_append]
      omega
    · rw [walkOf, walkOf, List.take_append_of_le_length inside]
  | walked state =>
    by_cases same : rows.length = (rows ++ more).length
    · have none_ : more = [] := by
        rw [List.length_append] at same
        exact List.length_eq_zero_iff.mp (by omega)
      subst none_
      simpa using sound
    · exact (quiet same state rfl).elim
  | finished result => exact sound

/-- The keys of what is recorded are told apart, and nothing is appended while a verifier is between its last page and the
head. -/
def Quiet (env : Setting) (s : State) : Label → Prop
  | .recordAuditEvent _ call => call.Distinguished env.host
  | .commit id => (rowsOf env s.committed).length ≠ (rowsOf env (s.view id)).length →
      ∀ verifier ∈ s.verifiers, ∀ state, verifier.phase ≠ .walked state
  | _ => True

theorem Quiet.records (quiet : Quiet env s label) : Records (AuditCall.Distinguished env.host) s label := by
  rintro id call rfl
  exact quiet

def VerifiersSound (env : Setting) (s : State) : Prop :=
  ∀ verifier ∈ s.verifiers, VerifierSound (rowsOf env s.committed) verifier.phase

theorem insertHead_committed {opened : State} (inserted : s.insertHead env.orgId id = some opened) :
    opened.committed = s.committed ∧ opened.verifiers = s.verifiers := by
  unfold State.insertHead at inserted
  split at inserted
  · obtain rfl := Option.some.inj inserted
    exact ⟨rfl, rfl⟩
  · split_ifs at inserted
    obtain rfl := Option.some.inj inserted
    exact ⟨rfl, rfl⟩

theorem VerifiersSound.setVerifier (verifiers : VerifiersSound env s) (id : VerifierId) {phase : VerifierPhase}
    (sound : VerifierSound (rowsOf env s.committed) phase) : VerifiersSound env (s.setVerifier id phase) := by
  intro verifier member
  rcases Table.mem_put.mp member with ⟨stored, -⟩ | ⟨rfl, -⟩
  · exact verifiers verifier stored
  · exact sound

theorem VerifiersSound.step (verifiers : VerifiersSound env s)
    (sound : Sound env (AuditCall.Distinguished env.host) s) (quiet : Quiet env s label) (taken : Step env s label s') :
    VerifiersSound env s' := by
  have free : ∀ row ∈ rowsOf env s.committed, row.canonical_body.value.TieFree env.host.localeCompare := by
    intro row member
    obtain ⟨call, distinguished, made⟩ := sound.committed.source row (mem_eventsAfter.mp member).1
    rw [made]
    exact distinguished
  have chain := sound.committed.chain env.orgId
  cases taken with
  | begin _ | recordAuditEvent _ _ | findExisting _ | headMissing _ | lockHead _ _ _ | insertFails _ => exact verifiers
  | insertEvent _ _ | updateHead _ | rollback _ => exact verifiers
  | @insertHead id call canonicalBodyHash opened found inserted =>
    obtain ⟨committed, same⟩ := insertHead_committed inserted
    intro verifier member
    show VerifierSound (rowsOf env opened.committed) verifier.phase
    rw [committed]
    refine verifiers verifier ?_
    rw [← same]
    exact member
  | @commit id answer found =>
    intro verifier member
    obtain ⟨-, extended⟩ := sound.view found
    exact (verifiers verifier member).append extended fun appended => quiet appended verifier member
  | verifyAuditChain inserted =>
    intro verifier member
    rcases (Table.mem_insert? inserted).mp member with rfl | earlier
    · exact ⟨0, Nat.zero_le _, rfl⟩
    · exact verifiers verifier earlier
  | @readPage id state found =>
    obtain ⟨n, inside, rfl⟩ := verifiers _ (Table.mem_of_find? found)
    exact verifiers.setVerifier id (afterPage_sound chain free inside)
  | @readHead id state found =>
    have walked : state = walkOf (rowsOf env s.committed) (rowsOf env s.committed).length :=
      verifiers _ (Table.mem_of_find? found)
    refine verifiers.setVerifier id ?_
    rw [walked]
    exact finish_sound chain

/-- The committed events of the org are one chain, and the head names the last of them. -/
structure ChainSafe (env : Setting) (s : State) : Prop where
  numbered : ∀ i (bound : i < (rowsOf env s.committed).length), (rowsOf env s.committed)[i].sequence = i + 1
  first : ∀ row ∈ (rowsOf env s.committed).head?, row.previous_hash = none
  linked : ∀ i (bound : i + 1 < (rowsOf env s.committed).length),
    (rowsOf env s.committed)[i + 1].previous_hash = some (rowsOf env s.committed)[i].event_hash
  head : ∀ last ∈ (rowsOf env s.committed).getLast?, ∃ head ∈ s.committed.heads.find? env.orgId,
    head.last_sequence = last.sequence ∧ head.last_event_hash = some last.event_hash
  keys : ∀ row ∈ rowsOf env s.committed, ∀ row' ∈ rowsOf env s.committed, ∀ key,
    row.idempotency_key = some key → row'.idempotency_key = some key → row = row'

def VerdictsValid (s : State) : Prop :=
  ∀ verifier ∈ s.verifiers, ∀ result, verifier.phase = .finished result → result.valid = true

theorem Whole.safe (whole : Whole env recordable s.committed) : ChainSafe env s := by
  obtain ⟨linked, head, headed⟩ := whole.chain env.orgId
  change Linked env.host none 0 (rowsOf env s.committed) at linked
  refine ⟨?_, ?_, linked.previous, ?_, ?_⟩
  · intro i bound
    rw [linked.sequence i bound, Nat.zero_add]
  · intro row first
    cases rows : rowsOf env s.committed with
    | nil =>
      rw [rows] at first
      cases first
    | cons other rest =>
      rw [rows] at first linked
      obtain rfl := Option.some.inj first
      exact linked.1.previous
  · intro last ends
    obtain ⟨before, rows⟩ := List.getLast?_eq_some_iff.mp ends
    obtain ⟨found, located⟩ : ∃ found, s.committed.heads.find? env.orgId = some found := by
      refine Option.isSome_iff_exists.mp (headed fun nothing => ?_)
      rw [rowsOf, nothing] at rows
      simp at rows
    obtain ⟨counted, hash⟩ := head found located
    rw [rows, linked_concat] at linked
    change _ = (rowsOf env s.committed).length at counted
    change _ = lastHash none (rowsOf env s.committed) at hash
    rw [rows] at counted hash
    refine ⟨found, located, ?_, ?_⟩
    · rw [counted, linked.2.sequence, List.length_append, List.length_singleton, Nat.zero_add]
    · rw [hash, lastHash_concat]
  · intro row member row' member' key
    obtain ⟨stored, org, -⟩ := mem_eventsAfter.mp member
    obtain ⟨stored', org', -⟩ := mem_eventsAfter.mp member'
    exact whole.once row stored row' stored' (org.trans org'.symm) key

/-- In every run the events are one chain, and in every quiet run no verifier finds fault with it. -/
theorem audit_chain_safe (run : Run (step env) .empty events s) :
    ChainSafe env s ∧ (Conforms (Quiet env) events → VerdictsValid s) := by
  have sound : Sound env (fun _ => True) s := reachable_sound run fun _ _ _ _ _ => trivial
  refine ⟨sound.committed.safe, fun quiet => ?_⟩
  have both : Sound env (AuditCall.Distinguished env.host) s ∧ VerifiersSound env s := by
    refine run.invariant (fun s => Sound env (AuditCall.Distinguished env.host) s ∧ VerifiersSound env s) quiet
      ⟨sound_empty env _, fun verifier member => by cases member⟩ ?_
    rintro s label s' ⟨sound, verifiers⟩ quiet taken
    exact ⟨sound.step quiet.records (step_inversion taken), verifiers.step sound quiet (step_inversion taken)⟩
  intro verifier member result finished
  have seen := both.2 verifier member
  rw [finished] at seen
  exact seen

namespace Racing

def setting : Setting := ⟨Accents.collation, fun _ => none, ⟨fun row => row.canonical_body, fun _ => Json.Same.refl _⟩, "org"⟩

def recording : List Label :=
  [.begin 1, .recordAuditEvent 1 Accents.plain, .insertHead 1, .lockHead 1, .insertEvent 1, .updateHead 1, .commit 1]

def quietly (s : State) : Label → Bool
  | .recordAuditEvent _ call => decide (call.Distinguished Accents.collation)
  | .commit _ => s.verifiers.rows.all fun verifier => match verifier.phase with
    | .walked _ => false
    | _ => true
  | _ => true

theorem quiet_of_quietly {s : State} {label : Label} (checked : quietly s label = true) : Quiet setting s label := by
  cases label with
  | recordAuditEvent id call =>
    show call.Distinguished Accents.collation
    simpa [quietly] using checked
  | commit id =>
    intro _ verifier member state phase
    have open_ := List.all_eq_true.mp checked verifier member
    rw [phase] at open_
    cases open_
  | _ => trivial

def invalid (s : State) : Bool := s.verifiers.rows.any fun verifier => match verifier.phase with
  | .finished result => !result.valid
  | _ => false

end Racing

/-- An event committed between the last page and the head makes the verdict wrong. -/
theorem append_during_verification : ∃ events s, Run (step Racing.setting) .empty events s ∧
    ¬(ChainSafe Racing.setting s ∧ VerdictsValid s) := by
  obtain ⟨events, s, run, found⟩ : ∃ events s, Run (step Racing.setting) .empty events s ∧ Racing.invalid s = true :=
    exists_run ([.verifyAuditChain 0, .readPage 0] ++ Racing.recording ++ [.readHead 0])
      (fun s => Racing.invalid s = true) (by decide +kernel)
  refine ⟨events, s, run, fun safe => ?_⟩
  obtain ⟨verifier, member, bad⟩ := List.any_eq_true.mp found
  split at bad
  · rename_i result finished
    have valid := safe.2 verifier member result finished
    simp [valid] at bad
  · cases bad

theorem append_after_verification : ∃ events s, Run (step Racing.setting) .empty events s ∧
    s.committed.countOf "org" = 1 ∧ s.verifiers.rows.length = 1 ∧ ChainSafe Racing.setting s ∧ VerdictsValid s := by
  obtain ⟨events, s, run, quiet, count, verified⟩ : ∃ events s, Run (step Racing.setting) .empty events s ∧
      Conforms (Quiet Racing.setting) events ∧ s.committed.countOf "org" = 1 ∧ s.verifiers.rows.length = 1 :=
    exists_conforming_run ([.verifyAuditChain 0, .readPage 0, .readHead 0] ++ Racing.recording) Racing.quietly
      (fun s => s.committed.countOf "org" = 1 ∧ s.verifiers.rows.length = 1)
      (fun _ _ => Racing.quiet_of_quietly) (by decide +kernel)
  have safe := audit_chain_safe run
  exact ⟨events, s, run, count, verified, safe.1, safe.2 quiet⟩

end AgentOps.Evidence
