import AgentOps.Evidence.Recording
import AgentOps.Lib.Transition

namespace AgentOps.Evidence
open Lib Identity

/-! # Writers and verifiers of one chain, statement by statement -/

structure Setting where
  host : Host
  parseJson : String → Option JsonData
  reading : Reading
  orgId : String

abbrev WriterId := Nat
abbrev VerifierId := Nat

inductive WriterPhase where
  /-- Between two calls of `recordAuditEvent`, with the answer of the last -/
  | idle (answer : Option (Except Failure AuditEventRow))
  | keyed (call : AuditCall) (canonicalBodyHash : Hash) (key : String)
  | fresh (call : AuditCall) (canonicalBodyHash : Hash)
  | opened (call : AuditCall) (canonicalBodyHash : Hash)
  | locked (call : AuditCall) (canonicalBodyHash : Hash) (head : AuditEventHead)
  | inserted (row : AuditEventRow)
  | failed
  | ended

structure Writer where
  id : WriterId
  phase : WriterPhase

inductive VerifierPhase where
  | walking (state : Verification)
  | walked (state : Verification)
  | finished (result : VerifyAuditChainResult)

/-- A call of `verifyAuditChain` -/
structure Verifier where
  id : VerifierId
  phase : VerifierPhase

structure Holder where
  writer : WriterId
  store : AuditStore

structure State where
  committed : AuditStore
  holder : Option Holder
  writers : Table Writer.id
  verifiers : Table Verifier.id

inductive Label where
  | begin (id : WriterId)
  | recordAuditEvent (id : WriterId) (call : AuditCall)
  | findExisting (id : WriterId)
  | insertHead (id : WriterId)
  | lockHead (id : WriterId)
  | insertEvent (id : WriterId)
  | updateHead (id : WriterId)
  | commit (id : WriterId)
  | rollback (id : WriterId)
  | verifyAuditChain (id : VerifierId)
  | readPage (id : VerifierId)
  | readHead (id : VerifierId)

namespace State

def empty : State := ⟨.empty, none, .empty, .empty⟩

def view (s : State) (id : WriterId) : AuditStore :=
  match s.holder with
  | some holder => if holder.writer = id then holder.store else s.committed
  | none => s.committed

def free (s : State) (id : WriterId) : Bool :=
  match s.holder with
  | some holder => holder.writer = id
  | none => true

def hold (s : State) (id : WriterId) (store : AuditStore) : State := { s with holder := some ⟨id, store⟩ }

def release (s : State) (id : WriterId) : State :=
  { s with holder := s.holder.filter fun holder => holder.writer ≠ id }

def setWriter (s : State) (id : WriterId) (phase : WriterPhase) : State :=
  { s with writers := s.writers.put ⟨id, phase⟩ }

def setVerifier (s : State) (id : VerifierId) (phase : VerifierPhase) : State :=
  { s with verifiers := s.verifiers.put ⟨id, phase⟩ }

def phaseOf (s : State) (id : WriterId) : Option WriterPhase := (s.writers.find? id).map Writer.phase

def verifierPhaseOf (s : State) (id : VerifierId) : Option VerifierPhase := (s.verifiers.find? id).map Verifier.phase

/-- `INSERT INTO audit_event_heads ... ON CONFLICT (org_id) DO NOTHING`: a head that another transaction has inserted
and not yet committed makes the statement wait. -/
def insertHead (s : State) (orgId : String) (id : WriterId) : Option State :=
  match (s.view id).heads.find? orgId with
  | some _ => some s
  | none =>
    if s.free id then some (s.hold id ⟨Evidence.insertHead (s.view id).heads orgId, (s.view id).events⟩) else none

end State

def startCall (host : Host) (call : AuditCall) : WriterPhase :=
  match canonicalBodyHashOf host call.input with
  | .error failure => .idle (some (.error failure))
  | .ok canonicalBodyHash =>
    match call.input.idempotencyKey with
    | some key => .keyed call canonicalBodyHash key
    | none => .fresh call canonicalBodyHash

def afterFind (call : AuditCall) (canonicalBodyHash : Hash) : Option AuditEventRow → WriterPhase
  | some existing =>
    if existing.canonical_body_hash ≠ canonicalBodyHash then .idle (some (.error idempotencyConflict))
    else .idle (some (.ok existing))
  | none => .fresh call canonicalBodyHash

def afterPage (env : Setting) (state : Verification) : List AuditEventRow → VerifierPhase
  | [] => .walked state
  | row :: rows =>
    match state.checkPage env.host ((row :: rows).map fun row => toDetail (env.reading.read row)) with
    | .error result => .finished result
    | .ok state => if (row :: rows).length < VERIFY_PAGE_SIZE then .walked state else .walking state

def step (env : Setting) (s : State) : Label → Option State
  | .begin id => (s.writers.insert? ⟨id, .idle none⟩).map fun writers => { s with writers }
  | .recordAuditEvent id call =>
    match s.phaseOf id with
    | some (.idle _) => if call.input.orgId = env.orgId then some (s.setWriter id (startCall env.host call)) else none
    | _ => none
  | .findExisting id =>
    match s.phaseOf id with
    | some (.keyed call canonicalBodyHash key) =>
      some (s.setWriter id (afterFind call canonicalBodyHash (findByKey (s.view id).events env.orgId key)))
    | _ => none
  | .insertHead id =>
    match s.phaseOf id with
    | some (.fresh call canonicalBodyHash) =>
      (s.insertHead env.orgId id).map fun s => s.setWriter id (.opened call canonicalBodyHash)
    | _ => none
  | .lockHead id =>
    match s.phaseOf id with
    | some (.opened call canonicalBodyHash) =>
      if !s.free id then none
      else match (s.view id).heads.find? env.orgId with
        | none => some (s.setWriter id (.idle (some (.error (.thrown "audit_head_not_found")))))
        | some head => some ((s.hold id (s.view id)).setWriter id (.locked call canonicalBodyHash head))
    | _ => none
  | .insertEvent id =>
    match s.phaseOf id with
    | some (.locked call canonicalBodyHash head) =>
      match insertEvent env.host env.parseJson (s.view id).events head call.now call.eventId call.input
          canonicalBodyHash with
      | .error _ => some (s.setWriter id .failed)
      | .ok (events, row) => some ((s.hold id ⟨(s.view id).heads, events⟩).setWriter id (.inserted row))
    | _ => none
  | .updateHead id =>
    match s.phaseOf id with
    | some (.inserted row) =>
      some ((s.hold id ⟨updateHead (s.view id).heads row, (s.view id).events⟩).setWriter id (.idle (some (.ok row))))
    | _ => none
  | .commit id =>
    match s.phaseOf id with
    | some (.idle _) => some (({ s with committed := s.view id }.release id).setWriter id .ended)
    | _ => none
  | .rollback id =>
    match s.phaseOf id with
    | some .ended | none => none
    | some _ => some ((s.release id).setWriter id .ended)
  | .verifyAuditChain id => (s.verifiers.insert? ⟨id, .walking .start⟩).map fun verifiers => { s with verifiers }
  | .readPage id =>
    match s.verifierPhaseOf id with
    | some (.walking state) =>
      some (s.setVerifier id (afterPage env state (auditPage s.committed.events env.orgId state.afterSequence)))
    | _ => none
  | .readHead id =>
    match s.verifierPhaseOf id with
    | some (.walked state) =>
      some (s.setVerifier id (.finished (state.finish (s.committed.heads.find? env.orgId))))
    | _ => none

inductive Step (env : Setting) (s : State) : Label → State → Prop where
  | begin {id : WriterId} {writers : Table Writer.id} (inserted : s.writers.insert? ⟨id, .idle none⟩ = some writers) :
      Step env s (.begin id) { s with writers }
  | recordAuditEvent {id : WriterId} {call : AuditCall} {answer : Option (Except Failure AuditEventRow)}
      (phase : s.writers.find? id = some ⟨id, .idle answer⟩) (org : call.input.orgId = env.orgId) :
      Step env s (.recordAuditEvent id call) (s.setWriter id (startCall env.host call))
  | findExisting {id : WriterId} {call : AuditCall} {canonicalBodyHash : Hash} {key : String}
      (phase : s.writers.find? id = some ⟨id, .keyed call canonicalBodyHash key⟩) :
      Step env s (.findExisting id)
        (s.setWriter id (afterFind call canonicalBodyHash (findByKey (s.view id).events env.orgId key)))
  | insertHead {id : WriterId} {call : AuditCall} {canonicalBodyHash : Hash} {opened : State}
      (phase : s.writers.find? id = some ⟨id, .fresh call canonicalBodyHash⟩)
      (inserted : s.insertHead env.orgId id = some opened) :
      Step env s (.insertHead id) (opened.setWriter id (.opened call canonicalBodyHash))
  | headMissing {id : WriterId} {call : AuditCall} {canonicalBodyHash : Hash}
      (phase : s.writers.find? id = some ⟨id, .opened call canonicalBodyHash⟩) :
      Step env s (.lockHead id) (s.setWriter id (.idle (some (.error (.thrown "audit_head_not_found")))))
  | lockHead {id : WriterId} {call : AuditCall} {canonicalBodyHash : Hash} {head : AuditEventHead}
      (phase : s.writers.find? id = some ⟨id, .opened call canonicalBodyHash⟩) (free : s.free id = true)
      (found : (s.view id).heads.find? env.orgId = some head) :
      Step env s (.lockHead id) ((s.hold id (s.view id)).setWriter id (.locked call canonicalBodyHash head))
  | insertFails {id : WriterId} {call : AuditCall} {canonicalBodyHash : Hash} {head : AuditEventHead}
      (phase : s.writers.find? id = some ⟨id, .locked call canonicalBodyHash head⟩) :
      Step env s (.insertEvent id) (s.setWriter id .failed)
  | insertEvent {id : WriterId} {call : AuditCall} {canonicalBodyHash : Hash} {head : AuditEventHead}
      {events : AuditEvents} {row : AuditEventRow}
      (phase : s.writers.find? id = some ⟨id, .locked call canonicalBodyHash head⟩)
      (inserted : Inserted env.host (s.view id).events head call.input canonicalBodyHash events row) :
      Step env s (.insertEvent id) ((s.hold id ⟨(s.view id).heads, events⟩).setWriter id (.inserted row))
  | updateHead {id : WriterId} {row : AuditEventRow} (phase : s.writers.find? id = some ⟨id, .inserted row⟩) :
      Step env s (.updateHead id)
        ((s.hold id ⟨updateHead (s.view id).heads row, (s.view id).events⟩).setWriter id (.idle (some (.ok row))))
  | commit {id : WriterId} {answer : Option (Except Failure AuditEventRow)}
      (phase : s.writers.find? id = some ⟨id, .idle answer⟩) :
      Step env s (.commit id) (({ s with committed := s.view id }.release id).setWriter id .ended)
  | rollback {id : WriterId} {writer : Writer} (phase : s.writers.find? id = some writer) :
      Step env s (.rollback id) ((s.release id).setWriter id .ended)
  | verifyAuditChain {id : VerifierId} {verifiers : Table Verifier.id}
      (inserted : s.verifiers.insert? ⟨id, .walking .start⟩ = some verifiers) :
      Step env s (.verifyAuditChain id) { s with verifiers }
  | readPage {id : VerifierId} {state : Verification}
      (phase : s.verifiers.find? id = some ⟨id, .walking state⟩) :
      Step env s (.readPage id)
        (s.setVerifier id (afterPage env state (auditPage s.committed.events env.orgId state.afterSequence)))
  | readHead {id : VerifierId} {state : Verification} (phase : s.verifiers.find? id = some ⟨id, .walked state⟩) :
      Step env s (.readHead id)
        (s.setVerifier id (.finished (state.finish (s.committed.heads.find? env.orgId))))

theorem phaseOf_eq_some {s : State} {id : WriterId} {phase : WriterPhase} (located : s.phaseOf id = some phase) :
    s.writers.find? id = some ⟨id, phase⟩ := by
  obtain ⟨writer, found, rfl⟩ := Option.map_eq_some_iff.mp located
  obtain rfl := Table.key_of_find? found
  exact found

theorem verifierPhaseOf_eq_some {s : State} {id : VerifierId} {phase : VerifierPhase}
    (located : s.verifierPhaseOf id = some phase) : s.verifiers.find? id = some ⟨id, phase⟩ := by
  obtain ⟨verifier, found, rfl⟩ := Option.map_eq_some_iff.mp located
  obtain rfl := Table.key_of_find? found
  exact found

theorem step_inversion {env : Setting} {s s' : State} {label : Label} (taken : step env s label = some s') :
    Step env s label s' := by
  cases label with
  | begin id =>
    obtain ⟨writers, inserted, rfl⟩ := Option.map_eq_some_iff.mp taken
    exact .begin inserted
  | recordAuditEvent id call =>
    rw [step] at taken
    split at taken
    · rename_i located
      split_ifs at taken with org
      obtain rfl := Option.some.inj taken
      exact .recordAuditEvent (phaseOf_eq_some located) org
    · cases taken
  | findExisting id =>
    rw [step] at taken
    split at taken
    · rename_i located
      obtain rfl := Option.some.inj taken
      exact .findExisting (phaseOf_eq_some located)
    · cases taken
  | insertHead id =>
    rw [step] at taken
    split at taken
    · rename_i located
      obtain ⟨opened, inserted, rfl⟩ := Option.map_eq_some_iff.mp taken
      exact .insertHead (phaseOf_eq_some located) inserted
    · cases taken
  | lockHead id =>
    rw [step] at taken
    split at taken
    · rename_i located
      split_ifs at taken with free
      split at taken
      · obtain rfl := Option.some.inj taken
        exact .headMissing (phaseOf_eq_some located)
      · rename_i found
        obtain rfl := Option.some.inj taken
        exact .lockHead (phaseOf_eq_some located) (by simpa using free) found
    · cases taken
  | insertEvent id =>
    rw [step] at taken
    split at taken
    · rename_i located
      split at taken
      · obtain rfl := Option.some.inj taken
        exact .insertFails (phaseOf_eq_some located)
      · rename_i inserted
        obtain rfl := Option.some.inj taken
        exact .insertEvent (phaseOf_eq_some located) (insertEvent_ok inserted)
    · cases taken
  | updateHead id =>
    rw [step] at taken
    split at taken
    · rename_i located
      obtain rfl := Option.some.inj taken
      exact .updateHead (phaseOf_eq_some located)
    · cases taken
  | commit id =>
    rw [step] at taken
    split at taken
    · rename_i located
      obtain rfl := Option.some.inj taken
      exact .commit (phaseOf_eq_some located)
    · cases taken
  | rollback id =>
    rw [step] at taken
    split at taken
    · cases taken
    · cases taken
    · rename_i located
      obtain rfl := Option.some.inj taken
      exact .rollback (phaseOf_eq_some located)
  | verifyAuditChain id =>
    obtain ⟨verifiers, inserted, rfl⟩ := Option.map_eq_some_iff.mp taken
    exact .verifyAuditChain inserted
  | readPage id =>
    rw [step] at taken
    split at taken
    · rename_i located
      obtain rfl := Option.some.inj taken
      exact .readPage (verifierPhaseOf_eq_some located)
    · cases taken
  | readHead id =>
    rw [step] at taken
    split at taken
    · rename_i located
      obtain rfl := Option.some.inj taken
      exact .readHead (verifierPhaseOf_eq_some located)
    · cases taken

end AgentOps.Evidence
