import AgentOps.Lib.SessionLocks
import AgentOps.Lib.Transition
import Mathlib.Logic.Function.Basic

namespace AgentOps.Circle
open Lib

/-! # One Circle operation of an organization at a time -/

/-- What a call of `withPostgresCircleOrgLock` is given; times are in milliseconds. -/
structure OrgLockRequest where
  orgId : String
  retryDelayMs : Option Nat
  timeoutMs : Option Nat

inductive OrgLockCall (α : Type) where
  | called
  | connecting (deadline wake : Nat)
  | trying (deadline session : Nat)
  | refused (deadline session : Nat)
  | operating (session : Nat)
  | unlocking (session : Nat) (outcome : Except String α)
  | ended (outcome : Except String α)
  deriving DecidableEq

def OrgLockCall.session? {α : Type} : OrgLockCall α → Option Nat
  | called | connecting _ _ | ended _ => none
  | trying _ session | refused _ session | operating session | unlocking session _ => some session

def OrgLockCall.holding? {α : Type} : OrgLockCall α → Option Nat
  | operating session | unlocking session _ => some session
  | _ => none

/-- The clock, the locks of the database, the pool and the calls. `client` is the call that has a connection checked out. -/
structure OrgLocks (α : Type) where
  now : Nat
  locks : SessionLocks Nat Int
  lost : Nat → Bool
  client : Nat → Option Nat
  calls : Nat → OrgLockCall α

inductive OrgLockEvent (α : Type) where
  | passes (ms : Nat)
  | begins (call : Nat)
  | connects (call session : Nat)
  | tries (call : Nat)
  | queryFails (call : Nat) (message : String)
  | retries (call : Nat)
  | finishes (call : Nat) (outcome : Except String α)
  | unlocks (call : Nat)
  | unlockFails (call : Nat) (message : String)
  | disconnects (session : Nat)

def orgLockKey (orgId : String) : String := "circle:test:" ++ orgId

namespace OrgLocks

variable {α : Type}

def start : OrgLocks α := ⟨0, .empty, fun _ => false, fun _ => none, fun _ => .called⟩

def put (s : OrgLocks α) (call : Nat) (next : OrgLockCall α) : OrgLocks α :=
  { s with calls := Function.update s.calls call next }

/-- `client.release()`: the connection goes back to the pool as it is. -/
def release (s : OrgLocks α) (session : Nat) : OrgLocks α :=
  { s with client := Function.update s.client session none }

/-- A step of a call; `hash` is `hashtextextended(_, 0)`. -/
def step (hash : String → Int) (requests : Nat → OrgLockRequest) (s : OrgLocks α) : OrgLockEvent α → Option (OrgLocks α)
  | .passes ms => some { s with now := s.now + ms }
  | .begins call =>
    match s.calls call with
    | .called => some (s.put call (.connecting (s.now + (requests call).timeoutMs.getD 300000) s.now))
    | _ => none
  | .connects call session =>
    match s.calls call with
    | .connecting deadline wake =>
      if wake ≤ s.now ∧ s.lost session = false ∧ s.client session = none then
        some ({ s with client := Function.update s.client session (some call) }.put call (.trying deadline session))
      else none
    | _ => none
  | .tries call =>
    match s.calls call with
    | .trying deadline session =>
      if s.lost session = true then none
      else match s.locks.tryLock session (hash (orgLockKey (requests call).orgId)) with
        | some locks => some ({ s with locks := locks }.put call (.operating session))
        | none => some (s.put call (.refused deadline session))
    | _ => none
  | .queryFails call message =>
    match s.calls call with
    | .connecting _ _ => some (s.put call (.ended (.error message)))
    | .trying _ session => some ((s.release session).put call (.ended (.error message)))
    | _ => none
  | .retries call =>
    match s.calls call with
    | .refused deadline session =>
      if deadline ≤ s.now then some ((s.release session).put call (.ended (.error "circle_org_lock_timeout")))
      else some ((s.release session).put call (.connecting deadline (s.now + (requests call).retryDelayMs.getD 50)))
    | _ => none
  | .finishes call outcome =>
    match s.calls call with
    | .operating session => some (s.put call (.unlocking session outcome))
    | _ => none
  | .unlocks call =>
    match s.calls call with
    | .unlocking session outcome =>
      if s.lost session = true then none
      else some (({ s with locks := s.locks.unlock session (hash (orgLockKey (requests call).orgId)) }.release session).put
        call (.ended outcome))
    | _ => none
  | .unlockFails call message =>
    match s.calls call with
    | .unlocking session _ => some ((s.release session).put call (.ended (.error message)))
    | _ => none
  | .disconnects session =>
    some { s with locks := s.locks.drop session, lost := Function.update s.lost session true }

/-- What a step does: one call goes from `before` to `next`, or none does. -/
inductive Steps (hash : String → Int) (requests : Nat → OrgLockRequest) (s : OrgLocks α) : OrgLockEvent α → OrgLocks α → Prop where
  | passes (ms : Nat) : Steps hash requests s (.passes ms) { s with now := s.now + ms }
  | unconnected {event : OrgLockEvent α} {call : Nat} {next : OrgLockCall α} (before : (s.calls call).session? = none)
      (after : next.session? = none) : Steps hash requests s event (s.put call next)
  | connects {call session deadline : Nat} (before : (s.calls call).session? = none) (live : s.lost session = false)
      (idle : s.client session = none) : Steps hash requests s (.connects call session)
        ({ s with client := Function.update s.client session (some call) }.put call (.trying deadline session))
  | acquires {call session deadline : Nat} {locks : SessionLocks Nat Int} (before : s.calls call = .trying deadline session)
      (live : s.lost session = false)
      (acquired : s.locks.tryLock session (hash (orgLockKey (requests call).orgId)) = some locks) :
      Steps hash requests s (.tries call) ({ s with locks := locks }.put call (.operating session))
  | refused {call session deadline : Nat} (before : s.calls call = .trying deadline session) :
      Steps hash requests s (.tries call) (s.put call (.refused deadline session))
  | leaves {event : OrgLockEvent α} {call session : Nat} {next : OrgLockCall α} (before : (s.calls call).session? = some session)
      (without : (s.calls call).holding? = none) (after : next.session? = none) :
      Steps hash requests s event ((s.release session).put call next)
  | finishes {call session : Nat} {outcome : Except String α} (before : s.calls call = .operating session) :
      Steps hash requests s (.finishes call outcome) (s.put call (.unlocking session outcome))
  | unlocks {call session : Nat} {outcome : Except String α} (before : s.calls call = .unlocking session outcome) :
      Steps hash requests s (.unlocks call)
        (({ s with locks := s.locks.unlock session (hash (orgLockKey (requests call).orgId)) }.release session).put
          call (.ended outcome))
  | unlockFails {call session : Nat} {outcome : Except String α} {message : String}
      (before : s.calls call = .unlocking session outcome) :
      Steps hash requests s (.unlockFails call message) ((s.release session).put call (.ended (.error message)))
  | disconnects (session : Nat) : Steps hash requests s (.disconnects session)
      { s with locks := s.locks.drop session, lost := Function.update s.lost session true }

variable {hash : String → Int} {requests : Nat → OrgLockRequest} {s s' : OrgLocks α} {event : OrgLockEvent α}
variable {events : List (OrgLocks α × OrgLockEvent α)} {call call' session session' : Nat}

theorem steps_of (taken : step hash requests s event = some s') : Steps hash requests s event s' := by
  cases event with
  | passes ms =>
    obtain rfl := Option.some.inj taken
    exact .passes ms
  | disconnects session =>
    obtain rfl := Option.some.inj taken
    exact .disconnects session
  | begins call =>
    simp only [step] at taken
    split at taken <;> cases taken
    rename_i at_
    exact .unconnected (by rw [at_]; rfl) rfl
  | connects call session =>
    simp only [step] at taken
    split at taken
    · rename_i deadline wake at_
      split at taken <;> cases taken
      rename_i free
      exact .connects (by rw [at_]; rfl) free.2.1 free.2.2
    · cases taken
  | tries call =>
    simp only [step] at taken
    split at taken
    · rename_i deadline session at_
      split at taken
      · cases taken
      · rename_i live
        split at taken <;> cases taken
        · rename_i locks acquired
          exact .acquires at_ (by simpa using live) acquired
        · exact .refused at_
    · cases taken
  | queryFails call message =>
    simp only [step] at taken
    split at taken <;> cases taken <;> rename_i at_
    · exact .unconnected (by rw [at_]; rfl) rfl
    · exact .leaves (by rw [at_]; rfl) (by rw [at_]; rfl) rfl
  | retries call =>
    simp only [step] at taken
    split at taken
    · rename_i deadline session at_
      split at taken <;> cases taken <;> exact .leaves (by rw [at_]; rfl) (by rw [at_]; rfl) rfl
    · cases taken
  | finishes call outcome =>
    simp only [step] at taken
    split at taken <;> cases taken
    rename_i at_
    exact .finishes at_
  | unlocks call =>
    simp only [step] at taken
    split at taken
    · rename_i session outcome at_
      split at taken <;> cases taken
      exact .unlocks at_
    · cases taken
  | unlockFails call message =>
    simp only [step] at taken
    split at taken <;> cases taken
    rename_i at_
    exact .unlockFails at_

@[simp] theorem put_calls_self (s : OrgLocks α) (call : Nat) (next : OrgLockCall α) : (s.put call next).calls call = next :=
  Function.update_self ..

theorem put_calls_ne (s : OrgLocks α) (next : OrgLockCall α) (other : call' ≠ call) :
    (s.put call next).calls call' = s.calls call' := Function.update_of_ne other ..

theorem session_of_holding {at_ : OrgLockCall α} (holding : at_.holding? = some session) : at_.session? = some session := by
  cases at_ with
  | operating | unlocking => exact holding
  | _ => cases holding

structure Coherent (hash : String → Int) (requests : Nat → OrgLockRequest) (s : OrgLocks α) : Prop where
  checked : ∀ call session, (s.calls call).session? = some session → s.client session = some call
  held : ∀ call session, (s.calls call).holding? = some session → s.lost session = false →
    s.locks.Holds session (hash (orgLockKey (requests call).orgId))

theorem Coherent.one_call (coherent : s.Coherent hash requests) (own : (s.calls call).session? = some session)
    (also : (s.calls call').session? = some session) : call = call' :=
  Option.some.inj ((coherent.checked _ _ own).symm.trans (coherent.checked _ _ also))

theorem Coherent.put {next : OrgLockCall α} {t : OrgLocks α} (coherent : s.Coherent hash requests)
    (calls : t.calls = s.calls) (lost : t.lost = s.lost)
    (checked : ∀ session, next.session? = some session → t.client session = some call)
    (held : ∀ session, next.holding? = some session → t.lost session = false →
      t.locks.Holds session (hash (orgLockKey (requests call).orgId)))
    (clients : ∀ call' session, call' ≠ call → s.client session = some call' → t.client session = some call')
    (others : ∀ call' session, call' ≠ call → (s.calls call').session? = some session → ∀ key, s.locks.Holds session key →
      t.locks.Holds session key) : (t.put call next).Coherent hash requests where
  checked call' session := by
    by_cases same : call' = call
    · subst same
      rw [put_calls_self]
      exact checked session
    · rw [put_calls_ne _ _ same, calls]
      exact fun own => clients call' session same (coherent.checked _ _ own)
  held call' session := by
    by_cases same : call' = call
    · subst same
      rw [put_calls_self]
      exact held session
    · rw [put_calls_ne _ _ same, calls]
      intro holding live
      have live' : s.lost session = false := by rw [← lost]; exact live
      exact others call' session same (session_of_holding holding) _ (coherent.held _ _ holding live')

theorem release_client (other : session' ≠ session) : (s.release session).client session' = s.client session' :=
  Function.update_of_ne other ..

theorem Coherent.release (coherent : s.Coherent hash requests) (own : (s.calls call).session? = some session) :
    ∀ call' session', call' ≠ call → s.client session' = some call' → (s.release session).client session' = some call' := by
  intro call' session' other checked
  rw [release_client]
  · exact checked
  · rintro rfl
    rw [coherent.checked _ _ own] at checked
    exact other (Option.some.inj checked).symm

theorem Coherent.step (coherent : s.Coherent hash requests) (steps : Steps hash requests s event s') :
    s'.Coherent hash requests := by
  cases steps with
  | passes => exact ⟨coherent.checked, coherent.held⟩
  | @unconnected event call next before after =>
    refine coherent.put rfl rfl (fun session own => ?_) (fun session holding => ?_) (fun _ _ _ checked => checked)
      fun _ _ _ _ _ holds => holds
    · rw [after] at own
      cases own
    · rw [session_of_holding holding] at after
      cases after
  | @connects call session deadline before live idle =>
    refine coherent.put rfl rfl ?_ (fun _ holding => by cases holding) ?_ fun _ _ _ _ _ holds => holds
    · intro session' own
      obtain rfl := Option.some.inj own
      exact Function.update_self ..
    · intro call' session' other checked
      have different : session' ≠ session := by
        rintro rfl
        rw [idle] at checked
        cases checked
      exact (Function.update_of_ne different ..).trans checked
  | @acquires call session deadline locks before live acquired =>
    refine coherent.put rfl rfl (fun session' own => ?_) (fun session' holding _ => ?_) (fun _ _ _ checked => checked) ?_
    · exact coherent.checked call session' (by rw [before]; exact own)
    · obtain rfl := Option.some.inj holding
      exact (SessionLocks.holds_tryLock acquired).mpr (.inl ⟨rfl, rfl⟩)
    · exact fun _ _ _ _ _ holds => (SessionLocks.holds_tryLock acquired).mpr (.inr holds)
  | @refused call session deadline before =>
    refine coherent.put rfl rfl (fun session' own => ?_) (fun _ holding => by cases holding) (fun _ _ _ checked => checked)
      fun _ _ _ _ _ holds => holds
    exact coherent.checked call session' (by rw [before]; exact own)
  | @leaves event call session next before without after =>
    refine coherent.put rfl rfl (fun session own => ?_) (fun session holding => ?_) (coherent.release before)
      fun _ _ _ _ _ holds => holds
    · rw [after] at own
      cases own
    · rw [session_of_holding holding] at after
      cases after
  | @finishes call session outcome before =>
    refine coherent.put rfl rfl (fun session' own => ?_) (fun session' holding live => ?_) (fun _ _ _ checked => checked)
      fun _ _ _ _ _ holds => holds
    · exact coherent.checked call session' (by rw [before]; exact own)
    · exact coherent.held call session' (by rw [before]; exact holding) live
  | @unlocks call session outcome before =>
    have own : (s.calls call).session? = some session := by rw [before]; rfl
    refine coherent.put rfl rfl (fun _ own => by cases own) (fun _ holding => by cases holding) (coherent.release own) ?_
    intro call' session' other also key holds
    refine holds.unlock fun same => ?_
    subst same
    exact other (coherent.one_call also own)
  | @unlockFails call session outcome message before =>
    have own : (s.calls call).session? = some session := by rw [before]; rfl
    exact coherent.put rfl rfl (fun _ own => by cases own) (fun _ holding => by cases holding) (coherent.release own)
      fun _ _ _ _ _ holds => holds
  | disconnects session =>
    refine ⟨coherent.checked, fun call session' holding live => ?_⟩
    by_cases same : session' = session
    · subst same
      simp at live
    · have live' : s.lost session' = false := by simpa [same] using live
      exact SessionLocks.holds_drop.mpr ⟨same, coherent.held call session' holding live'⟩

theorem coherent_start : (start : OrgLocks α).Coherent hash requests where
  checked _ _ own := by cases own
  held _ _ holding := by cases holding

theorem coherent_of_run (run : Run (step hash requests) start events s) : s.Coherent hash requests :=
  run.always (fun s => s.Coherent hash requests) coherent_start fun _ _ _ coherent taken => coherent.step (steps_of taken)

/-- Two operations of an organization never run at once, unless the connection that has the lock for one of them is lost. -/
theorem operations_exclusive (run : Run (step hash requests) start events s)
    (same : (requests call).orgId = (requests call').orgId) (operating : s.calls call = .operating session)
    (operating' : s.calls call' = .operating session') :
    call = call' ∨ s.lost session = true ∨ s.lost session' = true := by
  have coherent := coherent_of_run run
  cases live : s.lost session with
  | true => exact .inr (.inl rfl)
  | false =>
    cases live' : s.lost session' with
    | true => exact .inr (.inr rfl)
    | false =>
      have holds := coherent.held call session (by rw [operating]; rfl) live
      have holds' := coherent.held call' session' (by rw [operating']; rfl) live'
      rw [← same] at holds'
      obtain rfl : session = session' := holds.unique holds'
      exact .inl (coherent.one_call (by rw [operating]; rfl) (by rw [operating']; rfl))

def sameOrg : Nat → OrgLockRequest := fun _ => ⟨"org_1", none, none⟩

def lostConnection : List (OrgLockEvent Unit) :=
  [.begins 0, .connects 0 0, .tries 0, .disconnects 0, .begins 1, .connects 1 1, .tries 1]

/-- The first call is at its operation when its connection is lost, and the second comes to the lock. -/
theorem operations_exclusive_lost : ∃ events s, Run (step (fun _ => 0) sameOrg) (start : OrgLocks Unit) events s ∧
    s.calls 0 = .operating 0 ∧ s.calls 1 = .operating 1 ∧ (0 = 1 ∨ s.lost 0 = true ∨ s.lost 1 = true) := by
  obtain ⟨events, s, run, first, second⟩ : ∃ events s, Run (step (fun _ => 0) sameOrg) (start : OrgLocks Unit) events s ∧
      s.calls 0 = .operating 0 ∧ s.calls 1 = .operating 1 :=
    exists_run lostConnection (fun s : OrgLocks Unit => s.calls 0 = .operating 0 ∧ s.calls 1 = .operating 1) (by decide)
  exact ⟨events, s, run, first, second, operations_exclusive run rfl first second⟩

structure Unleaked (hash : String → Int) (requests : Nat → OrgLockRequest) (s : OrgLocks α) : Prop where
  once : s.locks.grants.Nodup
  gone : ∀ session key, s.locks.Holds session key → s.lost session = false
  granted : ∀ session key, s.locks.Holds session key →
    ∃ call, (s.calls call).holding? = some session ∧ hash (orgLockKey (requests call).orgId) = key

/-- An unlock fails only where the connection is lost. -/
def UnlockKept (s : OrgLocks α) (event : OrgLockEvent α) : Prop :=
  ∀ call message, event = .unlockFails call message → ∀ session, (s.calls call).session? = some session → s.lost session = true

def unlockKeeps : OrgLockEvent α → Bool
  | .unlockFails _ _ => false
  | _ => true

theorem UnlockKept.of_keeps (keeps : unlockKeeps event = true) : UnlockKept s event := by
  rintro call message rfl
  cases keeps

theorem Unleaked.put {next : OrgLockCall α} {t : OrgLocks α} (unleaked : s.Unleaked hash requests)
    (locks : t.locks = s.locks) (calls : t.calls = s.calls) (lost : t.lost = s.lost)
    (kept : ∀ session key, (s.calls call).holding? = some session → s.locks.Holds session key → next.holding? = some session) :
    (t.put call next).Unleaked hash requests where
  once := by
    change t.locks.grants.Nodup
    rw [locks]
    exact unleaked.once
  gone session key holds := by
    change t.lost session = false
    rw [lost]
    exact unleaked.gone session key (locks ▸ holds)
  granted session key holds := by
    have before : s.locks.Holds session key := locks ▸ holds
    obtain ⟨call', holding, keyed⟩ := unleaked.granted session key before
    refine ⟨call', ?_, keyed⟩
    by_cases same : call' = call
    · subst same
      rw [put_calls_self]
      exact kept session key holding before
    · rw [put_calls_ne _ _ same, calls, holding]

theorem Unleaked.unlock (unleaked : s.Unleaked hash requests) {outcome : Except String α}
    (before : s.calls call = .unlocking session outcome) :
    (({ s with locks := s.locks.unlock session (hash (orgLockKey (requests call).orgId)) }.release session).put
      call (.ended outcome)).Unleaked hash requests where
  once := unleaked.once.erase _
  gone session' key holds := unleaked.gone session' key (SessionLocks.Holds.of_unlock holds)
  granted session' key holds := by
    obtain ⟨call', holding, keyed⟩ := unleaked.granted session' key (SessionLocks.Holds.of_unlock holds)
    refine ⟨call', ?_, keyed⟩
    rw [put_calls_ne]
    · exact holding
    · rintro rfl
      rw [before] at holding
      obtain rfl := Option.some.inj holding
      subst keyed
      exact unleaked.once.not_mem_erase holds

theorem Unleaked.step (unleaked : s.Unleaked hash requests) (coherent : s.Coherent hash requests) (kept : UnlockKept s event)
    (steps : Steps hash requests s event s') : s'.Unleaked hash requests := by
  cases steps with
  | passes => exact ⟨unleaked.once, unleaked.gone, unleaked.granted⟩
  | @unconnected event call next before after =>
    refine unleaked.put rfl rfl rfl fun session key holding _ => ?_
    rw [session_of_holding holding] at before
    cases before
  | @connects call session deadline before live idle =>
    refine unleaked.put rfl rfl rfl fun session key holding _ => ?_
    rw [session_of_holding holding] at before
    cases before
  | @acquires call session deadline locks before live acquired =>
    have own : (s.calls call).session? = some session := by rw [before]; rfl
    have fresh : ∀ key, ¬s.locks.Holds session key := by
      intro key holds
      obtain ⟨call', holding, -⟩ := unleaked.granted session key holds
      obtain rfl := coherent.one_call own (session_of_holding holding)
      rw [before] at holding
      cases holding
    refine ⟨?_, fun session' key holds => ?_, fun session' key holds => ?_⟩
    · rw [show (({ s with locks := locks } : OrgLocks α).put call (.operating session)).locks.grants = _ from
        SessionLocks.grants_tryLock acquired]
      exact List.nodup_cons.mpr ⟨fresh _, unleaked.once⟩
    · rcases (SessionLocks.holds_tryLock acquired).mp holds with ⟨rfl, -⟩ | earlier
      · exact live
      · exact unleaked.gone session' key earlier
    · rcases (SessionLocks.holds_tryLock acquired).mp holds with ⟨rfl, rfl⟩ | earlier
      · exact ⟨call, by rw [put_calls_self]; rfl, rfl⟩
      · obtain ⟨call', holding, keyed⟩ := unleaked.granted session' key earlier
        refine ⟨call', ?_, keyed⟩
        rw [put_calls_ne]
        · exact holding
        · rintro rfl
          rw [before] at holding
          cases holding
  | @refused call session deadline before =>
    refine unleaked.put rfl rfl rfl fun session key holding _ => ?_
    rw [before] at holding
    cases holding
  | @leaves event call session next before without after =>
    refine unleaked.put rfl rfl rfl fun session' key holding _ => ?_
    rw [without] at holding
    cases holding
  | @finishes call session outcome before =>
    refine unleaked.put rfl rfl rfl fun session' key holding _ => ?_
    rw [before] at holding
    exact holding
  | unlocks before => exact unleaked.unlock before
  | @unlockFails call session outcome message before =>
    have own : (s.calls call).session? = some session := by rw [before]; rfl
    refine unleaked.put rfl rfl rfl fun session' key holding holds => ?_
    obtain rfl : session = session' := Option.some.inj (own.symm.trans (session_of_holding holding))
    have live := unleaked.gone session key holds
    rw [kept call message rfl session own] at live
    cases live
  | disconnects session =>
    refine ⟨unleaked.once.filter _, fun session' key holds => ?_, fun session' key holds => ?_⟩
    · obtain ⟨other, earlier⟩ := SessionLocks.holds_drop.mp holds
      simpa [other] using unleaked.gone session' key earlier
    · exact unleaked.granted session' key (SessionLocks.holds_drop.mp holds).2

theorem unleaked_of_run (run : Run (step hash requests) start events s) (kept : Conforms UnlockKept events) :
    s.Coherent hash requests ∧ s.Unleaked hash requests :=
  run.invariant (fun s => s.Coherent hash requests ∧ s.Unleaked hash requests) kept
    ⟨coherent_start, List.nodup_nil, fun _ _ holds => absurd holds SessionLocks.not_holds_empty,
      fun _ _ holds => absurd holds SessionLocks.not_holds_empty⟩
    fun _ _ _ inv kept taken => ⟨inv.1.step (steps_of taken), inv.2.step inv.1 kept (steps_of taken)⟩

/-- Where no unlock fails on a connection that lasts, a call is refused the lock only while another call is in its operation
or about to release it, whether that operation has returned or thrown. -/
theorem org_lock_refused_iff (run : Run (step hash requests) start events s) (kept : Conforms UnlockKept events)
    {deadline : Nat} (trying : s.calls call = .trying deadline session) (live : s.lost session = false) :
    (∃ s', step hash requests s (.tries call) = some s' ∧ s'.calls call = .refused deadline session) ↔
      ∃ other holder, (s.calls other).holding? = some holder ∧ s.lost holder = false ∧
        hash (orgLockKey (requests other).orgId) = hash (orgLockKey (requests call).orgId) := by
  obtain ⟨coherent, unleaked⟩ := unleaked_of_run run kept
  constructor
  · rintro ⟨s', taken, refused⟩
    simp only [step, trying, live, Bool.false_eq_true, if_false] at taken
    split at taken
    · obtain rfl := Option.some.inj taken
      rw [put_calls_self] at refused
      cases refused
    · rename_i unavailable
      obtain ⟨holder, -, holds⟩ := SessionLocks.tryLock_eq_none.mp unavailable
      obtain ⟨other, holding, keyed⟩ := unleaked.granted _ _ holds
      exact ⟨other, holder, holding, unleaked.gone _ _ holds, keyed⟩
  · rintro ⟨other, holder, holding, lasts, keyed⟩
    have holds := coherent.held other holder holding lasts
    rw [keyed] at holds
    have different : holder ≠ session := by
      rintro rfl
      obtain rfl := coherent.one_call (session_of_holding holding) (by rw [trying]; rfl)
      rw [trying] at holding
      cases holding
    have unavailable := SessionLocks.tryLock_eq_none.mpr ⟨holder, different, holds⟩
    exact ⟨s.put call (.refused deadline session), by simp [step, trying, live, unavailable], put_calls_self ..⟩

def thrownOperation : List (OrgLockEvent Unit) :=
  [.begins 0, .connects 0 0, .tries 0, .begins 1, .connects 1 1, .finishes 0 (.error "circle_cli_failed")]

/-- The operation of the first call has thrown, and its unlock is still to come. -/
theorem org_lock_refused_thrown : ∃ events s, Run (step (fun _ => 0) sameOrg) (start : OrgLocks Unit) events s ∧
    s.calls 0 = .unlocking 0 (.error "circle_cli_failed") ∧
      ((∃ s', step (fun _ => 0) sameOrg s (.tries 1) = some s' ∧ s'.calls 1 = .refused 300000 1) ↔
        ∃ other holder, (s.calls other).holding? = some holder ∧ s.lost holder = false ∧ (0 : Int) = 0) := by
  obtain ⟨events, s, run, kept, thrown, trying, live⟩ : ∃ events s,
      Run (step (fun _ => 0) sameOrg) (start : OrgLocks Unit) events s ∧ Conforms UnlockKept events ∧
      s.calls 0 = .unlocking 0 (.error "circle_cli_failed") ∧ s.calls 1 = .trying 300000 1 ∧ s.lost 1 = false :=
    exists_conforming_run thrownOperation (fun _ event => unlockKeeps event)
      (fun s : OrgLocks Unit => s.calls 0 = .unlocking 0 (.error "circle_cli_failed") ∧ s.calls 1 = .trying 300000 1 ∧ s.lost 1 = false)
      (fun _ _ => UnlockKept.of_keeps) (by decide)
  exact ⟨events, s, run, thrown, org_lock_refused_iff run kept trying live⟩

end OrgLocks

end AgentOps.Circle
