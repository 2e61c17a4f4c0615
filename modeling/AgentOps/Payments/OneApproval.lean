import AgentOps.Payments.Submissions

namespace AgentOps.Payments
open Lib Identity

variable {hashes : Hashes} {db db' : Db} {s s' : State} {call : Call} {label : Label} {events : List (State × Label)}
  {t t' : X402AttemptRow} {approvalId : ApprovalId}

/-! # The approval requests of a payment -/

def Phase.requested : Phase → Option ApprovalId
  | .gated _ _ _ gate (some _) | .cleared _ _ _ gate (some _) => gate.approvalId
  | _ => none

def requested? (s : State) : Label → Option (Call × ApprovalId)
  | .call id (.enforcePolicy policy approvalId) =>
    (s.calls.find? id).bind fun call =>
      match call.phase with
      | .sourced tx quote _ =>
        match enforceX402Policy tx.account quote policy, s.approvals.approvals.find? approvalId with
        | .ok true, none => some (call, approvalId)
        | _, _ => none
      | _ => none
  | _ => none

def SameKey (connectionId : ConnectionId) (key : String) (call : Call) : Bool :=
  call.auth.connection_id = connectionId && call.idempotencyKey = key

def Awaited (s : State) (call : Call) (approvalId : ApprovalId) : Prop :=
  ∃ c, s.calls.find? call.id = some c ∧ c.auth = call.auth ∧ c.idempotencyKey = call.idempotencyKey ∧
    c.phase.requested = some approvalId

def Attached (s : State) (call : Call) (approvalId : ApprovalId) : Prop :=
  ∃ t ∈ s.db.attempts, t.connection_id = call.auth.connection_id ∧ t.idempotency_key = call.idempotencyKey ∧
    t.payment_metadata.approvalId = some approvalId

structure OneApproval (events : List (State × Label)) (s : State) : Prop where
  once : ∀ connectionId key,
    events.countP (fun e => (requested? e.1 e.2).any fun request => SameKey connectionId key request.1) ≤ 1
  attached : ∀ e ∈ events, ∀ call approvalId, requested? e.1 e.2 = some (call, approvalId) →
    Awaited s call approvalId ∨ Attached s call approvalId

def WithinLimits (account : AgentPaymentAccountRow) (quote : RuntimeQuote) (spendable : Option Nat) : Prop :=
  (account.per_request_cap_usdc = 0 ∨ quote.amountMicros ≤ account.per_request_cap_usdc) ∧
    account.spent_usdc + account.reserved_usdc + quote.amountMicros ≤ account.budget_usdc ∧
    ∀ balance ∈ spendable, quote.amountMicros ≤ balance

def Proceeds (hashes : Hashes) (s : State) (call : Call) : CallEvent → Prop
  | .crash => False
  | .checkLimits _ spendable =>
    match call.phase with
    | .gated tx quote _ _ _ => WithinLimits tx.account quote spendable
    | _ => True
  | .commitPrepare attemptId reservationId =>
    match call.phase with
    | .cleared tx quote source gate _ =>
      ∃ prepared, writePrepared hashes s.db tx.began call.auth call.idempotencyKey call.requestHash quote source
        tx.required.resource gate attemptId reservationId = .ok prepared
    | _ => True
  | _ => True

def Detaches (s : State) (call : Call) : CallEvent → Prop
  | .finalize _ =>
    match call.phase with
    | .evidenced payment settlement => recordedStatus settlement = .settled ∧
        ∃ t, s.db.attempts.find? payment.attempt.id = some t ∧ t.payment_metadata.approvalId ≠ none
    | _ => False
  | _ => False

def KeepsApproval (hashes : Hashes) (s : State) (label : Label) : Prop :=
  ∀ id event call, label = .call id event → s.calls.find? id = some call →
    (call.phase.requested ≠ none → Proceeds hashes s call event) ∧ ¬Detaches s call event

theorem checkLimits_requested {account : AgentPaymentAccountRow} {quote : RuntimeQuote} {source : PaymentSourceRow}
    {readinessFailure : Option IdentityError} {spendable : Option Nat} (within : WithinLimits account quote spendable) :
    checkLimits account quote source true readinessFailure spendable = .ok () := by
  obtain ⟨cap, budget, wallet⟩ := within
  have small : ¬(0 < account.per_request_cap_usdc ∧ account.per_request_cap_usdc < quote.amountMicros) := by omega
  have funded : ¬account.budget_usdc < account.spent_usdc + account.reserved_usdc + quote.amountMicros := by omega
  have covered : (spendable.any fun balance => balance < quote.amountMicros) = false := by
    cases spendable with
    | none => rfl
    | some balance => simpa using wallet balance rfl
  simp [checkLimits, small, funded, covered]

theorem requested?_eq_some (requests : requested? s label = some (call, approvalId)) :
    ∃ policy tx quote source, label = .call call.id (.enforcePolicy policy approvalId) ∧ s.calls.find? call.id = some call ∧
      call.phase = .sourced tx quote source ∧ enforceX402Policy tx.account quote policy = .ok true ∧
      s.approvals.approvals.find? approvalId = none := by
  unfold requested? at requests
  split at requests
  · rename_i id policy approvalId
    obtain ⟨call, found, chosen⟩ := Option.bind_eq_some_iff.mp requests
    obtain rfl : call.id = id := Table.key_of_find? found
    split at chosen
    · rename_i tx quote source phase
      split at chosen
      · rename_i enforced fresh
        obtain ⟨rfl, rfl⟩ := Prod.mk.inj (Option.some.inj chosen)
        exact ⟨policy, tx, quote, source, rfl, found, phase, enforced, fresh⟩
      · cases chosen
    · cases chosen
  · cases requests

theorem step_call {id : CallId} {event : CallEvent} (taken : step hashes s (.call id event) = some s') :
    ∃ call effect, s.calls.find? id = some call ∧ callStep hashes s call event = some effect ∧
      s' = ⟨effect.approvals, effect.db, s.calls.put { call with phase := effect.phase }⟩ := by
  simp only [step] at taken
  split at taken
  · cases taken
  · rename_i call found
    obtain ⟨effect, moved, rfl⟩ := Option.map_eq_some_iff.mp taken
    exact ⟨call, effect, found, moved, rfl⟩

theorem put_awaited {phase : Phase} (found : s.calls.find? call.id = some call) (approvals : Approvals.State) (db : Db)
    (requested : phase.requested = some approvalId) :
    Awaited ⟨approvals, db, s.calls.put { call with phase }⟩ call approvalId :=
  ⟨{ call with phase }, Table.find?_put_self found, rfl, rfl, requested⟩

theorem created_of_fresh {approvals : Approvals.State} (fresh : approvals.approvals.find? approvalId = none)
    (input : Approvals.CreateApprovalInput) :
    ∃ approvals', Approvals.step approvals (.createApprovalRequest approvalId input) = some approvals' := by
  have inserted : (approvals.approvals.insert? (Approvals.approvalRowOf approvals.now approvalId input)).isSome :=
    Table.insert?_isSome fresh
  obtain ⟨rows, inserted⟩ := Option.isSome_iff_exists.mp inserted
  exact ⟨{ approvals with approvals := rows }, by simp only [Approvals.step, inserted, Option.map_some]⟩

theorem requested_awaited (requests : requested? s label = some (call, approvalId)) (taken : step hashes s label = some s') :
    Awaited s' call approvalId := by
  obtain ⟨policy, tx, quote, source, rfl, found, phase, enforced, fresh⟩ := requested?_eq_some requests
  obtain ⟨call', effect, found', moved, rfl⟩ := step_call taken
  obtain rfl := Option.some.inj (found.symm.trans found')
  obtain ⟨approvals, created⟩ := created_of_fresh fresh (approvalInput hashes call.auth tx.account quote
    (quotePayloadOf quote tx.required.resource source) call.requestHash policy)
  simp only [callStep, phase, enforced, created] at moved
  obtain rfl := Option.some.inj moved
  exact put_awaited found _ _ rfl

theorem Proceeds.requested {event : CallEvent} {effect : Effect} (proceeds : Proceeds hashes s call event)
    (sound : Sound s) (found : s.calls.find? call.id = some call) (requested : call.phase.requested = some approvalId)
    (moved : callStep hashes s call event = some effect) :
    effect.phase.requested = some approvalId ∨ ∃ t ∈ effect.db.attempts, t.connection_id = call.auth.connection_id ∧
      t.idempotency_key = call.idempotencyKey ∧ t.payment_metadata.approvalId = some approvalId := by
  cases phase : call.phase with
  | gated tx quote source gate required =>
    rw [phase] at requested
    cases required with
    | none => cases requested
    | some message =>
      cases event with
      | crash => exact proceeds.elim
      | checkLimits readinessFailure spendable =>
        simp only [Proceeds, phase] at proceeds
        simp only [callStep, phase, Option.isSome_some, checkLimits_requested proceeds] at moved
        obtain rfl := Option.some.inj moved
        exact .inl requested
      | _ => simp [callStep, phase] at moved
  | cleared tx quote source gate required =>
    rw [phase] at requested
    cases required with
    | none => cases requested
    | some message =>
      cases event with
      | crash => exact proceeds.elim
      | commitPrepare attemptId reservationId =>
        simp only [Proceeds, phase] at proceeds
        obtain ⟨⟨db, payment⟩, written⟩ := proceeds
        simp only [callStep, phase, written] at moved
        obtain rfl := Option.some.inj moved
        obtain ⟨attempts, reservations, accounts, inserted, -, -, rfl⟩ := (sound.prepared found phase written).tables
        refine .inr ⟨_, (Table.mem_insert? inserted).mpr (.inl rfl), rfl, rfl, ?_⟩
        exact (Option.or_none).trans requested
      | _ => simp [callStep, phase] at moved
  | _ =>
    rw [phase] at requested
    cases requested

theorem call_kept {id : CallId} (taken : step hashes s label = some s') (apart : ∀ event, label ≠ .call id event)
    (found : s.calls.find? id = some call) : s'.calls.find? id = some call := by
  cases step_inversion taken with
  | approvals | operator => exact found
  | opened authenticated inserted => exact Table.find?_insert?_of_find? inserted found
  | @called id' event other effect located moved =>
    refine (Table.find?_put_ne ?_).trans found
    rintro rfl
    obtain rfl : other.id = id' := Table.key_of_find? located
    exact apart event rfl

theorem Awaited.step (sound : Sound s) (keeps : KeepsApproval hashes s label) (awaited : Awaited s call approvalId)
    (taken : step hashes s label = some s') : Awaited s' call approvalId ∨ Attached s' call approvalId := by
  obtain ⟨c, found, auth, key, requested⟩ := awaited
  have sameId : c.id = call.id := Table.key_of_find? found
  by_cases own : ∃ event, label = .call call.id event
  · obtain ⟨event, rfl⟩ := own
    obtain ⟨c', effect, found', moved, rfl⟩ := step_call taken
    obtain rfl := Option.some.inj (found.symm.trans found')
    have proceeds := (keeps _ _ c rfl found).1 (by rw [requested]; nofun)
    rw [← sameId] at found
    rcases proceeds.requested sound found requested moved with going | ⟨t, member, connection, key', gated⟩
    · exact .inl ⟨{ c with phase := effect.phase }, sameId ▸ Table.find?_put_self found, auth, key, going⟩
    · exact .inr ⟨t, member, connection.trans (by rw [auth]), key'.trans key, gated⟩
  · exact .inl ⟨c, call_kept taken (fun event same => own ⟨event, same⟩) found, auth, key, requested⟩

theorem AttemptStep.gated (moved : AttemptStep s label db' t t') (located : db'.attempts.find? t.id = some t')
    (stored : s.db.attempts.find? t.id = some t) (gated : t.payment_metadata.approvalId = some approvalId)
    (keeps : KeepsApproval hashes s label) : t'.payment_metadata.approvalId = some approvalId := by
  cases moved with
  | kept | cancelled | submitted => exact gated
  | scrubbed =>
    unfold X402AttemptRow.scrub
    split <;> exact gated
  | retryable => exact gated
  | evidenced => exact gated
  | @finalized id call payment settlement eventId result metadata errorCode taken found phase names submitting finalized =>
    have stays := (keeps id (.finalize eventId) call taken found).2
    simp only [Detaches, phase, names] at stays
    have merged {row : X402AttemptRow} {status : X402AttemptStatus} {code : Option String}
        (inScope : Scoped s.db call.auth payment.attempt.id .submitting row)
        (located : (s.db.attempts.put (finalAttempt row status
          (row.payment_metadata.merge (finalMetadata eventId payment settlement)) settlement result code s.now)).find? t.id =
            some (finalAttempt t (recordedStatus settlement) metadata settlement result errorCode s.now)) :
        metadata.approvalId = some approvalId := by
      obtain rfl : row = t := Option.some.inj (inScope.found.symm.trans (names ▸ stored))
      have written : (s.db.attempts.put (finalAttempt row status
          (row.payment_metadata.merge (finalMetadata eventId payment settlement)) settlement result code s.now)).find? row.id =
            some _ := Table.find?_put_self stored
      have same := congrArg X402AttemptRow.payment_metadata (Option.some.inj (written.symm.trans located))
      exact (congrArg X402PaymentMetadata.approvalId same).symm.trans gated
    cases finalized with
    | settled answered status => exact (stays ⟨recordedStatus_settled answered status, t, stored, by rw [gated]; nofun⟩).elim
    | failed status inScope => exact merged inScope located
    | unknown status inScope => exact merged inScope located

theorem Attached.step (sound : Sound s) (keeps : KeepsApproval hashes s label) (attached : Attached s call approvalId)
    (taken : step hashes s label = some s') : Attached s' call approvalId := by
  obtain ⟨t, member, connection, key, gated⟩ := attached
  have stored := Table.find?_of_mem member
  obtain ⟨t', located, moved⟩ := (step_inversion taken).attempt sound stored
  have same := moved.revises.same
  refine ⟨t', Table.mem_of_find? located, ?_, ?_, moved.gated located stored gated keeps⟩
  · rw [same]
    exact connection
  · rw [same]
    exact key

theorem Phase.holdsAccount_of_requested {phase : Phase} (requested : phase.requested = some approvalId) :
    phase.holdsAccount = true := by
  unfold Phase.requested at requested
  split at requested
  · rfl
  · rfl
  · cases requested

theorem accountOf_connection {auth auth' : ConnectionAuthResult} (first : authenticated db auth = true)
    (second : authenticated db auth' = true) (same : auth.connection_id = auth'.connection_id) : accountOf auth = accountOf auth' := by
  simp only [authenticated, Option.any_eq_true, decide_eq_true_eq] at first second
  obtain ⟨row, found, org, agent⟩ := first
  obtain ⟨row', found', org', agent'⟩ := second
  rw [same, found'] at found
  obtain rfl := Option.some.inj found
  exact Prod.ext (org.symm.trans org') (agent.symm.trans agent')

theorem not_requested (sound : Sound s) {call' : Call} {approvalId' : ApprovalId}
    (known : Awaited s call approvalId ∨ Attached s call approvalId)
    (connection : call'.auth.connection_id = call.auth.connection_id) (key : call'.idempotencyKey = call.idempotencyKey) :
    requested? s label ≠ some (call', approvalId') := by
  intro requests
  obtain ⟨policy, tx, quote, source, rfl, found, phase, -, -⟩ := requested?_eq_some requests
  rcases known with awaited | attached
  · obtain ⟨c, awaiting, auth, -, requested⟩ := awaited
    have member := Table.mem_of_find? found
    have member' := Table.mem_of_find? awaiting
    have account : accountOf call'.auth = accountOf c.auth :=
      accountOf_connection (sound.calls call' member).authenticated (sound.calls c member').authenticated
        (connection.trans (by rw [auth]))
    have same : call' = c := sound.exclusive call' member c member' (by rw [phase]; rfl)
      (Phase.holdsAccount_of_requested requested) account
    rw [← same, phase] at requested
    cases requested
  · obtain ⟨t, member, onConnection, underKey, -⟩ := attached
    exact attemptFor_eq_none.mp (sound.known found phase).1.2 t member (onConnection.trans connection.symm)
      (underKey.trans key.symm)

theorem oneApproval {s₀ : State} (initial : Initial s₀) (run : Run (step hashes) s₀ events s)
    (conforms : Conforms (KeepsApproval hashes) events) : OneApproval events s := by
  have start : OneApproval [] s₀ := ⟨fun _ _ => Nat.zero_le _, fun _ member => absurd member List.not_mem_nil⟩
  refine run.history OneApproval conforms start fun events s label s' before _ one keeps taken => ?_
  have sound := sound_of_run initial before
  constructor
  · intro connectionId key
    rw [List.countP_append, List.countP_singleton]
    split
    · rename_i now
      have none : events.countP (fun e => (requested? e.1 e.2).any fun request => SameKey connectionId key request.1) = 0 := by
        refine List.countP_eq_zero.mpr fun e member earlier => ?_
        obtain ⟨⟨call, approvalId⟩, requests, sameKey⟩ := (Option.any_eq_true ..).mp earlier
        obtain ⟨⟨call', approvalId'⟩, requests', sameKey'⟩ := (Option.any_eq_true ..).mp now
        simp only [SameKey, Bool.and_eq_true, decide_eq_true_eq] at sameKey sameKey'
        exact not_requested sound (one.attached e member call approvalId requests) (sameKey'.1.trans sameKey.1.symm)
          (sameKey'.2.trans sameKey.2.symm) requests'
      omega
    · exact one.once connectionId key
  · intro e member call approvalId requests
    rcases List.mem_append.mp member with earlier | last
    · rcases one.attached e earlier call approvalId requests with awaited | attached
      · exact awaited.step sound keeps taken
      · exact .inr (attached.step sound keeps taken)
    · obtain rfl := List.mem_singleton.mp last
      exact .inl (requested_awaited requests taken)

section Example

open Workspace

def asksFor (approvalId : ApprovalId) : List CallEvent :=
  [.selectStranded, .commitStranded, .findAttempt, .discover (.ok offer), .snapshotAccount, .lockAccount, .findRacedAttempt,
    .selectQuote, .selectSource, .enforcePolicy ⟨1, .approvalRequired, "", ""⟩ approvalId]

def refusedTwice : List Label :=
  .setAgentPaymentAccess 1 1 (access 3) :: pays 100 (asksFor 1 ++ [.checkLimits none none]) ++
    pays 101 (asksFor 2 ++ [.checkLimits none none])

theorem approvals_left : ∃ events s, Run (step Workspace.hashes) (Workspace.state .circleWallets) events s ∧
    (¬∀ connectionId key,
      events.countP (fun e => (requested? e.1 e.2).any fun request => SameKey connectionId key request.1) ≤ 1) ∧
    ¬∀ e ∈ events, ∀ call approvalId, requested? e.1 e.2 = some (call, approvalId) →
      Awaited s call approvalId ∨ Attached s call approvalId := by
  obtain ⟨events, s, run, two, ended, unattached⟩ : ∃ events s,
      Run (step Workspace.hashes) (Workspace.state .circleWallets) events s ∧
        events.countP (fun e => (requested? e.1 e.2).any fun request => SameKey 10 "k" request.1) = 2 ∧
          (∀ call ∈ s.calls.rows, call.phase.requested = none) ∧ s.db.attempts.rows.length = 0 :=
    exists_run_with refusedTwice _ (by decide +kernel)
  refine ⟨events, s, run, fun once => absurd (two ▸ once 10 "k") (by decide), fun attached => ?_⟩
  obtain ⟨e, member, requests⟩ := List.countP_pos_iff.mp (two ▸ Nat.two_pos)
  obtain ⟨⟨call, approvalId⟩, requests, -⟩ := (Option.any_eq_true ..).mp requests
  rcases attached e member call approvalId requests with ⟨c, found, -, -, requested⟩ | ⟨t, stored, -⟩
  · rw [ended c (Table.mem_of_find? found)] at requested
    cases requested
  · rw [Table.mem_def, List.length_eq_zero_iff.mp unattached] at stored
    cases stored

instance (account : AgentPaymentAccountRow) (quote : RuntimeQuote) (spendable : Option Nat) :
    Decidable (WithinLimits account quote spendable) := inferInstanceAs (Decidable (_ ∧ _ ∧ ∀ balance ∈ spendable, _))

def proceedsCheck (s : State) (call : Call) : CallEvent → Bool
  | .crash | .finalize _ => false
  | .checkLimits _ spendable =>
    match call.phase with
    | .gated tx quote _ _ _ => WithinLimits tx.account quote spendable
    | _ => true
  | .commitPrepare attemptId reservationId =>
    match call.phase with
    | .cleared tx quote source gate _ =>
      (writePrepared Workspace.hashes s.db tx.began call.auth call.idempotencyKey call.requestHash quote source
        tx.required.resource gate attemptId reservationId).isOk
    | _ => true
  | _ => true

theorem proceedsCheck_sound {event : CallEvent} (checked : proceedsCheck s call event = true) :
    Proceeds Workspace.hashes s call event ∧ ¬Detaches s call event := by
  cases event with
  | crash | finalize => cases checked
  | checkLimits readinessFailure spendable =>
    refine ⟨?_, id⟩
    cases phase : call.phase <;> simp_all [proceedsCheck, Proceeds]
  | commitPrepare attemptId reservationId =>
    refine ⟨?_, id⟩
    cases phase : call.phase with
    | cleared tx quote source gate required =>
      simp only [proceedsCheck, Proceeds, phase] at checked ⊢
      revert checked
      cases writePrepared Workspace.hashes s.db tx.began call.auth call.idempotencyKey call.requestHash quote source
        tx.required.resource gate attemptId reservationId with
      | error failure => exact nofun
      | ok prepared => exact fun _ => ⟨prepared, rfl⟩
    | _ => simp [Proceeds, phase]
  | _ => exact ⟨trivial, id⟩

def keepsApprovalCheck (s : State) : Label → Bool
  | .call id event => (s.calls.find? id).all fun call => proceedsCheck s call event
  | _ => true

theorem keepsApproval_of_check {label : Label} (checked : keepsApprovalCheck s label = true) :
    KeepsApproval Workspace.hashes s label := by
  rintro id event call rfl found
  simp only [keepsApprovalCheck, found, Option.all_some] at checked
  exact ⟨fun _ => (proceedsCheck_sound checked).1, (proceedsCheck_sound checked).2⟩

/-- The approval of a payment waits with its attempt, and a second call finds them. -/
theorem oneApproval_attached : ∃ events s, Run (step Workspace.hashes) (Workspace.state .circleWallets) events s ∧
    (∃ t ∈ s.db.attempts.rows, t.payment_metadata.approvalId = some 1) ∧ OneApproval events s := by
  obtain ⟨events, s, run, conforms, stored⟩ : ∃ events s,
      Run (step Workspace.hashes) (Workspace.state .circleWallets) events s ∧
        Conforms (KeepsApproval Workspace.hashes) events ∧ ∃ t ∈ s.db.attempts.rows, t.payment_metadata.approvalId = some 1 := by
    exact exists_conforming_run (.setAgentPaymentAccess 1 1 (access 5) ::
        pays 100 (asksFor 1 ++ [.checkLimits none none, .commitPrepare 1 1]) ++
        pays 101 [.selectStranded, .commitStranded, .findAttempt, .readReservation, .readSource, .readApproval false (.ok ())])
      keepsApprovalCheck _ (fun _ _ => keepsApproval_of_check) (by decide +kernel)
  exact ⟨events, s, run, stored, oneApproval (Workspace.state_initial _) run conforms⟩

end Example

end AgentOps.Payments
