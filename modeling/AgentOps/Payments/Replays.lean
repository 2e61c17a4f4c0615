import AgentOps.Payments.Readings

namespace AgentOps.Payments
open Lib Identity

variable {hashes : Hashes} {db db' : Db} {s s' : State} {call : Call} {label : Label} {t t' : X402AttemptRow}
  {connectionId : ConnectionId} {key : String} {requestHash : Hash}

/-! # A retry answers as the first call did -/

def RuntimeX402PaymentResult.replay (first : RuntimeX402PaymentResult) (retained : Bool) : RuntimeX402PaymentResult :=
  if retained then first else first.purged

def answers (hashes : Hashes) (connectionId : ConnectionId) (key : String) (requestHash : Hash) (e : State × Label) :
    Option (RuntimeX402PaymentResult × Bool) :=
  match e.2 with
  | .call id _ =>
    (e.1.calls.find? id).bind fun call =>
      if call.uses connectionId key ∧ call.requestHash = requestHash then
        (step hashes e.1 e.2).bind fun s' => (s'.calls.find? id).bind fun call' => call'.phase.answer.map fun result =>
          (result, (s'.db.attemptFor connectionId key).any fun t => t.retained.isSome)
      else none
  | _ => none

theorem answer_of_orFail {α : Type} {result : Except Failure α} {next : α → Effect}
    (silent : ∀ value, (next value).phase.answer = none) : (s.orFail result next).phase.answer = none := by
  cases result with
  | error failure => rfl
  | ok value => exact silent value

theorem answer_event {event : CallEvent} {effect : Effect} {result : RuntimeX402PaymentResult}
    (taken : callStep hashes s call event = some effect) (answered : effect.phase.answer = some result) :
    event = .findAttempt ∨ event = .findRacedAttempt ∨ ∃ eventId, event = .finalize eventId := by
  have silent (none : effect.phase.answer = none) : False := by
    rw [none] at answered
    cases answered
  cases event with
  | findAttempt => exact .inl rfl
  | findRacedAttempt => exact .inr (.inl rfl)
  | finalize eventId => exact .inr (.inr ⟨eventId, rfl⟩)
  | selectStranded | simulateSettlement | callProvider | answer | crash | markRetryable | consumeApproval =>
    simp only [callStep] at taken
    repeat' split at taken
    all_goals first
      | cases taken; done
      | obtain rfl := Option.some.inj taken
        exact (silent rfl).elim
      | obtain ⟨approvals, -, rfl⟩ := Option.map_eq_some_iff.mp taken
        exact (silent rfl).elim
  | commitStranded | discover | snapshotAccount | lockAccount | selectQuote | selectSource | enforcePolicy | checkLimits
  | readReservation | readSource | preflight | awaitConsumption | markSubmitting | persistEvidence =>
    simp only [callStep] at taken
    repeat' split at taken
    all_goals first
      | cases taken; done
      | obtain rfl := Option.some.inj taken
        first
          | exact (silent rfl).elim
          | exact (silent (answer_of_orFail fun _ => rfl)).elim
  | commitPrepare attemptId reservationId =>
    simp only [callStep] at taken
    split at taken
    · rename_i approvalRequired phase
      obtain rfl := Option.some.inj taken
      exact (silent (answer_of_orFail fun _ => by cases approvalRequired <;> rfl)).elim
    · cases taken
  | readApproval hookAllows destination =>
    simp only [callStep] at taken
    split at taken
    · rename_i evidence reservation source phase
      obtain rfl := Option.some.inj taken
      exact (silent (answer_of_orFail fun _ => by cases evidence <;> rfl)).elim
    · cases taken

theorem scrubbed_stored (linked : Linked { db with attempts := db.attempts.put (t.scrub now) })
    (stored : db.attemptFor connectionId key = some t) :
    ({ db with attempts := db.attempts.put (t.scrub now) } : Db).attemptFor connectionId key = some (t.scrub now) := by
  have found := Table.find?_of_mem (attemptFor_eq_some stored).1
  refine attemptFor_revised linked stored ?_ (scrub_revises t now).same
  rw [← scrub_id t now] at found
  have written := Table.find?_put_self found
  rw [scrub_id] at written
  exact written

theorem callStep_answers {id : CallId} {event : CallEvent} {effect : Effect} {result : RuntimeX402PaymentResult}
    (sound : Sound s) (found : s.calls.find? id = some call) (taken : callStep hashes s call event = some effect)
    (linked : Linked effect.db) (answered : effect.phase.answer = some result) :
    ∃ t, effect.db.attemptFor call.auth.connection_id call.idempotencyKey = some t ∧
      t.request_hash = call.requestHash ∧ result = racedResult t := by
  -- the two statements that look the key up
  have read {now : Time} {db : Db} {row? : Option X402AttemptRow} {row : X402AttemptRow}
      (read : findAttempt s.db now call.auth.connection_id call.idempotencyKey = (db, row?)) (isRow : row? = some row)
      (linked : Linked db) : db.attemptFor call.auth.connection_id call.idempotencyKey = some row := by
    rcases findAttempt_some read with ⟨missing, -⟩ | ⟨t, stored, isScrubbed, rfl⟩
    · rw [missing] at isRow
      cases isRow
    · rw [isScrubbed] at isRow
      obtain rfl := Option.some.inj isRow
      exact scrubbed_stored linked stored
  rcases answer_event taken answered with rfl | rfl | ⟨eventId, rfl⟩
  · simp only [callStep] at taken
    split at taken
    · obtain rfl := Option.some.inj taken
      cases located : (findAttempt s.db s.now call.auth.connection_id call.idempotencyKey).2 with
      | none =>
        simp only [located] at answered
        cases answered
      | some row =>
        simp only [located] at answered
        obtain ⟨requested, rfl⟩ := afterFind_answer answered
        exact ⟨row, read rfl located linked, requested, rfl⟩
    · cases taken
  · simp only [callStep] at taken
    split at taken
    · split at taken
      · obtain rfl := Option.some.inj taken
        cases answered
      · rename_i row located
        split at taken <;> obtain rfl := Option.some.inj taken
        · cases answered
        · rename_i requested
          obtain rfl := Option.some.inj answered
          exact ⟨row, read rfl located linked, not_not.mp requested, rfl⟩
    · cases taken
  · simp only [callStep] at taken
    split at taken
    · rename_i payment settlement phase
      split at taken
      · cases taken
      · obtain rfl := Option.some.inj taken
        cases finalized : finalizePaidHttpPayment s.db s.now call.auth payment settlement eventId with
        | error failure =>
          simp only [finalized] at answered
          cases answered
        | ok written =>
          obtain ⟨db, result'⟩ := written
          simp only [finalized, State.orFail] at answered linked ⊢
          obtain rfl := Option.some.inj answered
          have ok : PaymentOk s.db call payment 1 := sound.known found phase
          obtain ⟨row, metadata, errorCode, inScope, attempts, -⟩ := (finalizePaidHttpPayment_ok finalized).attempt
          obtain ⟨t, stored, located, same, -⟩ := ok.attempt.reached sound.linked
          obtain rfl : row = t := Option.some.inj (inScope.found.symm.trans located)
          set final := finalAttempt row (recordedStatus settlement) metadata settlement result' errorCode s.now
          refine ⟨final, attemptFor_revised linked stored ?_ rfl, ?_, rfl⟩
          · rw [attempts]
            exact Table.find?_put_self (r := final) inScope.located
          · show row.request_hash = call.requestHash
            rw [same]
            exact ok.attempt.request
    · cases taken

theorem answers_reads {answer : RuntimeX402PaymentResult × Bool} (sound : Sound s)
    (taken : step hashes s label = some s')
    (answered : answers hashes connectionId key requestHash (s, label) = some answer) :
    ∃ t, s'.db.attemptFor connectionId key = some t ∧ t.request_hash = requestHash ∧
      answer = (racedResult t, t.retained.isSome) := by
  have linked : Linked s'.db := sound.linked_of_write (step_inversion taken).write
  cases label with
  | call id event =>
    obtain ⟨call, found, answered⟩ := Option.bind_eq_some_iff.mp answered
    have same : call.id = id := Table.key_of_find? found
    subst same
    split at answered
    · rename_i matched
      obtain ⟨uses, requested⟩ := matched
      obtain ⟨s'', taken', answered⟩ := Option.bind_eq_some_iff.mp answered
      obtain rfl : s' = s'' := Option.some.inj (taken.symm.trans taken')
      obtain ⟨call', found', answered⟩ := Option.bind_eq_some_iff.mp answered
      obtain ⟨result, returned, rfl⟩ := Option.map_eq_some_iff.mp answered
      simp only [step, show s.calls.find? call.id = some call from found] at taken
      obtain ⟨effect, moved, rfl⟩ := Option.map_eq_some_iff.mp taken
      have phase : call'.phase = effect.phase := by
        have located := Table.find?_put_self (r := { call with phase := effect.phase }) found
        rw [← Option.some.inj (located.symm.trans found')]
      rw [phase] at returned
      obtain ⟨t, stored, same, rfl⟩ := callStep_answers sound found moved linked returned
      obtain ⟨connection, named⟩ := Call.uses_iff.mp uses
      rw [connection, named] at stored
      exact ⟨t, stored, same.trans requested, by rw [stored]; rfl⟩
    · cases answered
  | _ => cases answered

structure Settles (requestHash : Hash) (t : X402AttemptRow) (first : RuntimeX402PaymentResult) : Prop where
  request : t.request_hash = requestHash
  final : t.status.stage = 2
  purged : paymentResultFromAttempt t = first.purged
  retained : t.retained.isSome = true → racedResult t = first

theorem Faithful.raced_status (faithful : Faithful t) : (racedResult t).payment.status = t.status := by
  unfold racedResult
  split
  · rename_i evidence result retained
    exact (congrArg (fun result => result.payment.status) (faithful.result evidence result retained).2).symm
  · rfl

theorem Faithful.settles (faithful : Faithful t) (request : t.request_hash = requestHash) (final : t.status.stage = 2) :
    Settles requestHash t (racedResult t) := by
  refine ⟨request, final, ?_, fun _ => rfl⟩
  unfold racedResult
  split
  · rename_i evidence result retained
    exact (faithful.result evidence result retained).2
  · rfl

theorem Settles.replay {first : RuntimeX402PaymentResult} (settles : Settles requestHash t first) :
    racedResult t = first.replay t.retained.isSome := by
  cases retained : t.retained with
  | none =>
    rw [racedResult, retained]
    exact settles.purged
  | some kept => exact settles.retained (by rw [retained]; rfl)

theorem Settles.step {first : RuntimeX402PaymentResult} (settles : Settles requestHash t first)
    (moved : AttemptStep s label db' t t') : Settles requestHash t' first := by
  have final := settles.final
  have early {status : X402AttemptStatus} (same : t.status = status) (less : status.stage < 2) : False := by
    rw [same] at final
    omega
  cases moved with
  | kept => exact settles
  | @scrubbed now =>
    refine ⟨?_, ?_, ?_, ?_⟩
    · rw [(scrub_revises t now).same]
      exact settles.request
    · rw [scrub_status]
      exact final
    · rw [paymentResultFromAttempt_scrub]
      exact settles.purged
    · intro retained
      rcases scrub_cases t now with dropped | same
      · rw [dropped] at retained
        cases retained
      · rw [same] at retained ⊢
        exact settles.retained retained
  | cancelled reserved | retryable reserved | submitted _ _ _ _ reserved => exact (early reserved (by decide)).elim
  | evidenced _ _ _ _ submitting | finalized _ _ _ _ submitting => exact (early submitting (by decide)).elim

structure Repeated (hashes : Hashes) (connectionId : ConnectionId) (key : String) (requestHash : Hash)
    (events : List (State × Label)) (s : State) : Prop where
  settles : ∀ first ∈ events.filterMap (answers hashes connectionId key requestHash), first.1.payment.status.stage = 2 →
    ∃ t, s.db.attemptFor connectionId key = some t ∧ Settles requestHash t first.1
  repeats : (events.filterMap (answers hashes connectionId key requestHash)).Pairwise fun first later =>
    first.1.payment.status.stage = 2 → later.1 = first.1.replay later.2

theorem Repeated.step {events : List (State × Label)} (repeated : Repeated hashes connectionId key requestHash events s)
    (sound : Sound s) (replayable : Replayable connectionId key s') (taken : Payments.step hashes s label = some s') :
    Repeated hashes connectionId key requestHash (events ++ [(s, label)]) s' := by
  have moved := step_inversion taken
  have linked : Linked s'.db := sound.linked_of_write moved.write
  have settles (first : RuntimeX402PaymentResult × Bool)
      (earlier : first ∈ events.filterMap (answers hashes connectionId key requestHash))
      (final : first.1.payment.status.stage = 2) :
      ∃ t, s'.db.attemptFor connectionId key = some t ∧ Settles requestHash t first.1 := by
    obtain ⟨t, stored, settles⟩ := repeated.settles first earlier final
    obtain ⟨t', written, step⟩ := moved.attempt sound (Table.find?_of_mem (attemptFor_eq_some stored).1)
    exact ⟨t', attemptFor_revised linked stored written step.revises.same, settles.step step⟩
  cases answered : answers hashes connectionId key requestHash (s, label) with
  | none =>
    have same : (events ++ [(s, label)]).filterMap (answers hashes connectionId key requestHash) =
        events.filterMap (answers hashes connectionId key requestHash) := by
      simp [List.filterMap_append, answered]
    constructor <;> rw [same]
    · exact settles
    · exact repeated.repeats
  | some answer =>
    obtain ⟨t, stored, request, rfl⟩ := answers_reads sound taken answered
    have faithful := replayable.attempt t stored
    have last : (events ++ [(s, label)]).filterMap (answers hashes connectionId key requestHash) =
        events.filterMap (answers hashes connectionId key requestHash) ++ [(racedResult t, t.retained.isSome)] := by
      simp [List.filterMap_append, answered]
    constructor <;> rw [last]
    · intro first member final
      rcases List.mem_append.mp member with earlier | now
      · exact settles first earlier final
      · obtain rfl := List.mem_singleton.mp now
        rw [faithful.raced_status] at final
        exact ⟨t, stored, faithful.settles request final⟩
    · refine List.pairwise_append.mpr ⟨repeated.repeats, List.pairwise_singleton _ _, ?_⟩
      intro first earlier later now final
      obtain rfl := List.mem_singleton.mp now
      obtain ⟨t', stored', settles⟩ := settles first earlier final
      obtain rfl : t = t' := Option.some.inj (stored.symm.trans stored')
      exact settles.replay

theorem repeated_of_run {s₀ : State} {events : List (State × Label)} (initial : Initial s₀)
    (run : Run (step hashes) s₀ events s)
    (named : Conforms (fun s label => answersNetwork connectionId key s label = true) events) :
    Repeated hashes connectionId key requestHash events s := by
  refine run.history (Repeated hashes connectionId key requestHash) named ⟨by simp, List.Pairwise.nil⟩ ?_
  intro events s label s' before conforms repeated named taken
  have sound := sound_of_run initial before
  have replayable := (replayable_of_run initial before conforms).step sound (termsKept_of_run initial before) named
    (step_inversion taken)
  exact repeated.step sound replayable taken

theorem afterFind_final (faithful : Faithful t) (final : t.status.stage = 2) (org : t.org_id = call.auth.org_id)
    (connection : t.connection_id = call.auth.connection_id) (request : t.request_hash = call.requestHash) :
    afterFind call (some t) = .returned (racedResult t) := by
  have unreserved : t.status ≠ .reserved := by
    intro reserved
    rw [reserved] at final
    cases final
  simp only [afterFind, racedResult]
  rw [if_neg (by simp [org, connection]), if_neg (not_not.mpr request), if_pos unreserved]
  cases retained : t.retained.map Retained.content with
  | none => rfl
  | some content =>
    cases content with
    | result => rfl
    | evidence settlement =>
      rw [(faithful.evidence settlement retained).1] at final
      cases final

theorem lookup_answers (sound : Sound s) (replayable : Replayable connectionId key s) (member : call ∈ s.calls)
    (uses : call.uses connectionId key = true) (requested : call.requestHash = requestHash)
    (phase : call.phase = .cleaned) (stored : s.db.attemptFor connectionId key = some t)
    (request : t.request_hash = requestHash) (final : t.status.stage = 2) :
    ∃ s', step hashes s (.call call.id .findAttempt) = some s' ∧
      (answers hashes connectionId key requestHash (s, .call call.id .findAttempt)).isSome = true := by
  subst requested
  have found := Table.find?_of_mem member
  obtain ⟨connection, named⟩ := Call.uses_iff.mp uses
  rw [← connection, ← named] at stored
  have ok := (attemptOk_of_found sound.linked (sound.calls call member).authenticated stored request).scrub s.now
  have faithful : Faithful (t.scrub s.now) := by
    rw [connection, named] at stored
    exact (replayable.attempt t stored).scrub s.now
  have lands := afterFind_final faithful (by rw [scrub_status]; exact final) ok.org ok.connection ok.request
  have moved : callStep hashes s call .findAttempt =
      some ⟨{ s.db with attempts := s.db.attempts.put (t.scrub s.now) }, s.approvals,
        .returned (racedResult (t.scrub s.now))⟩ := by
    simp only [callStep, phase, findAttempt, stored, lands]
  have located : (s.calls.put { call with phase := .returned (racedResult (t.scrub s.now)) }).find? call.id =
      some { call with phase := .returned (racedResult (t.scrub s.now)) } :=
    Table.find?_put_self (r := { call with phase := .returned (racedResult (t.scrub s.now)) }) found
  have taken : step hashes s (.call call.id .findAttempt) = some
      ⟨s.approvals, { s.db with attempts := s.db.attempts.put (t.scrub s.now) },
        s.calls.put { call with phase := .returned (racedResult (t.scrub s.now)) }⟩ := by
    simp only [step, found, moved, Option.map_some]
  refine ⟨_, taken, ?_⟩
  simp [answers, found, uses, taken, located, Phase.answer]

/-- After the answer that a payment has ended with, every answer repeats it: as it was while the result is retained, and
without the response then. A retry that looks the key up is answered. -/
structure ReplaysAgree (hashes : Hashes) (connectionId : ConnectionId) (key : String) (requestHash : Hash)
    (events : List (State × Label)) (s : State) : Prop where
  repeats : (events.filterMap (answers hashes connectionId key requestHash)).Pairwise fun first later =>
    first.1.payment.status.stage = 2 → later.1 = first.1.replay later.2
  answered : ∀ first ∈ events.filterMap (answers hashes connectionId key requestHash),
    first.1.payment.status.stage = 2 → ∀ call ∈ s.calls, call.uses connectionId key = true →
      call.requestHash = requestHash → call.phase = .cleaned →
        ∃ later, answers hashes connectionId key requestHash (s, .call call.id .findAttempt) = some later ∧
          later.1 = first.1.replay later.2

theorem replays_agree {s₀ : State} {events : List (State × Label)} (initial : Initial s₀)
    (run : Run (step hashes) s₀ events s)
    (named : Conforms (fun s label => answersNetwork connectionId key s label = true) events) :
    ReplaysAgree hashes connectionId key requestHash events s := by
  have sound := sound_of_run initial run
  have replayable := replayable_of_run initial run named
  have repeated : Repeated hashes connectionId key requestHash events s := repeated_of_run initial run named
  refine ⟨repeated.repeats, ?_⟩
  intro first earlier final call member uses requested phase
  obtain ⟨t, stored, settles⟩ := repeated.settles first earlier final
  obtain ⟨s', taken, answers⟩ := lookup_answers sound replayable member uses requested phase stored settles.request
    settles.final
  obtain ⟨later, answered⟩ := Option.isSome_iff_exists.mp answers
  refine ⟨later, answered, ?_⟩
  have next := (repeated.step sound (replayable.step sound (termsKept_of_run initial run) rfl (step_inversion taken))
    taken).repeats
  rw [List.filterMap_append, List.pairwise_append] at next
  exact next.2.2 first earlier later (by simp [answered]) final

section Example

namespace Workspace

def foreign : RuntimeX402SettlementResult where
  errorReason := some "payment_response_network_mismatch"
  network := "eip155:1"
  payment := some ⟨some "payment_response_network_mismatch", "eip155:1", some "0xpayer", .unknown, some "0xtransaction"⟩
  providerMode := .mode .test
  response := none
  success := false

def retries (answer : RuntimeX402SettlementResult) : List Label :=
  .setAgentPaymentAccess 1 1 (access 5) ::
    pays 100 (prepares ++ submits (.ok answer) ++ [.persistEvidence, .finalize 1]) ++
      .approvals (.tick fifteenMinutes) :: pays 101 [.selectStranded, .commitStranded, .findAttempt]

end Workspace

/-- After the purge a retry names the attempt's network, where the first answer named that of the receipt. -/
theorem replay_names_other_network : ∃ events s,
    Run (step Workspace.hashes) (Workspace.state .circleWallets) events s ∧
      (events.filterMap (answers Workspace.hashes 10 "k" "request")).map (fun answer => answer.1.payment.network) =
        ["eip155:1", "eip155:84532"] ∧ ¬ReplaysAgree Workspace.hashes 10 "k" "request" events s := by
  obtain ⟨events, s, run, networks, apart⟩ : ∃ events s,
      Run (step Workspace.hashes) (Workspace.state .circleWallets) events s ∧
      (events.filterMap (answers Workspace.hashes 10 "k" "request")).map (fun answer => answer.1.payment.network) =
        ["eip155:1", "eip155:84532"] ∧
      ¬(events.filterMap (answers Workspace.hashes 10 "k" "request")).Pairwise fun first later =>
        first.1.payment.status.stage = 2 → later.1 = first.1.replay later.2 :=
    exists_run_with (Workspace.retries Workspace.foreign) _ (by decide)
  exact ⟨events, s, run, networks, fun agree => apart agree.repeats⟩

/-- A payment that settles is answered twice, the second time without what had been retained. -/
theorem replays_agree_settled : ∃ events s,
    Run (step Workspace.hashes) (Workspace.state .circleWallets) events s ∧
      (events.filterMap (answers Workspace.hashes 10 "k" "request")).map (fun answer =>
        (answer.1.payment.status, answer.2)) = [(.settled, true), (.settled, false)] ∧
      ReplaysAgree Workspace.hashes 10 "k" "request" events s := by
  obtain ⟨events, s, run, named, answered⟩ : ∃ events s,
      Run (step Workspace.hashes) (Workspace.state .circleWallets) events s ∧
      (events.all fun e => answersNetwork 10 "k" e.1 e.2) = true ∧
      (events.filterMap (answers Workspace.hashes 10 "k" "request")).map (fun answer =>
        (answer.1.payment.status, answer.2)) = [(.settled, true), (.settled, false)] :=
    exists_run_with (Workspace.retries Workspace.settled) _ (by decide)
  exact ⟨events, s, run, answered, replays_agree (Workspace.state_initial _) run (List.all_eq_true.mp named)⟩

end Example

end AgentOps.Payments
