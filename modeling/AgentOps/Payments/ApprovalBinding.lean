import AgentOps.Approvals.Consumption
import AgentOps.Payments.Idempotency

namespace AgentOps.Payments
open Lib Identity

variable {hashes : Hashes} {db : Db} {s s' : State} {call : Call} {label : Label} {events : List (State × Label)}

/-! # Approvals and the payments that wait for them -/

def consumption? (s : State) : Label → Option (Approvals.Consumer × Approvals.ApprovalRow)
  | .approvals label => Approvals.consumption? s.approvals label
  | _ => none

def markedAttempt (s : State) (call : Call) : Option X402AttemptRow :=
  match call.phase with
  | .preflighted payment | .approved payment =>
    match markSubmitting s.db call.auth payment.attempt.id with
    | .ok _ => s.db.attempts.find? payment.attempt.id
    | .error _ => none
  | _ => none

structure ApprovalSafe (events : List (State × Label)) : Prop where
  once : ∀ approvalId, events.countP (fun e => (consumption? e.1 e.2).any fun c => c.2.id = approvalId) ≤ 1
  proper : ∀ e ∈ events, ∀ consumer row, consumption? e.1 e.2 = some (consumer, row) →
    Approvals.ProperConsumption e.1.approvals consumer row
  bound : ∀ before s id after call attempt approvalId, events = before ++ (s, .call id .markSubmitting) :: after →
    s.calls.find? id = some call → markedAttempt s call = some attempt →
    attempt.payment_metadata.approvalId = some approvalId →
    ∃ e ∈ before, e.2 = .approvals (.commitConsumption (.payment id)) ∧
      ∃ consumer row, consumption? e.1 e.2 = some (consumer, row) ∧ row.id = approvalId ∧
        row.request = ⟨some attempt.request_hash, some attempt.quote_hash⟩

/-- No row that the `UPDATE` of a consumption selects has expired. -/
def ConsumesUnexpired (s : State) (label : Label) : Prop :=
  ∀ id consumer approval row, label = .approvals (.commitConsumption id) →
    s.approvals.rechecked? id = some (consumer, approval) →
    Approvals.findScoped s.approvals.approvals consumer.auth.org_id approval.id = some row → row.status = .approved →
      s.now < row.expires_at

inductive ApprovalMove (s : State) : Label → Approvals.State → Prop where
  | unchanged {label : Label} : ApprovalMove s label s.approvals
  | took {label : Approvals.Label} {approvals : Approvals.State}
      (taken : Approvals.step s.approvals label = some approvals) : ApprovalMove s (.approvals label) approvals
  | requested {label : Label} {id : ApprovalId} {input : Approvals.CreateApprovalInput} {approvals : Approvals.State}
      (taken : Approvals.step s.approvals (.createApprovalRequest id input) = some approvals) :
      ApprovalMove s label approvals
  | consumerOpened {label : Label} {id : Approvals.ConsumerId} {auth : ConnectionAuthResult} {approvalId : ApprovalId}
      {decisionId : DecisionId} {approvals : Approvals.State}
      (taken : Approvals.step s.approvals (.consumeApproval id auth approvalId decisionId) = some approvals) :
      ApprovalMove s label approvals

theorem Step.approvalMove (taken : Step hashes s label s') : ApprovalMove s label s'.approvals := by
  cases taken with
  | approvals mayRun taken => exact .took taken
  | operator | opened => exact .unchanged
  | called found taken =>
    cases taken with
    | approvalRequested phase enforced created => exact .requested created
    | consumeApproval phase gated started => exact .consumerOpened started
    | ends | selectStranded | commitStranded | findAttempt | discover | snapshotAccount | lockAccount | fresh | raced
    | selectQuote | selectSource | permitted | checkLimits | commitPrepare | readReservation | readSource
    | readApproval | readEvidence | preflighted | unready | markRetryable | consumed | markSubmitting
    | simulateSettlement | callProvider | answer | persistEvidence | finalize => exact .unchanged

namespace ApprovalMove

variable {approvals : Approvals.State}

theorem sound (moved : ApprovalMove s label approvals) (sound : Approvals.Sound s.approvals) :
    Approvals.Sound approvals := by
  cases moved with
  | unchanged => exact sound
  | took taken | requested taken | consumerOpened taken => exact sound.step (Approvals.step_inversion taken)

theorem advances (moved : ApprovalMove s label approvals) (sound : Approvals.Sound s.approvals) :
    Table.Grows Approvals.Advances s.approvals.approvals approvals.approvals := by
  cases moved with
  | unchanged => exact .refl Approvals.Advances.refl _
  | took taken | requested taken | consumerOpened taken => exact (Approvals.step_inversion taken).advances sound

end ApprovalMove

theorem approvals_sound_of_run {s₀ : State} (initial : Initial s₀) (run : Run (step hashes) s₀ events s) :
    Approvals.Sound s.approvals :=
  run.always (fun s => Approvals.Sound s.approvals) initial.approvals.sound
    fun _ _ _ sound taken => (step_inversion taken).approvalMove.sound sound

theorem consumed_once {s₀ : State} (initial : Initial s₀) (run : Run (step hashes) s₀ events s)
    (approvalId : ApprovalId) :
    events.countP (fun e => (consumption? e.1 e.2).any fun c => c.2.id = approvalId) ≤ 1 := by
  have bounded := run.countP_le (fun s label => (consumption? s label).any fun c => c.2.id = approvalId) (fun _ => 0)
    (fun s => s.approvals.consumed approvalId) (Nat.zero_le _) ?_
  · have atMost : s.approvals.consumed approvalId ≤ 1 := by
      unfold Approvals.State.consumed
      split <;> omega
    omega
  · intro events s label s' before taken
    have sound := approvals_sound_of_run initial before
    have moved := (step_inversion taken).approvalMove
    cases label with
    | approvals label =>
      simp only [step, Option.ite_none_right_eq_some, Option.map_eq_some_iff] at taken
      obtain ⟨-, approvals, taken, rfl⟩ := taken
      have counted := Approvals.consumes_once sound taken approvalId
      simp only [Nat.add_zero, Nat.zero_add]
      exact counted
    | _ =>
      have mono := Approvals.consumed_mono (moved.advances sound) approvalId
      simpa [consumption?] using mono

def Consumed (events : List (State × Label)) (approvals : Approvals.Requests) (id : Approvals.ConsumerId)
    (approvalId : ApprovalId) : Prop :=
  ∃ e ∈ events, e.2 = .approvals (.commitConsumption id) ∧ ∃ consumer row, consumption? e.1 e.2 = some (consumer, row) ∧
    row.id = approvalId ∧ ∃ row', approvals.find? approvalId = some row' ∧ row'.request = row.request

theorem Consumed.keep {approvals approvals' : Approvals.Requests} {id : Approvals.ConsumerId} {approvalId : ApprovalId}
    (consumed : Consumed events approvals id approvalId) (grows : Table.Grows Approvals.Advances approvals approvals')
    (later : List (State × Label)) : Consumed (events ++ later) approvals' id approvalId := by
  obtain ⟨e, member, taken, consumer, row, consumption, names, row', found, request⟩ := consumed
  obtain ⟨row'', found', same, -⟩ := grows _ _ found
  refine ⟨e, List.mem_append_left _ member, taken, consumer, row, consumption, names, row'', found', ?_⟩
  rw [same]
  exact request

def ConsumersDone (events : List (State × Label)) (approvals : Approvals.State) : Prop :=
  ∀ consumer ∈ approvals.consumers, consumer.phase = .finished (.ok ()) →
    Consumed events approvals.approvals consumer.id consumer.approvalId

theorem consumerOf_not_done {approvals : Approvals.State} {id : Approvals.ConsumerId} {auth : ConnectionAuthResult}
    {approvalId : ApprovalId} {decisionId : DecisionId} :
    (Approvals.consumerOf approvals id auth approvalId decisionId).phase ≠ .finished (.ok ()) := by
  unfold Approvals.consumerOf
  intro phase
  split at phase <;> cases phase

theorem ApprovalMove.succeeded {approvals : Approvals.State} (moved : ApprovalMove s label approvals)
    {consumer : Approvals.Consumer} (member : consumer ∈ approvals.consumers) (phase : consumer.phase = .finished (.ok ())) :
    consumer ∈ s.approvals.consumers ∨
      ∃ old approval consumptions, label = .approvals (.commitConsumption consumer.id) ∧
        s.approvals.rechecked? consumer.id = some (old, approval) ∧ consumer = { old with phase := .finished (.ok ()) } ∧
        Approvals.commitConsumption s.approvals.approvals s.approvals.consumptions old.auth approval old.decisionId =
          .ok (approvals.approvals, consumptions) := by
  have opened {consumers : Table Approvals.Consumer.id} {id : Approvals.ConsumerId} {auth : ConnectionAuthResult}
      {approvalId : ApprovalId} {decisionId : DecisionId}
      (inserted : s.approvals.consumers.insert? (Approvals.consumerOf s.approvals id auth approvalId decisionId) =
        some consumers) (member : consumer ∈ consumers) : consumer ∈ s.approvals.consumers := by
    rcases (Table.mem_insert? inserted).mp member with rfl | member
    · exact (consumerOf_not_done phase).elim
    · exact member
  have moves {target : Approvals.Consumer} {begun : Approvals.ConsumerPhase} (unfinished : begun ≠ .finished (.ok ()))
      (member : consumer ∈ (s.approvals.setConsumer target begun).consumers) : consumer ∈ s.approvals.consumers := by
    rcases Table.mem_put.mp member with ⟨member, -⟩ | ⟨rfl, -⟩
    · exact member
    · exact (unfinished phase).elim
  cases moved with
  | unchanged => exact .inl member
  | requested taken =>
    cases Approvals.step_inversion taken with
    | created inserted => exact .inl member
  | consumerOpened taken =>
    cases Approvals.step_inversion taken with
    | checked inserted => exact .inl (opened inserted member)
  | took taken =>
    cases Approvals.step_inversion taken with
    | checked inserted => exact .inl (opened inserted member)
    | policyRefused checked | rechecked checked | consumeRefused rechecked => exact .inl (moves (by simp) member)
    | @consumed id old approval approvals consumptions rechecked free committed =>
      rcases Table.mem_put.mp member with ⟨member, -⟩ | ⟨rfl, -⟩
      · exact .inl member
      · have named : old.id = id := Table.key_of_find? (Approvals.State.rechecked?_eq_some.mp rechecked).1
        exact .inr ⟨old, approval, consumptions, by rw [← named], by rw [← rechecked, ← named], rfl, committed⟩
    | tick | created | opened | lockRefused | locked | voteRefused | voted | abandoned | denyRefused | denied =>
      exact .inl member

theorem ConsumersDone.keep (done : ConsumersDone events s.approvals) (sound : Approvals.Sound s.approvals)
    {approvals : Approvals.State} (moved : ApprovalMove s label approvals) :
    ConsumersDone (events ++ [(s, label)]) approvals := by
  have grows := moved.advances sound
  intro consumer member phase
  rcases moved.succeeded member phase with before | ⟨old, approval, consumptions, rfl, rechecked, same, committed⟩
  · exact (done consumer before phase).keep grows _
  · obtain ⟨found, checked⟩ := Approvals.State.rechecked?_eq_some.mp rechecked
    obtain ⟨sameId, -⟩ := sound.checkedRow old (Table.mem_of_find? found) approval (.inr checked)
    obtain ⟨row, located, -⟩ := Approvals.commitConsumption_ok committed
    have consumption : consumption? s (.approvals (.commitConsumption consumer.id)) = some (old, row) := by
      simp [consumption?, Approvals.consumption?, rechecked, committed, located]
    obtain ⟨row', found', request, -⟩ := grows _ _ located
    have names : consumer.approvalId = approval.id := by rw [same, sameId]
    refine ⟨_, List.mem_append_right _ (List.mem_singleton_self _), rfl, old, row, consumption, ?_, row', ?_, ?_⟩
    · rw [names]
      exact Table.key_of_find? located
    · rw [names]
      exact found'
    · rw [request]

def GateStored (db : Db) (attemptId : AttemptId) (approvalId : Option ApprovalId) : Prop :=
  ∃ t, db.attempts.find? attemptId = some t ∧ (t.status.stage < 2 → t.payment_metadata.approvalId = approvalId)

theorem GateStored.keep {db' : Db} {attemptId : AttemptId} {approvalId : Option ApprovalId}
    (stored : GateStored db attemptId approvalId) (keeps : Keeps db db') : GateStored db' attemptId approvalId := by
  obtain ⟨t, found, same⟩ := stored
  obtain ⟨t', found', revises⟩ := keeps.attempts _ _ found
  refine ⟨t', found', fun early => ?_⟩
  rw [(revises.gate early).1]
  exact same (revises.stage_le.trans_lt early)

def BoundTo (approvals : Approvals.Requests) (attempt : X402AttemptRow) (approvalId : ApprovalId) : Prop :=
  ∃ row, approvals.find? approvalId = some row ∧ row.request = ⟨some attempt.request_hash, some attempt.quote_hash⟩

theorem BoundTo.keep {approvals approvals' : Approvals.Requests} {attempt : X402AttemptRow} {approvalId : ApprovalId}
    (bound : BoundTo approvals attempt approvalId) (grows : Table.Grows Approvals.Advances approvals approvals') :
    BoundTo approvals' attempt approvalId := by
  obtain ⟨row, found, request⟩ := bound
  obtain ⟨row', found', same, -⟩ := grows _ _ found
  refine ⟨row', found', ?_⟩
  rw [same]
  exact request

structure PaymentBound (s : State) (payment : PreparedPaidHttpPayment) : Prop where
  stored : GateStored s.db payment.attempt.id payment.policyGate.approvalId
  bound : ∀ approvalId, payment.policyGate.approvalId = some approvalId →
    BoundTo s.approvals.approvals payment.attempt approvalId

def PhaseBound (events : List (State × Label)) (s : State) (call : Call) : Phase → Prop
  | .gated _ _ _ gate required | .cleared _ _ _ gate required => required = none → gate.approvalId = none
  | .resuming attempt _ | .resumingSource attempt _ _ | .resumingApproval attempt _ _ _ =>
    GateStored s.db attempt.id attempt.payment_metadata.approvalId
  | .prepared payment | .unready payment _ | .preflighted payment => PaymentBound s payment
  | .consuming payment approvalId => PaymentBound s payment ∧ payment.policyGate.approvalId = some approvalId ∧
      ∃ consumer, s.approvals.consumers.find? (.payment call.id) = some consumer ∧ consumer.approvalId = approvalId
  | .approved payment => PaymentBound s payment ∧ ∃ approvalId, payment.policyGate.approvalId = some approvalId ∧
      Consumed events s.approvals.approvals (.payment call.id) approvalId
  | _ => True

def SameApproval (c c' : Approvals.Consumer) : Prop := c'.approvalId = c.approvalId

theorem SameApproval.refl (c : Approvals.Consumer) : SameApproval c c := rfl

structure Lasts (s s' : State) : Prop where
  keeps : Keeps s.db s'.db
  advances : Table.Grows Approvals.Advances s.approvals.approvals s'.approvals.approvals
  consumers : Table.Grows SameApproval s.approvals.consumers s'.approvals.consumers

theorem PaymentBound.keep {payment : PreparedPaidHttpPayment} (bound : PaymentBound s payment) (lasts : Lasts s s') :
    PaymentBound s' payment :=
  ⟨bound.stored.keep lasts.keeps, fun approvalId gated => (bound.bound approvalId gated).keep lasts.advances⟩

theorem PhaseBound.keep {phase : Phase} (bound : PhaseBound events s call phase) (lasts : Lasts s s')
    (later : List (State × Label)) : PhaseBound (events ++ later) s' call phase := by
  cases phase
  case gated | cleared => exact bound
  case resuming | resumingSource | resumingApproval => exact GateStored.keep bound lasts.keeps
  case prepared | unready | preflighted => exact PaymentBound.keep bound lasts
  case consuming payment approvalId =>
    obtain ⟨payment, gated, consumer, found, names⟩ := bound
    obtain ⟨consumer', found', same⟩ := lasts.consumers _ _ found
    exact ⟨payment.keep lasts, gated, consumer', found', same.trans names⟩
  case approved payment =>
    obtain ⟨payment, approvalId, gated, consumed⟩ := bound
    exact ⟨payment.keep lasts, approvalId, gated, consumed.keep lasts.advances later⟩
  all_goals trivial

theorem PhaseBound.of_ended {phase : Phase} (ended : phase.ended = true) : PhaseBound events s call phase := by
  cases phase <;> trivial

def SameConsumer (c c' : Approvals.Consumer) : Prop := c' = { c with phase := c'.phase }

theorem SameConsumer.refl (c : Approvals.Consumer) : SameConsumer c c := rfl

theorem ApprovalMove.sameConsumers {approvals : Approvals.State} (moved : ApprovalMove s label approvals) :
    Table.Grows SameConsumer s.approvals.consumers approvals.consumers := by
  have moves {target : Approvals.Consumer} {id : Approvals.ConsumerId} {phase : Approvals.ConsumerPhase}
      (found : s.approvals.consumers.find? id = some target) :
      Table.Grows SameConsumer s.approvals.consumers (s.approvals.setConsumer target phase).consumers := by
    have located : s.approvals.consumers.find? target.id = some target := by
      rw [Table.key_of_find? found]
      exact found
    have revised : Table.Revised SameConsumer s.approvals.consumers (s.approvals.consumers.put { target with phase }) :=
      Table.revised_put SameConsumer.refl located rfl
    exact revised.grows
  cases moved with
  | unchanged => exact .refl SameConsumer.refl _
  | requested taken =>
    cases Approvals.step_inversion taken with
    | created inserted => exact .refl SameConsumer.refl _
  | consumerOpened taken =>
    cases Approvals.step_inversion taken with
    | checked inserted => exact Table.grows_insert? SameConsumer.refl inserted
  | took taken =>
    cases Approvals.step_inversion taken with
    | checked inserted => exact Table.grows_insert? SameConsumer.refl inserted
    | policyRefused checked => exact moves (Approvals.State.checked?_eq_some.mp checked).1
    | rechecked checked => exact moves (Approvals.State.checked?_eq_some.mp checked).1
    | consumeRefused rechecked => exact moves (Approvals.State.rechecked?_eq_some.mp rechecked).1
    | consumed rechecked free committed => exact moves (Approvals.State.rechecked?_eq_some.mp rechecked).1
    | tick | created | opened | lockRefused | locked | voteRefused | voted | abandoned | denyRefused | denied =>
      exact .refl SameConsumer.refl _

theorem ApprovalMove.consumers {approvals : Approvals.State} (moved : ApprovalMove s label approvals) :
    Table.Grows SameApproval s.approvals.consumers approvals.consumers := by
  intro id consumer found
  obtain ⟨consumer', found', same⟩ := moved.sameConsumers id consumer found
  refine ⟨consumer', found', ?_⟩
  rw [SameApproval, same]

theorem Step.lasts (taken : Step hashes s label s') (sound : Sound s) (approvals : Approvals.Sound s.approvals) :
    Lasts s s' :=
  ⟨sound.keeps taken.write, taken.approvalMove.advances approvals, taken.approvalMove.consumers⟩

theorem checkResumeApproval_bound {approvals : Approvals.Requests} {auth : ConnectionAuthResult}
    {attempt : X402AttemptRow} {finalizing hookAllows : Bool} {approvalId : ApprovalId}
    (checked : checkResumeApproval approvals auth attempt finalizing hookAllows = .ok ())
    (gated : attempt.payment_metadata.approvalId = some approvalId) : BoundTo approvals attempt approvalId := by
  unfold checkResumeApproval at checked
  rw [gated] at checked
  simp only at checked
  split at checked
  · cases checked
  split at checked
  · cases checked
  rename_i row found
  split at checked
  · cases checked
  rename_i matching
  push Not at matching
  unfold Approvals.getApproval at found
  split at found
  · cases found
  rename_i row' located
  obtain rfl : row' = row := Except.ok.inj found
  refine ⟨row', (Approvals.findScoped_eq_some.mp located).1, ?_⟩
  cases request : row'.request with
  | mk requestHash quoteHash =>
    rw [request] at matching
    simp only at matching
    rw [matching.1, matching.2]

theorem Prepared.gateStored {db' : Db} {began : Time} {auth : ConnectionAuthResult} {key : String} {requestHash : Hash}
    {quote : RuntimeQuote} {source : PaymentSourceRow} {resource : JsonObject} {gate : PolicyGate} {attemptId : AttemptId}
    {reservationId : ReservationId} {payment : PreparedPaidHttpPayment}
    (prepared : Prepared hashes db began auth key requestHash quote source resource gate attemptId reservationId db' payment)
    (ungated : gate.approvalId = none) : GateStored db' payment.attempt.id gate.approvalId := by
  obtain ⟨attempts, reservations, accounts, inserted, -, -, same⟩ := prepared.tables
  have stored := Table.find?_insert?_self inserted
  rw [same, prepared.attempt]
  refine ⟨_, stored, fun _ => ?_⟩
  simp [preparedAttempt, preparedMetadata, X402PaymentMetadata.merge, X402PaymentMetadata.empty, ungated]

theorem PhaseBound.step {id : CallId} {event : CallEvent} {effect : Effect} (sound : Sound s)
    (done : ConsumersDone events s.approvals) (found : s.calls.find? id = some call)
    (bound : PhaseBound events s call call.phase) (taken : CallStep hashes s call event effect)
    (lasts : Lasts s s') (db : s'.db = effect.db) (approvals : s'.approvals = effect.approvals) :
    PhaseBound (events ++ [(s, label)]) s' call effect.phase := by
  have here {phase : Phase} (located : call.phase = phase) : PhaseBound (events ++ [(s, label)]) s' call phase := by
    rw [← located]
    exact bound.keep lasts _
  cases taken with
  | ends ended => exact .of_ended ended
  | findAttempt phase read =>
    rcases findAttempt_some read with ⟨rfl, rfl, -⟩ | ⟨row, located, rfl, rfl⟩
    · trivial
    · rcases afterFind_cases call (row.scrub s.now) with ended | ⟨evidence, next, -⟩
      · exact .of_ended ended
      · have stored := Table.find?_of_mem (attemptFor_eq_some located).1
        rw [← scrub_id row s.now] at stored
        simp only [next]
        refine ⟨row.scrub s.now, ?_, fun _ => rfl⟩
        rw [db]
        exact Table.find?_put_self stored
  | permitted phase enforced => exact fun _ => rfl
  | approvalRequested phase enforced created => exact fun missing => by cases missing
  | checkLimits phase within | readReservation phase located | readSource phase located | preflighted phase
  | unready phase =>
    have before := here phase
    exact before
  | commitPrepare phase written goes =>
    rcases goes with ⟨required, rfl⟩ | ended
    · have prepared := sound.prepared found phase written
      obtain ⟨-, gateIs, -⟩ := prepared.rest
      have ungated := here phase required
      refine ⟨?_, ?_⟩
      · rw [db, gateIs]
        exact prepared.gateStored ungated
      · rw [gateIs, ungated]
        intro approvalId gated
        cases gated
    · exact .of_ended ended
  | readApproval phase resumed =>
    obtain ⟨quote, payload, -, checked, rfl⟩ := resumePayment_ok resumed
    have before := here phase
    refine ⟨before, fun approvalId gated => ?_⟩
    rw [approvals]
    exact checkResumeApproval_bound checked gated
  | consumeApproval phase gated started =>
    have before := here phase
    cases Approvals.step_inversion started with
    | checked inserted =>
      have opened := Table.find?_insert?_self inserted
      have same := congrArg Approvals.State.consumers approvals
      simp only at same
      rw [← same] at opened
      exact ⟨before, gated, _, opened, rfl⟩
  | @consumed payment approvalId consumer phase located finished =>
    have waiting := bound
    rw [phase] at waiting
    obtain ⟨payment, gated, consumer', located', names⟩ := waiting
    obtain rfl : consumer = consumer' := Option.some.inj (located.symm.trans located')
    have consumed := done consumer (Table.mem_of_find? located) finished
    rw [Table.key_of_find? located, names] at consumed
    exact ⟨payment.keep lasts, approvalId, gated, consumed.keep lasts.advances _⟩
  | selectStranded | commitStranded | discover | snapshotAccount | lockAccount | fresh | raced | selectQuote
  | selectSource | readEvidence | markRetryable | markSubmitting | simulateSettlement | callProvider | answer
  | persistEvidence | finalize => trivial

theorem PhaseBound.moved {phase : Phase} (bound : PhaseBound events s call phase) (next : Phase) :
    PhaseBound events s { call with phase := next } phase := by
  cases phase <;> exact bound

theorem bound_of_run {s₀ : State} (initial : Initial s₀) (run : Run (step hashes) s₀ events s) :
    ConsumersDone events s.approvals ∧ ∀ call ∈ s.calls, PhaseBound events s call call.phase := by
  have conforms : Conforms (fun _ _ => True) events := fun _ _ => trivial
  refine run.history (fun events s => ConsumersDone events s.approvals ∧
    ∀ call ∈ s.calls, PhaseBound events s call call.phase) conforms ⟨?_, by simp [initial.calls]⟩ ?_
  · simp [ConsumersDone, initial.approvals.consumers]
  intro events s label s' before _ ⟨done, bound⟩ _ taken
  have sound := sound_of_run initial before
  have approvals := approvals_sound_of_run initial before
  have moved := step_inversion taken
  have lasts := moved.lasts sound approvals
  refine ⟨done.keep approvals moved.approvalMove, ?_⟩
  have later (call : Call) (member : call ∈ s.calls) : PhaseBound (events ++ [(s, label)]) s' call call.phase :=
    (bound call member).keep lasts _
  cases moved with
  | approvals | operator => exact later
  | opened auths inserted =>
    intro call member
    rcases (Table.mem_insert? inserted).mp member with rfl | member
    · trivial
    · exact later call member
  | called found moved =>
    intro other member
    rcases Table.mem_put.mp member with ⟨member, -⟩ | ⟨rfl, -⟩
    · exact later other member
    · exact (PhaseBound.step sound done found (bound _ (Table.mem_of_find? found)) moved lasts rfl rfl).moved _

theorem markedAttempt_eq_some {attempt : X402AttemptRow} (marked : markedAttempt s call = some attempt) :
    ∃ payment, (call.phase = .preflighted payment ∨ call.phase = .approved payment) ∧
      Scoped s.db call.auth payment.attempt.id .reserved attempt := by
  have reserved {payment : PreparedPaidHttpPayment} {db : Db}
      (written : markSubmitting s.db call.auth payment.attempt.id = .ok db)
      (found : s.db.attempts.find? payment.attempt.id = some attempt) :
      Scoped s.db call.auth payment.attempt.id .reserved attempt := by
    obtain ⟨row, inScope, -⟩ := markSubmitting_ok written
    obtain rfl : attempt = row := Option.some.inj (found.symm.trans inScope.found)
    exact inScope
  unfold markedAttempt at marked
  split at marked
  · rename_i payment phase
    split at marked
    · rename_i written
      exact ⟨payment, .inl phase, reserved written marked⟩
    · cases marked
  · rename_i payment phase
    split at marked
    · rename_i written
      exact ⟨payment, .inr phase, reserved written marked⟩
    · cases marked
  · cases marked

theorem GateStored.gate {attemptId : AttemptId} {approvalId : Option ApprovalId} {attempt : X402AttemptRow}
    {auth : ConnectionAuthResult} (stored : GateStored db attemptId approvalId)
    (inScope : Scoped db auth attemptId .reserved attempt) : attempt.payment_metadata.approvalId = approvalId := by
  obtain ⟨row, found, gate⟩ := stored
  obtain rfl : row = attempt := Option.some.inj (found.symm.trans inScope.found)
  apply gate
  rw [inScope.status]
  decide

theorem PaymentOk.sameHashes {payment : PreparedPaidHttpPayment} {stage : Nat} {attempt : X402AttemptRow}
    (known : PaymentOk db call payment stage) (found : db.attempts.find? payment.attempt.id = some attempt) :
    attempt.request_hash = payment.attempt.request_hash ∧ attempt.quote_hash = payment.attempt.quote_hash := by
  obtain ⟨row, located, same, -⟩ := known.attempt.stored
  obtain rfl : row = attempt := Option.some.inj (located.symm.trans found)
  rw [same]
  exact ⟨rfl, rfl⟩

theorem ungated_of_markSubmitting {id : CallId} {payment : PreparedPaidHttpPayment}
    (taken : (AgentOps.Payments.step hashes s (.call id .markSubmitting)).isSome = true)
    (found : s.calls.find? id = some call) (phase : call.phase = .preflighted payment) :
    payment.policyGate.approvalId = none := by
  by_contra gated
  simp [AgentOps.Payments.step, callStep, found, phase, gated] at taken

theorem marked_consumed {s₀ s' : State} {before after : List (State × Label)} {id : CallId} {attempt : X402AttemptRow}
    {approvalId : ApprovalId} (initial : Initial s₀)
    (run : Run (step hashes) s₀ (before ++ (s, .call id .markSubmitting) :: after) s')
    (found : s.calls.find? id = some call) (marked : markedAttempt s call = some attempt)
    (gated : attempt.payment_metadata.approvalId = some approvalId) :
    ∃ e ∈ before, e.2 = .approvals (.commitConsumption (.payment id)) ∧
      ∃ consumer row, consumption? e.1 e.2 = some (consumer, row) ∧ row.id = approvalId ∧
        row.request = ⟨some attempt.request_hash, some attempt.quote_hash⟩ := by
  obtain ⟨next, first, taken, -⟩ := run.split
  have member := Table.mem_of_find? found
  have knows := (bound_of_run initial first).2 call member
  have known := ((sound_of_run initial first).calls call member).phase
  obtain ⟨payment, phase, inScope⟩ := markedAttempt_eq_some marked
  rcases phase with phase | phase
  · have ungated := ungated_of_markSubmitting (Option.isSome_of_eq_some taken) found phase
    rw [phase] at knows
    rw [knows.stored.gate inScope, ungated] at gated
    cases gated
  · rw [phase] at knows known
    obtain ⟨bound, approvalId', gate, e, consumed, names, consumer, row, consumption, named, row', located, request⟩ := knows
    obtain rfl : approvalId' = approvalId := by
      rw [bound.stored.gate inScope, gate] at gated
      exact Option.some.inj gated
    obtain ⟨requestHash, quoteHash⟩ := PaymentOk.sameHashes known inScope.found
    obtain ⟨row'', located', binding⟩ := bound.bound _ gate
    obtain rfl : row' = row'' := Option.some.inj (located.symm.trans located')
    rw [Table.key_of_find? found] at names
    refine ⟨e, consumed, names, consumer, row, consumption, named, ?_⟩
    rw [← request, binding, requestHash, quoteHash]

theorem proper_of_run {s₀ : State} (initial : Initial s₀) (run : Run (step hashes) s₀ events s)
    {consumer : Approvals.Consumer} {row : Approvals.ApprovalRow}
    (consumed : consumption? s label = some (consumer, row)) (unexpired : s.now < row.expires_at) :
    Approvals.ProperConsumption s.approvals consumer row := by
  have sound := approvals_sound_of_run initial run
  cases label with
  | approvals label => exact sound.proper consumed unexpired
  | _ => cases consumed

theorem unexpired_of_consumption {consumer : Approvals.Consumer} {row : Approvals.ApprovalRow}
    (consumed : consumption? s label = some (consumer, row)) (unexpired : ConsumesUnexpired s label) :
    s.now < row.expires_at := by
  cases label with
  | approvals label =>
    obtain ⟨id, approval, rfl, rechecked, selected, approved⟩ := Approvals.consumption?_eq_some consumed
    exact unexpired id consumer approval row rfl rechecked selected approved
  | _ => cases consumed

theorem approvalSafe_iff {s₀ : State} (initial : Initial s₀) (run : Run (step hashes) s₀ events s) :
    ApprovalSafe events ↔ Conforms ConsumesUnexpired events := by
  constructor
  · intro safe e member id consumer approval row label rechecked selected approved
    obtain ⟨before, after, next, -, first, -, -⟩ := run.of_mem member
    have sound := approvals_sound_of_run initial first
    have consumed : consumption? e.1 e.2 = some (consumer, row) := by
      rw [label]
      exact sound.consumes rechecked selected approved
    exact (safe.proper e member consumer row consumed).unexpired
  · intro unexpired
    refine ⟨consumed_once initial run, ?_, ?_⟩
    · intro e member consumer row consumed
      obtain ⟨before, after, next, -, first, -, -⟩ := run.of_mem member
      have intime := unexpired_of_consumption consumed (unexpired e member)
      exact proper_of_run initial first consumed intime
    · rintro before s' id after call attempt approvalId rfl found marked gated
      exact marked_consumed initial run found marked gated

namespace Workspace

def asks : List CallEvent :=
  [.selectStranded, .commitStranded, .findAttempt, .discover (.ok offer), .snapshotAccount, .lockAccount,
    .findRacedAttempt, .selectQuote, .selectSource, .enforcePolicy ⟨1, .approvalRequired, "", ""⟩ 1,
    .checkLimits none none, .commitPrepare 1 1]

def resumes : List CallEvent :=
  [.selectStranded, .commitStranded, .findAttempt, .readReservation, .readSource, .readApproval false (.ok ()),
    .preflight (.ok ()), .consumeApproval]

def approved : List Label :=
  .setAgentPaymentAccess 1 1 (access 50) :: pays 100 asks ++
    [.approvals (.approveApproval 1 99 1 1), .approvals (.lockApproval 1), .approvals (.castVote 1)] ++
    pays 101 resumes ++ [.approvals (.recheckPolicy (.payment 101) false)]

end Workspace

/-- The approval expires between the check and the transaction of its consumption. -/
theorem expired_approval_consumed :
    ∃ events s, Run (step Workspace.hashes) (Workspace.state .circleWallets) events s ∧ ¬ApprovalSafe events := by
  obtain ⟨events, s, run, consumed, enabled⟩ : ∃ events s,
      Run (step Workspace.hashes) (Workspace.state .circleWallets) events s ∧
        ((consumption? s (.approvals (.commitConsumption (.payment 101)))).any fun c => c.2.expires_at ≤ s.now) = true ∧
          (step Workspace.hashes s (.approvals (.commitConsumption (.payment 101)))).isSome = true :=
    exists_run_with (Workspace.approved ++ [.approvals (.tick fifteenMinutes)]) _ (by decide)
  obtain ⟨last, taken⟩ := Option.isSome_iff_exists.mp enabled
  refine ⟨_, last, run.next taken, fun safe => ?_⟩
  cases found : consumption? s (.approvals (.commitConsumption (.payment 101))) with
  | none => simp [found] at consumed
  | some c =>
    have proper := safe.proper _ (List.mem_append_right _ (List.mem_singleton_self _)) c.1 c.2 found
    have expired : c.2.expires_at ≤ s.now := by simpa [found] using consumed
    exact absurd proper.unexpired (not_lt.mpr expired)

theorem approval_safe_settled : ∃ events s, Run (step Workspace.hashes) (Workspace.state .circleWallets) events s ∧
    (∃ e ∈ events, (consumption? e.1 e.2).isSome) ∧ (∃ t ∈ s.db.attempts.rows, t.status = .settled) ∧
      (ApprovalSafe events ↔ Conforms ConsumesUnexpired events) := by
  obtain ⟨events, s, run, consumed, settled⟩ : ∃ events s,
      Run (step Workspace.hashes) (Workspace.state .circleWallets) events s ∧
        (∃ e ∈ events, (consumption? e.1 e.2).isSome) ∧ (∃ t ∈ s.db.attempts.rows, t.status = .settled) :=
    exists_run_with (Workspace.approved ++ [.approvals (.commitConsumption (.payment 101))] ++
      [CallEvent.awaitConsumption, .markSubmitting, .callProvider, .answer (.ok Workspace.settled), .persistEvidence,
        .finalize 1].map (.call 101)) _ (by decide)
  exact ⟨events, s, run, consumed, settled, approvalSafe_iff (Workspace.state_initial _) run⟩

end AgentOps.Payments
