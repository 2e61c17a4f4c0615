import AgentOps.Payments.Calls

namespace AgentOps.Payments
open Lib Identity

variable {hashes : Hashes} {s s' : State} {call : Call} {label : Label} {events : List (State × Label)}

/-! # The gates of a payment -/

inductive Gate where
  | org
  | agent
  | account
  | destination

def Gate.holds (auth : ConnectionAuthResult) (quote : RuntimeQuote) (s : State) : Gate → Prop
  | .org => ∃ org ∈ s.db.orgs.find? auth.org_id, org.frozen = false
  | .agent => ∃ agent ∈ s.db.agents.find? auth.agent_id, agent.status ≠ .paused ∧ agent.status ≠ .suspended
  | .account => ∃ row ∈ s.db.accounts.find? (accountOf auth), row.status = .active ∧ row.payment_access = true
  | .destination => s.db.destinationAllowed auth.org_id quote.chain quote.recipient = true

def Label.opens (id : CallId) : Label → Prop
  | .payRuntimeX402 opened _ _ _ => opened = id
  | _ => False

instance (id : CallId) : DecidablePred (Label.opens id) := fun label => by
  unfold Label.opens
  split <;> infer_instance

def Label.submits (id : CallId) : Label → Prop
  | .call submitting .markSubmitting => submitting = id
  | _ => False

/-- Between its start and its marking the attempt, a call that asks the provider to settle has passed a state where the
gate was open. -/
def ProviderGated (events : List (State × Label)) : Prop :=
  ∀ before s id after call payment, events = before ++ (s, .call id .callProvider) :: after →
    s.calls.find? id = some call → call.phase = .submitted payment →
    ∀ gate : Gate, HeldBetween (Label.opens id) (Label.submits id) (fun s => gate.holds call.auth payment.quote s) before

/-- A reserved payment is resumed while its gates are open. -/
def ResumesGated (s : State) : Label → Prop
  | .call id (.readApproval hookAllows destination) => ∀ call attempt reservation source payment,
      s.calls.find? id = some call → call.phase = .resumingApproval attempt none reservation source →
      resumePayment s.approvals.approvals call.auth attempt false reservation source hookAllows destination = .ok payment →
      ∀ gate : Gate, gate.holds call.auth payment.quote s
  | _ => True

def Passed (events : List (State × Label)) (call : Call) (gate : Gate) (quote : RuntimeQuote) : Prop :=
  PassedSince (Label.opens call.id) (fun s => gate.holds call.auth quote s) events

def GatesPassed (events : List (State × Label)) (call : Call) : Phase → Prop
  | .locking _ _ frozen agentStatus =>
    (frozen = false → ∀ quote, Passed events call .org quote) ∧
      (agentStatus ≠ .paused ∧ agentStatus ≠ .suspended → ∀ quote, Passed events call .agent quote)
  | .locked _ | .fresh _ => ∀ quote, Passed events call .org quote ∧ Passed events call .agent quote ∧
      Passed events call .account quote
  | .quoted _ quote | .sourced _ quote _ | .gated _ quote _ _ _ | .cleared _ quote _ _ _ =>
    ∀ gate, Passed events call gate quote
  | .prepared payment | .unready payment _ | .preflighted payment | .consuming payment _ | .approved payment =>
    ∀ gate, Passed events call gate payment.quote
  | .submitted payment => ∀ gate : Gate, HeldBetween (Label.opens call.id) (Label.submits call.id)
      (fun s => gate.holds call.auth payment.quote s) events
  | _ => True

theorem GatesPassed.append {phase : Phase} (passed : GatesPassed events call phase) (later : List (State × Label)) :
    GatesPassed (events ++ later) call phase := by
  cases phase
  case locking => exact ⟨fun thawed quote => (passed.1 thawed quote).append later,
    fun active quote => (passed.2 active quote).append later⟩
  case locked | fresh =>
    intro quote
    obtain ⟨org, agent, account⟩ := passed quote
    exact ⟨org.append later, agent.append later, account.append later⟩
  case quoted | sourced | gated | cleared | prepared | unready | preflighted | consuming | approved =>
    exact fun gate => (passed gate).append later
  case submitted => exact fun gate => (passed gate).append later
  all_goals trivial

theorem GatesPassed.of_ended {phase : Phase} (ended : phase.ended = true) : GatesPassed events call phase := by
  cases phase <;> trivial

theorem GatesPassed.step {id : CallId} {event : CallEvent} {effect : Effect} (sound : Sound s)
    (found : s.calls.find? id = some call) (opened : Occurred (Label.opens call.id) events)
    (passed : GatesPassed events call call.phase)
    (gated : ResumesGated s (.call id event)) (taken : CallStep hashes s call event effect) :
    GatesPassed (events ++ [(s, .call id event)]) call effect.phase := by
  have here {phase : Phase} (located : call.phase = phase) :
      GatesPassed (events ++ [(s, .call id event)]) call phase := by
    rw [← located]
    exact passed.append _
  cases taken with
  | ends ended => exact .of_ended ended
  | findAttempt phase read =>
    rename_i db found
    cases found with
    | none => trivial
    | some row =>
      rcases afterFind_cases call row with ended | ⟨evidence, next, -⟩
      · exact .of_ended ended
      · simp only [next]
        trivial
  | snapshotAccount phase accountFound orgFound agentFound =>
    refine ⟨fun thawed quote => opened.passed ⟨_, orgFound, thawed⟩, fun active quote => ?_⟩
    exact opened.passed ⟨_, agentFound, active⟩
  | lockAccount phase free located checked =>
    obtain ⟨rfl, thawed, unpaused, unsuspended, account, access⟩ := checkActiveAccount_ok checked
    have before := here phase
    intro quote
    exact ⟨before.1 thawed quote, before.2 ⟨unpaused, unsuspended⟩ quote,
      opened.passed ⟨_, located, account, access⟩⟩
  | fresh phase =>
    have before := here phase
    exact before
  | @selectQuote tx quote phase selected =>
    obtain ⟨org, agent, account⟩ := here phase quote
    intro gate
    cases gate with
    | org => exact org
    | agent => exact agent
    | account => exact account
    | destination => exact opened.passed (selectQuote_ok selected).2
  | selectSource phase | permitted phase | approvalRequested phase | checkLimits phase =>
    have before := here phase
    exact before
  | commitPrepare phase written goes =>
    rcases goes with ⟨-, rfl⟩ | ended
    · have before := here phase
      obtain ⟨-, -, quoteIs, -⟩ := (sound.prepared found phase written).rest
      intro gate
      rw [quoteIs]
      exact before gate
    · exact .of_ended ended
  | readApproval phase resumed =>
    intro gate
    exact opened.passed (gated call _ _ _ _ found phase resumed gate)
  | preflighted phase | unready phase | consumeApproval phase | consumed phase =>
    have before := here phase
    exact before
  | @markSubmitting payment db phase marked =>
    intro gate
    have before : GatesPassed events call (.approved payment) := by
      rcases phase with ⟨phase, -⟩ | phase
      · rw [phase] at passed
        exact passed
      · rw [phase] at passed
        exact passed
    exact (before gate).close (Table.key_of_find? found).symm
  | selectStranded | commitStranded | discover | raced | readReservation | readSource | readEvidence | markRetryable
  | simulateSettlement | callProvider | answer | persistEvidence | finalize => trivial

theorem GatesPassed.moved {phase : Phase} (passed : GatesPassed events call phase) (next : Phase) :
    GatesPassed events { call with phase := next } phase := by
  cases phase <;> exact passed

theorem gatesPassed_of_run {s₀ : State} (initial : Initial s₀) (run : Run (step hashes) s₀ events s)
    (gated : Conforms ResumesGated events) :
    ∀ call ∈ s.calls, Occurred (Label.opens call.id) events ∧ GatesPassed events call call.phase := by
  refine run.history (fun events s => ∀ call ∈ s.calls, Occurred (Label.opens call.id) events ∧
    GatesPassed events call call.phase) gated (by simp [initial.calls]) ?_
  intro events s label s' before _ passed gated taken
  have sound := sound_of_run initial before
  have later (call : Call) (member : call ∈ s.calls) : Occurred (Label.opens call.id) (events ++ [(s, label)]) ∧
      GatesPassed (events ++ [(s, label)]) call call.phase :=
    ⟨(passed call member).1.append _, (passed call member).2.append _⟩
  cases step_inversion taken with
  | approvals | operator => exact later
  | opened auths inserted =>
    intro call member
    rcases (Table.mem_insert? inserted).mp member with rfl | member
    · exact ⟨.of_opens rfl, trivial⟩
    · exact later call member
  | @called id event call effect found moved =>
    intro other member
    rcases Table.mem_put.mp member with ⟨member, -⟩ | ⟨rfl, -⟩
    · exact later other member
    · obtain ⟨opened, known⟩ := passed call (Table.mem_of_find? found)
      exact ⟨opened.append _, (GatesPassed.step sound found opened known gated moved).moved _⟩

theorem provider_gated_while_resumes_gated {s₀ : State} (initial : Initial s₀) (run : Run (step hashes) s₀ events s)
    (gated : Conforms ResumesGated events) : ProviderGated events := by
  rintro before s' id after call payment rfl found phase gate
  obtain ⟨next, first, -, -⟩ := run.split
  rw [conforms_append] at gated
  have passed := (gatesPassed_of_run initial first gated.1 call (Table.mem_of_find? found)).2
  rw [phase] at passed
  have held := passed gate
  rw [Table.key_of_find? found] at held
  exact held

/-- A preflight fails, the org is frozen, and a retry with the key resumes the payment and asks the provider to settle. -/
theorem provider_called_while_frozen :
    ∃ events s, Run (step Workspace.hashes) (Workspace.state .circleWallets) events s ∧ ¬ProviderGated events := by
  obtain ⟨events, s, run, frozen, caller, submitted⟩ : ∃ events s,
      Run (step Workspace.hashes) (Workspace.state .circleWallets) events s ∧
        (events.Pairwise fun e e' => ¬(Label.opens 101 e.2 ∧ ∃ org ∈ e'.1.db.orgs.find? 1, org.frozen = false)) ∧
          (s.calls.find? 101).map Call.auth = some Workspace.auth ∧
            (step Workspace.hashes s (.call 101 .callProvider)).isSome = true :=
    exists_run_with (.setAgentPaymentAccess 1 1 (Workspace.access 50) ::
      Workspace.pays 100 (Workspace.prepares ++ [.preflight (.error (.thrown "")), .markRetryable]) ++
      .freezeOrg 1 :: Workspace.pays 101 [.selectStranded, .commitStranded, .findAttempt, .readReservation, .readSource,
        .readApproval false (.ok ()), .preflight (.ok ()), .markSubmitting]) _ (by decide)
  obtain ⟨last, taken⟩ := Option.isSome_iff_exists.mp submitted
  obtain ⟨call, payment, found, phase⟩ := submitted_of_callProvider submitted
  obtain authIs : call.auth = Workspace.auth := by simpa [found] using caller
  refine ⟨_, last, run.next taken, fun gated => ?_⟩
  have held := gated _ _ _ [] _ _ rfl found phase .org
  rw [authIs] at held
  exact not_heldBetween frozen held

def plainGates (_ : State) : Label → Bool
  | .call _ (.readApproval _ _) => false
  | _ => true

theorem resumesGated_of_plain (plain : plainGates s label = true) : ResumesGated s label := by
  cases label with
  | call id event =>
    cases event with
    | readApproval => cases plain
    | _ => trivial
  | _ => trivial

theorem provider_gated_settled : ∃ events s, Run (step Workspace.hashes) (Workspace.state .circleWallets) events s ∧
    (∃ t ∈ s.db.attempts.rows, t.status = .settled) ∧ ProviderGated events := by
  obtain ⟨events, s, run, gated, settled⟩ : ∃ events s, Run (step Workspace.hashes) (Workspace.state .circleWallets) events s ∧
      Conforms ResumesGated events ∧ (∃ t ∈ s.db.attempts.rows, t.status = .settled) :=
    exists_conforming_run (.setAgentPaymentAccess 1 1 (Workspace.access 50) :: Workspace.pays 100 Workspace.settles)
      plainGates _ (fun _ _ => resumesGated_of_plain) (by decide)
  exact ⟨events, s, run, settled, provider_gated_while_resumes_gated (Workspace.state_initial _) run gated⟩

end AgentOps.Payments
