import AgentOps.Payments.Calls

namespace AgentOps.Payments
open Lib Identity

/-! # Policy is asked before an agent's money is looked at -/

def activePaymentAccount (db : Db) (auth : ConnectionAuthResult) : Except Failure AgentPaymentAccountRow :=
  match db.accounts.find? (accountOf auth), db.orgs.find? auth.org_id, db.agents.find? auth.agent_id with
  | some row, some org, some agent => checkActiveAccount org.frozen agent.status row
  | _, _, _ => .error paymentAccessDisabled

structure PrepareAnswers where
  approvalId : ApprovalId
  readinessFailure : Option IdentityError
  spendable : Option Nat
  attemptId : AttemptId
  reservationId : ReservationId

def finishPreparing (hashes : Hashes) (s : State) (call : Call) (tx : Preparation) (quote : RuntimeQuote)
    (source : PaymentSourceRow) (gate : PolicyGate) (approvalRequired : Option String) (answers : PrepareAnswers) : Effect :=
  s.orFail (checkLimits tx.account quote source approvalRequired.isSome answers.readinessFailure answers.spendable) fun _ =>
    s.orFail (writePrepared hashes s.db tx.began call.auth call.idempotencyKey call.requestHash quote source tx.required.resource
        gate answers.attemptId answers.reservationId) fun (db, payment) =>
      ⟨db, s.approvals, match approvalRequired with
        | none => .prepared payment
        | some message => .failed (paymentApprovalRequired message)⟩

/-- The call of `enforceX402Policy`, whose approval request is committed at once, and what follows it -/
def prepareGated (hashes : Hashes) (s : State) (call : Call) (tx : Preparation) (quote : RuntimeQuote) (source : PaymentSourceRow)
    (policy : PolicyDecision) (answers : PrepareAnswers) : Effect :=
  match enforceX402Policy tx.account quote policy with
  | .error failure => s.move (.failed failure)
  | .ok false => finishPreparing hashes s call tx quote source ⟨none, policy.id⟩ none answers
  | .ok true =>
    let payload := quotePayloadOf quote tx.required.resource source
    let input := approvalInput hashes call.auth tx.account quote payload call.requestHash policy
    match Approvals.step s.approvals (.createApprovalRequest answers.approvalId input) with
    | none => s.move (.failed (.constraint "approval_requests_pkey"))
    | some approvals =>
      finishPreparing hashes { s with approvals } call tx quote source ⟨some answers.approvalId, policy.id⟩
        (some (approvalRequiredMessage tx.account quote policy)) answers

def preparePaidHttpPayment (hashes : Hashes) (s : State) (call : Call) (required : PaymentRequired) (policy : PolicyDecision)
    (answers : PrepareAnswers) : Effect :=
  s.orFail (activePaymentAccount s.db call.auth) fun account =>
    match findAttempt s.db s.now call.auth.connection_id call.idempotencyKey with
    | (db, some raced) =>
      if raced.request_hash ≠ call.requestHash then s.move (.failed idempotencyConflict)
      else ⟨db, s.approvals, .returned (racedResult raced)⟩
    | (_, none) =>
      s.orFail (selectQuote s.db call.auth account required.accepts) fun quote =>
        s.orFail ((activePaymentSource s.db call.auth.org_id quote.rail quote.chain).bind (checkSource quote)) fun source =>
          prepareGated hashes s call ⟨s.now, required, account⟩ quote source policy answers

def prepareEvents (policy : PolicyDecision) (answers : PrepareAnswers) : List CallEvent :=
  [.snapshotAccount, .lockAccount, .findRacedAttempt, .selectQuote, .selectSource, .enforcePolicy policy answers.approvalId,
    .checkLimits answers.readinessFailure answers.spendable, .commitPrepare answers.attemptId answers.reservationId]

def performs (hashes : Hashes) (s : State) (call : Call) : List CallEvent → Effect
  | [] => s.move call.phase
  | event :: events =>
    match callStep hashes s call event with
    | none => s.move call.phase
    | some effect =>
      performs hashes { s with approvals := effect.approvals, db := effect.db } { call with phase := effect.phase } events

variable {hashes : Hashes} {s s₁ s₂ : State} {call : Call} {required : PaymentRequired} {policy : PolicyDecision}
  {answers answers₁ answers₂ : PrepareAnswers}

theorem performs_ended (ended : call.phase.ended = true) (events : List CallEvent) :
    performs hashes s call events = s.move call.phase := by
  cases events with
  | nil => rfl
  | cons event events =>
    have stuck : callStep hashes s call event = none := by
      cases phase : call.phase <;> rw [phase] at ended
      case returned | failed | crashed => cases event <;> simp [callStep, phase, Phase.ended]
      all_goals cases ended
    simp [performs, stuck]

theorem performs_orFail {α : Type} {event : CallEvent} {events : List CallEvent} {result : Except Failure α} {next : α → Effect}
    (taken : callStep hashes s call event = some (s.orFail result next)) :
    performs hashes s call (event :: events) = s.orFail result fun value =>
      performs hashes { s with approvals := (next value).approvals, db := (next value).db }
        { call with phase := (next value).phase } events := by
  cases result with
  | error failure =>
    simp only [performs, taken, State.orFail]
    exact performs_ended rfl events
  | ok value => simp only [performs, taken, State.orFail]

theorem performs_finish {tx : Preparation} {quote : RuntimeQuote} {source : PaymentSourceRow} {gate : PolicyGate}
    {approvalRequired : Option String} (phase : call.phase = .gated tx quote source gate approvalRequired) :
    performs hashes s call [.checkLimits answers.readinessFailure answers.spendable,
        .commitPrepare answers.attemptId answers.reservationId] =
      finishPreparing hashes s call tx quote source gate approvalRequired answers := by
  rw [performs_orFail (by simp only [callStep, phase]; rfl)]
  rfl

theorem performs_next {event : CallEvent} {events : List CallEvent} {effect : Effect}
    (taken : callStep hashes s call event = some effect) :
    performs hashes s call (event :: events) =
      performs hashes { s with approvals := effect.approvals, db := effect.db } { call with phase := effect.phase } events := by
  simp only [performs, taken]

theorem performs_gated {tx : Preparation} {quote : RuntimeQuote} {source : PaymentSourceRow}
    (phase : call.phase = .sourced tx quote source) :
    performs hashes s call [.enforcePolicy policy answers.approvalId, .checkLimits answers.readinessFailure answers.spendable,
        .commitPrepare answers.attemptId answers.reservationId] = prepareGated hashes s call tx quote source policy answers := by
  unfold prepareGated
  cases enforced : enforceX402Policy tx.account quote policy with
  | error failure =>
    rw [performs_next (by simp only [callStep, phase, enforced]; rfl)]
    exact performs_ended rfl _
  | ok required =>
    cases required with
    | false =>
      rw [performs_next (by simp only [callStep, phase, enforced]; rfl)]
      exact performs_finish rfl
    | true =>
      simp only
      cases created : Approvals.step s.approvals (.createApprovalRequest answers.approvalId (approvalInput hashes call.auth
        tx.account quote (quotePayloadOf quote tx.required.resource source) call.requestHash policy)) with
      | none =>
        rw [performs_next (by simp only [callStep, phase, enforced, created]; rfl)]
        exact performs_ended rfl _
      | some approvals =>
        rw [performs_next (by simp only [callStep, phase, enforced, created]; rfl)]
        exact performs_finish rfl

/-- Where no other call has the account locked, the statements of a preparation are the whole transaction. -/
theorem performs_prepare (phase : call.phase = .discovered required) (free : s.accountLocked (accountOf call.auth) = false) :
    performs hashes s call (prepareEvents policy answers) = preparePaidHttpPayment hashes s call required policy answers := by
  unfold prepareEvents preparePaidHttpPayment activePaymentAccount
  cases account : s.db.accounts.find? (accountOf call.auth) with
  | none =>
    rw [performs_next (by simp only [callStep, phase, account]; rfl)]
    exact performs_ended rfl _
  | some row =>
    cases org : s.db.orgs.find? call.auth.org_id with
    | none =>
      rw [performs_next (by simp only [callStep, phase, account, org]; rfl)]
      exact performs_ended rfl _
    | some org' =>
      cases agent : s.db.agents.find? call.auth.agent_id with
      | none =>
        rw [performs_next (by simp only [callStep, phase, account, org, agent]; rfl)]
        exact performs_ended rfl _
      | some agent' =>
        rw [performs_next (by simp only [callStep, phase, account, org, agent]; rfl)]
        rw [performs_orFail (by simp only [callStep, State.move, account]; rw [free]; rfl)]
        congr 1
        funext active
        cases found : findAttempt s.db s.now call.auth.connection_id call.idempotencyKey with
        | mk db raced =>
          cases raced with
          | none =>
            rw [performs_next (by simp only [callStep, State.move]; rw [found])]
            rw [performs_orFail (by simp only [callStep, State.move]; rfl)]
            congr 1
            funext quote
            rw [performs_orFail (by simp only [callStep, State.move]; rfl)]
            congr 1
            funext source
            exact performs_gated rfl
          | some attempt =>
            by_cases other : attempt.request_hash ≠ call.requestHash
            · rw [performs_next (by simp only [callStep, State.move]; rw [found]; exact if_pos other)]
              exact (performs_ended rfl _).trans (if_pos other).symm
            · rw [performs_next (by simp only [callStep, State.move]; rw [found]; exact if_neg other)]
              exact (performs_ended rfl _).trans (if_neg other).symm

def AgentPaymentAccountRow.terms (row : AgentPaymentAccountRow) : AgentPaymentAccountRow :=
  { row with budget_usdc := 0, spent_usdc := 0, reserved_usdc := 0, per_request_cap_usdc := 0 }

def PaymentSourceRow.terms (row : PaymentSourceRow) : PaymentSourceRow := { row with simulated_balance_usdc := 0 }

def Db.terms (db : Db) : Db :=
  { db with
    accounts := db.accounts.rewrite AgentPaymentAccountRow.terms fun _ => by rfl
    sources := db.sources.rewrite PaymentSourceRow.terms fun _ => rfl }

variable {db : Db} {auth : ConnectionAuthResult} {quote : RuntimeQuote}

theorem checkActiveAccount_terms {frozen : Bool} {status : AgentStatus} {row : AgentPaymentAccountRow} :
    checkActiveAccount frozen status row.terms = (checkActiveAccount frozen status row).map .terms := by
  unfold checkActiveAccount AgentPaymentAccountRow.terms
  split_ifs <;> rfl

theorem activePaymentAccount_terms : activePaymentAccount db.terms auth = (activePaymentAccount db auth).map .terms := by
  unfold activePaymentAccount
  have account : db.terms.accounts.find? (accountOf auth) = (db.accounts.find? (accountOf auth)).map .terms :=
    Table.find?_rewrite (f := AgentPaymentAccountRow.terms) (fun _ => by rfl) _
  have orgs : db.terms.orgs = db.orgs := rfl
  have agents : db.terms.agents = db.agents := rfl
  rw [account, orgs, agents]
  cases db.accounts.find? (accountOf auth) with
  | none => rfl
  | some row =>
    cases db.orgs.find? auth.org_id with
    | none => rfl
    | some org =>
      cases db.agents.find? auth.agent_id with
      | none => rfl
      | some agent => exact checkActiveAccount_terms

theorem activePaymentSource_terms {rail : PaymentRail} {chain : PaymentChain} :
    activePaymentSource db.terms auth.org_id rail chain = (activePaymentSource db auth.org_id rail chain).map .terms := by
  unfold activePaymentSource
  have active : (db.terms.sources.rows.filter fun row =>
      row.org_id = auth.org_id ∧ row.rail = rail ∧ row.chain = chain ∧ row.status = .active) =
      (db.sources.rows.filter fun row =>
        row.org_id = auth.org_id ∧ row.rail = rail ∧ row.chain = chain ∧ row.status = .active).map .terms := List.filter_map
  simp only [active]
  rw [← List.map_insertionSort newestFirst newestFirst PaymentSourceRow.terms _ fun _ _ _ _ => Iff.rfl, List.head?_map]
  cases (List.insertionSort newestFirst (db.sources.rows.filter fun row =>
      row.org_id = auth.org_id ∧ row.rail = rail ∧ row.chain = chain ∧ row.status = .active)).head? <;> rfl

/-- The checks of `checkSource` before the one on a simulated balance -/
def checkProvider (quote : RuntimeQuote) (source : PaymentSourceRow) : Except Failure Unit :=
  if (source.provider = .circleGateway ∨ source.provider = .circleWallets) ∧
      (source.external_wallet_id = none ∨ source.address = none) then
    .error (conflict "payment_source_not_live"
      "Circle payment source is missing its wallet address or Circle wallet id.")
  else if quote.settlementKind = .gateway ∧ source.provider ≠ .circleGateway ∧ source.provider ≠ .simulation then
    .error (conflict "payment_source_incompatible" "Gateway x402 payments require a Gateway payment source.")
  else if quote.settlementKind = .directExact ∧ source.provider ≠ .circleWallets ∧ source.provider ≠ .simulation then
    .error (conflict "payment_source_incompatible" "Exact x402 payments require a Circle Wallets payment source.")
  else .ok ()

def insufficientSimulatedBalance : Failure :=
  conflict "insufficient_payment_source_balance" "Payment source does not have enough simulated balance."

def Short (quote : RuntimeQuote) (source : PaymentSourceRow) : Prop :=
  source.provider = .simulation ∧ source.simulated_balance_usdc < quote.amountMicros

instance (quote : RuntimeQuote) (source : PaymentSourceRow) : Decidable (Short quote source) :=
  inferInstanceAs (Decidable (_ ∧ _))

theorem checkSource_eq (quote : RuntimeQuote) (source : PaymentSourceRow) :
    checkSource quote source = (checkProvider quote source).bind fun _ =>
      if Short quote source then .error insufficientSimulatedBalance else .ok source := by
  unfold checkSource checkProvider
  split
  · rfl
  split
  · rfl
  split
  · rfl
  rfl

theorem checkProvider_simulation {source : PaymentSourceRow} (simulation : source.provider = .simulation) :
    checkProvider quote source = .ok () := by
  simp [checkProvider, simulation]

def refusal (db : Db) (call : Call) (required : PaymentRequired) (policy : PolicyDecision) : Option Failure :=
  match activePaymentAccount db call.auth with
  | .error failure => some failure
  | .ok account =>
    match db.attemptFor call.auth.connection_id call.idempotencyKey with
    | some raced => if raced.request_hash ≠ call.requestHash then some idempotencyConflict else none
    | none =>
      match selectQuote db call.auth account required.accepts with
      | .error failure => some failure
      | .ok quote =>
        match (activePaymentSource db call.auth.org_id quote.rail quote.chain).bind (checkProvider quote) with
        | .error failure => some failure
        | .ok () => some (IdentityError.mk policy.reasonCode 403 policy.explanation)

theorem refusal_terms : refusal db.terms call required policy = refusal db call required policy := by
  have attempt : db.terms.attemptFor call.auth.connection_id call.idempotencyKey =
      db.attemptFor call.auth.connection_id call.idempotencyKey := rfl
  have chosen : ∀ account : AgentPaymentAccountRow, selectQuote db.terms call.auth account.terms required.accepts =
      selectQuote db call.auth account required.accepts := fun _ => rfl
  simp only [refusal, activePaymentAccount_terms, attempt]
  cases activePaymentAccount db call.auth with
  | error failure => rfl
  | ok account =>
    simp only [Except.map, chosen]
    cases db.attemptFor call.auth.connection_id call.idempotencyKey with
    | some raced => rfl
    | none =>
      cases selectQuote db call.auth account required.accepts with
      | error failure => rfl
      | ok quote =>
        simp only [activePaymentSource_terms]
        cases activePaymentSource db call.auth.org_id quote.rail quote.chain <;> rfl

/-- The request is to be paid from a simulated balance that is short of it. -/
def SimulatedShort (db : Db) (call : Call) (required : PaymentRequired) : Prop :=
  db.attemptFor call.auth.connection_id call.idempotencyKey = none ∧
    ∃ account quote source, activePaymentAccount db call.auth = .ok account ∧
      selectQuote db call.auth account required.accepts = .ok quote ∧
      activePaymentSource db call.auth.org_id quote.rail quote.chain = .ok source ∧ Short quote source

/-- The key already has an attempt for the same request. -/
def AlreadyPrepared (db : Db) (call : Call) : Prop :=
  (∃ account, activePaymentAccount db call.auth = .ok account) ∧
    ∃ raced, db.attemptFor call.auth.connection_id call.idempotencyKey = some raced ∧ raced.request_hash = call.requestHash

theorem refusal_none : refusal db call required policy = none ↔ AlreadyPrepared db call := by
  unfold refusal AlreadyPrepared
  cases active : activePaymentAccount db call.auth with
  | error failure => simp
  | ok account =>
    cases found : db.attemptFor call.auth.connection_id call.idempotencyKey with
    | some raced => simp
    | none =>
      simp only [reduceCtorEq, false_and, exists_false, and_false, iff_false]
      split
      · nofun
      · split <;> nofun

theorem refusal_short (short : SimulatedShort db call required) :
    refusal db call required policy = some (IdentityError.mk policy.reasonCode 403 policy.explanation) := by
  obtain ⟨missing, account, quote, source, active, chosen, found, short⟩ := short
  simp [refusal, active, missing, chosen, found, Except.bind, checkProvider_simulation short.1]

theorem prepare_short (short : SimulatedShort s.db call required) :
    preparePaidHttpPayment hashes s call required policy answers = s.move (.failed insufficientSimulatedBalance) := by
  obtain ⟨missing, account, quote, source, active, chosen, found, short⟩ := short
  have attempt : findAttempt s.db s.now call.auth.connection_id call.idempotencyKey = (s.db, none) := by
    simp [findAttempt, missing]
  have refused : checkSource quote source = .error insufficientSimulatedBalance := by
    rw [checkSource_eq, checkProvider_simulation short.1]
    exact if_pos short
  simp [preparePaidHttpPayment, active, attempt, chosen, found, Except.bind, refused, State.orFail]

variable (hashes answers) in
theorem prepare_denied (denied : policy.decision = .deny) (enough : ¬SimulatedShort s.db call required) :
    match refusal s.db call required policy with
    | some failure => preparePaidHttpPayment hashes s call required policy answers = s.move (.failed failure)
    | none => ∃ result, (preparePaidHttpPayment hashes s call required policy answers).phase = .returned result := by
  unfold refusal preparePaidHttpPayment findAttempt
  cases active : activePaymentAccount s.db call.auth with
  | error failure => rfl
  | ok account =>
    simp only [State.orFail]
    cases missing : s.db.attemptFor call.auth.connection_id call.idempotencyKey with
    | some raced =>
      have same : (raced.scrub s.now).request_hash = raced.request_hash := by
        unfold X402AttemptRow.scrub
        split <;> rfl
      by_cases other : raced.request_hash ≠ call.requestHash
      · simp [same, other]
      · simp [same, other]
    | none =>
      cases chosen : selectQuote s.db call.auth account required.accepts with
      | error failure => rfl
      | ok quote =>
        cases found : activePaymentSource s.db call.auth.org_id quote.rail quote.chain with
        | error failure => simp only [found, Except.bind]
        | ok source =>
          have solvent : ¬Short quote source :=
            fun short => enough ⟨missing, account, quote, source, active, chosen, found, short⟩
          simp only [found, Except.bind, checkSource_eq, if_neg solvent]
          cases checkProvider quote source with
          | error failure => rfl
          | ok checked => simp [prepareGated, enforceX402Policy, denied]

/-- The two calls fail with the same error and change nothing. -/
def FailAlike (s₁ s₂ : State) (effect₁ effect₂ : Effect) : Prop :=
  ∃ failure, effect₁ = s₁.move (.failed failure) ∧ effect₂ = s₂.move (.failed failure)

theorem move_failed {failure failure' : Failure} (same : s.move (.failed failure) = s.move (.failed failure')) :
    failure = failure' := Phase.failed.inj (congrArg Effect.phase same)

theorem failAlike_of_refusal (denied : policy.decision = .deny) {failure : Failure}
    (first : refusal s₁.db call required policy = some failure) (second : refusal s₂.db call required policy = some failure)
    (shorts : SimulatedShort s₁.db call required ↔ SimulatedShort s₂.db call required) :
    FailAlike s₁ s₂ (preparePaidHttpPayment hashes s₁ call required policy answers₁)
      (preparePaidHttpPayment hashes s₂ call required policy answers₂) := by
  by_cases short : SimulatedShort s₁.db call required
  · exact ⟨_, prepare_short short, prepare_short (shorts.mp short)⟩
  · have one := prepare_denied hashes answers₁ denied short
    have two := prepare_denied hashes answers₂ denied (shorts.not.mp short)
    rw [first] at one
    rw [second] at two
    exact ⟨failure, one, two⟩

theorem not_failAlike_of_short (denied : policy.decision = .deny)
    (same : refusal s₁.db call required policy = refusal s₂.db call required policy) (short : SimulatedShort s₁.db call required)
    (enough : ¬SimulatedShort s₂.db call required) {failure : Failure}
    (first : preparePaidHttpPayment hashes s₁ call required policy answers₁ = s₁.move (.failed failure)) :
    preparePaidHttpPayment hashes s₂ call required policy answers₂ ≠ s₂.move (.failed failure) := by
  intro second
  have other := prepare_denied hashes answers₂ denied enough
  rw [← same, refusal_short short] at other
  have insufficient := move_failed (first.symm.trans (prepare_short short))
  have refused := move_failed (second.symm.trans other)
  rw [insufficient] at refused
  simp [insufficientSimulatedBalance, conflict] at refused

theorem failAlike_iff (denied : policy.decision = .deny) (alike : s₁.db.terms = s₂.db.terms) :
    FailAlike s₁ s₂ (preparePaidHttpPayment hashes s₁ call required policy answers₁)
        (preparePaidHttpPayment hashes s₂ call required policy answers₂) ↔
      ¬AlreadyPrepared s₁.db call ∧ (SimulatedShort s₁.db call required ↔ SimulatedShort s₂.db call required) := by
  have same : refusal s₁.db call required policy = refusal s₂.db call required policy := by
    rw [← refusal_terms, alike, refusal_terms]
  constructor
  · rintro ⟨failure, first, second⟩
    constructor
    · intro prepared
      have enough : ¬SimulatedShort s₁.db call required := by
        obtain ⟨-, raced, found, -⟩ := prepared
        rintro ⟨missing, -⟩
        rw [missing] at found
        cases found
      have returned := prepare_denied hashes answers₁ denied enough
      rw [refusal_none.mpr prepared, first] at returned
      obtain ⟨_, ⟨⟩⟩ := returned
    · by_cases short : SimulatedShort s₁.db call required
      · refine iff_of_true short ?_
        by_contra enough
        exact not_failAlike_of_short denied same short enough first second
      · refine iff_of_false short fun short' => ?_
        exact not_failAlike_of_short denied same.symm short' short second first
  · rintro ⟨fresh, shorts⟩
    cases first : refusal s₁.db call required policy with
    | none => exact absurd (refusal_none.mp first) fresh
    | some failure => exact failAlike_of_refusal denied first (same ▸ first) shorts

/-- A denied caller fails alike in states that differ in amounts alone, if and only if there is a new payment to prepare and the
simulated balance is short in both or in neither. The transaction is what the statements of a call do. -/
theorem policy_first (denied : policy.decision = .deny) (alike : s₁.db.terms = s₂.db.terms) :
    (FailAlike s₁ s₂ (preparePaidHttpPayment hashes s₁ call required policy answers₁)
        (preparePaidHttpPayment hashes s₂ call required policy answers₂) ↔
      ¬AlreadyPrepared s₁.db call ∧ (SimulatedShort s₁.db call required ↔ SimulatedShort s₂.db call required)) ∧
    (call.phase = .discovered required → ∀ (s : State) (policy : PolicyDecision) (answers : PrepareAnswers),
      s.accountLocked (accountOf call.auth) = false →
        performs hashes s call (prepareEvents policy answers) = preparePaidHttpPayment hashes s call required policy answers) :=
  ⟨failAlike_iff denied alike, fun phase _ _ _ => performs_prepare phase⟩

section Example

open Workspace

def baseGateway : PaymentRail := ⟨.gateway, .base⟩

def budgeted (budget : Nat) : AgentPaymentAccountRow := ⟨1, 1, .active, true, [baseGateway], budget, 0, 0, 0, none⟩

def batchedOffer : PaymentRequired where
  resource := []
  accepts := [⟨"exact", network, none, none, some (.text "5"), some "0xseller", [("name", .string "GatewayWalletBatched")]⟩]

def withMoney (budget balance : Nat) : State :=
  { state .simulation with
    db := { (state .simulation).db with
      accounts := .singleton (budgeted budget)
      sources := .singleton ⟨1, 1, .simulation, baseGateway, .base, .active, none, none, balance, 0⟩ } }

def payment : Call := ⟨1, Workspace.auth, "k", "request", .discovered batchedOffer⟩

def denies : PolicyDecision := ⟨1, .deny, "policy_denied", "Payments to this domain are denied."⟩

def prepareAnswers : PrepareAnswers := ⟨1, none, none, 1, 1⟩

def failureCode : Phase → Option String
  | .failed (.identity error) => some error.code
  | _ => none

theorem FailAlike.code {effect₁ effect₂ : Effect} (alike : FailAlike s₁ s₂ effect₁ effect₂) :
    failureCode effect₁.phase = failureCode effect₂.phase := by
  obtain ⟨failure, rfl, rfl⟩ := alike
  rfl

/-- The denied caller learns whether the balance covers 5 micros. -/
theorem balance_told :
    (withMoney 10 4).db.terms = (withMoney 10 5).db.terms ∧ denies.decision = .deny ∧
      ¬FailAlike (withMoney 10 4) (withMoney 10 5)
        (preparePaidHttpPayment Workspace.hashes (withMoney 10 4) payment batchedOffer denies prepareAnswers)
        (preparePaidHttpPayment Workspace.hashes (withMoney 10 5) payment batchedOffer denies prepareAnswers) := by
  refine ⟨rfl, rfl, fun alike => ?_⟩
  have code := alike.code
  revert code
  decide +kernel

theorem not_short {budget balance : Nat} (covered : 5 ≤ balance) :
    ¬SimulatedShort (withMoney budget balance).db payment batchedOffer := by
  rintro ⟨-, account, quote, source, active, chosen, found, -, short⟩
  obtain rfl : budgeted budget = account := Except.ok.inj active
  have amount : (selectQuote (withMoney budget balance).db payment.auth (budgeted budget) batchedOffer.accepts).map
      RuntimeQuote.amountMicros = .ok 5 := rfl
  rw [chosen] at amount
  have five : quote.amountMicros = 5 := Except.ok.inj amount
  obtain rfl := List.mem_singleton.mp (activePaymentSource_ok found).1
  exact Nat.not_lt.mpr covered (five ▸ short)

/-- Neither the budget nor what the balance has over 5 micros is told. -/
theorem policy_first_covered :
    FailAlike (withMoney 10 5) (withMoney 0 9)
      (performs Workspace.hashes (withMoney 10 5) payment (prepareEvents denies prepareAnswers))
      (performs Workspace.hashes (withMoney 0 9) payment (prepareEvents denies prepareAnswers)) := by
  have same : (withMoney 10 5).db.terms = (withMoney 0 9).db.terms := rfl
  obtain ⟨alike, performed⟩ := @policy_first Workspace.hashes (withMoney 10 5) (withMoney 0 9) payment batchedOffer denies
    prepareAnswers prepareAnswers rfl same
  rw [performed rfl _ _ _ rfl, performed rfl _ _ _ rfl]
  refine alike.mpr ⟨?_, iff_of_false (not_short le_rfl) (not_short (by decide))⟩
  rintro ⟨-, raced, ⟨⟩, -⟩

end Example

end AgentOps.Payments
