import AgentOps.Treasury.Liquidity

namespace AgentOps.Treasury
open Lib Payments

/-! # One deposit for a job, and the last word of a cancel -/

def RetryPhase.frame : RetryPhase → Option RetryFrame
  | .checked frame | .walletsFound frame | .sizing frame | .bridging frame | .bridged frame | .depositing frame
  | .deposited frame | .addressing frame | .confirming frame | .awaiting frame | .completing frame => some frame
  | .failing _ caught => caught

/-- A retry reads the job, and a cancel comes, while no retry is under way. An initiated deposit is reported, and no retry
stops with a deposit that the row does not have. -/
def Serial (s : Liquidity) : LiquidityLabel → Prop
  | .retry .. | .cancel => ∀ retry, retry ∉ s.retries
  | .deposit _ answer => ∀ error, answer ≠ .unreported error
  | .abandon retryId => ∀ retry frame, s.retries.find? retryId = some retry → retry.phase.frame = some frame →
      frame.depositTransactionId ≠ none → s.job.metadata.depositTransactionId ≠ none
  | _ => True

def RetryPhase.beforeDeposit : RetryPhase → Bool
  | .bridging _ | .depositing _ => true
  | _ => false

structure PhaseSound (s : Liquidity) (phase : RetryPhase) : Prop where
  unspent : ∀ frame, phase.frame = some frame → frame.depositTransactionId = none → s.deposits = 0
  before : phase.beforeDeposit = true → ∀ frame, phase.frame = some frame → frame.depositTransactionId = none

structure Liquidity.Accounted (s : Liquidity) : Prop where
  single : ∀ retry ∈ s.retries, ∀ other ∈ s.retries, retry = other
  once : s.deposits ≤ 1
  known : s.deposits = 0 ∨ s.job.metadata.depositTransactionId ≠ none ∨
    ∃ retry ∈ s.retries, ∃ frame, retry.phase.frame = some frame ∧ frame.depositTransactionId ≠ none
  phases : ∀ retry ∈ s.retries, PhaseSound s retry.phase
  cancelled : s.cancelled = true → s.job.status = .blocked ∧ ∀ retry, retry ∉ s.retries

section Step

variable {s s' : Liquidity} {retryId : Nat}

theorem Liquidity.Accounted.put (accounted : s.Accounted) {retry : LiquidityRetry} {phase : RetryPhase}
    (found : s.retries.find? retryId = some retry) (retries : s'.retries = s.retries.put ⟨retryId, phase⟩)
    (cancelled : s'.cancelled = s.cancelled) (once : s'.deposits ≤ 1)
    (known : s'.deposits = 0 ∨ s'.job.metadata.depositTransactionId ≠ none ∨
      ∃ frame, phase.frame = some frame ∧ frame.depositTransactionId ≠ none)
    (sound : PhaseSound s' phase) : s'.Accounted := by
  have mine : (⟨retryId, phase⟩ : LiquidityRetry) ∈ s'.retries := by
    rw [retries]
    exact Table.mem_put.mpr (.inr ⟨rfl, retry, Table.mem_of_find? found, Table.key_of_find? found⟩)
  have only (other : LiquidityRetry) (member : other ∈ s'.retries) : other = ⟨retryId, phase⟩ := by
    rw [retries] at member
    rcases Table.mem_put.mp member with ⟨before, apart⟩ | ⟨same, -⟩
    · obtain rfl := accounted.single other before retry (Table.mem_of_find? found)
      exact absurd (Table.key_of_find? found) apart
    · exact same
  refine ⟨fun other member other' member' => (only other member).trans (only other' member').symm, once, ?_, ?_, ?_⟩
  · exact known.imp_right fun known => known.imp_right fun ⟨frame, here, deposited⟩ => ⟨_, mine, frame, here, deposited⟩
  · intro other member
    rw [only other member]
    exact sound
  · intro stopped
    rw [cancelled] at stopped
    exact absurd (Table.mem_of_find? found) ((accounted.cancelled stopped).2 retry)

theorem Liquidity.Accounted.ended (accounted : s.Accounted) {retry : LiquidityRetry}
    (found : s.retries.find? retryId = some retry) (retries : s'.retries = s.retries.remove retryId)
    (cancelled : s'.cancelled = s.cancelled) (deposits : s'.deposits = s.deposits)
    (known : s.deposits = 0 ∨ s'.job.metadata.depositTransactionId ≠ none) : s'.Accounted := by
  have nobody (other : LiquidityRetry) : other ∉ s'.retries := by
    intro member
    rw [retries] at member
    obtain ⟨before, apart⟩ := Table.mem_remove.mp member
    obtain rfl := accounted.single other before retry (Table.mem_of_find? found)
    exact apart (Table.key_of_find? found)
  refine ⟨fun other member => absurd member (nobody other), by rw [deposits]; exact accounted.once, ?_,
    fun other member => absurd member (nobody other), fun stopped => ?_⟩
  · rw [deposits]
    exact known.imp_right .inl
  · rw [cancelled] at stopped
    exact absurd (Table.mem_of_find? found) ((accounted.cancelled stopped).2 retry)

theorem Liquidity.Accounted.sound (accounted : s.Accounted) {retry : LiquidityRetry} {phase : RetryPhase}
    (found : s.retries.find? retryId = some retry) (same : retry.phase = phase) : PhaseSound s phase :=
  same ▸ accounted.phases retry (Table.mem_of_find? found)

theorem PhaseSound.known {phase : RetryPhase} {frame : RetryFrame} (sound : PhaseSound s phase)
    (here : phase.frame = some frame) : s.deposits = 0 ∨ frame.depositTransactionId ≠ none := by
  by_cases none : frame.depositTransactionId = none
  · exact .inl (sound.unspent frame here none)
  · exact .inr none

theorem Liquidity.Accounted.withoutFrame (accounted : s.Accounted) {retry : LiquidityRetry}
    (found : s.retries.find? retryId = some retry) (without : retry.phase.frame = none) :
    s.deposits = 0 ∨ s.job.metadata.depositTransactionId ≠ none := by
  refine accounted.known.imp_right fun known => known.resolve_right ?_
  rintro ⟨other, member, frame, here, -⟩
  obtain rfl := accounted.single other member retry (Table.mem_of_find? found)
  rw [without] at here
  cases here

theorem Liquidity.Accounted.keep (accounted : s.Accounted) {retry : LiquidityRetry} {phase phase' : RetryPhase}
    {frame frame' : RetryFrame} (found : s.retries.find? retryId = some retry) (same : retry.phase = phase)
    (here : phase.frame = some frame) (retries : s'.retries = s.retries.put ⟨retryId, phase'⟩)
    (cancelled : s'.cancelled = s.cancelled) (deposits : s'.deposits = s.deposits) (here' : phase'.frame = some frame')
    (kept : frame'.depositTransactionId = frame.depositTransactionId)
    (before : phase'.beforeDeposit = true → frame.depositTransactionId = none) : s'.Accounted := by
  have sound := accounted.sound found same
  refine accounted.put found retries cancelled (by rw [deposits]; exact accounted.once) ?_ ⟨?_, ?_⟩
  · rw [deposits]
    exact (sound.known here).imp_right fun deposited => .inr ⟨frame', here', kept ▸ deposited⟩
  · intro other here'' none
    obtain rfl := Option.some.inj (here'.symm.trans here'')
    rw [deposits]
    exact sound.unspent frame here (kept.symm.trans none)
  · intro early other here''
    obtain rfl := Option.some.inj (here'.symm.trans here'')
    exact kept.trans (before early)

theorem Liquidity.Accounted.give (accounted : s.Accounted) {retry : LiquidityRetry} {phase : RetryPhase}
    {frame : RetryFrame} {error : String} (found : s.retries.find? retryId = some retry) (same : retry.phase = phase)
    (here : phase.frame = some frame) (undeposited : frame.depositTransactionId = none) :
    (s.updateRetry ⟨retryId, .failing error none⟩).Accounted := by
  have unspent := (accounted.sound found same).unspent frame here undeposited
  exact accounted.put found rfl rfl accounted.once (.inl unspent) ⟨by rintro _ ⟨⟩, by rintro ⟨⟩⟩

theorem afterBridge_frame (frame : RetryFrame) : frame.afterBridge.frame = some frame := by
  unfold RetryFrame.afterBridge
  split
  · split <;> rfl
  · rfl

theorem afterBridge_before {frame : RetryFrame} (early : frame.afterBridge.beforeDeposit = true) :
    frame.depositTransactionId = none := by
  unfold RetryFrame.afterBridge at early
  split at early
  · split at early
    · assumption
    · cases early
  · cases early

theorem walletsFound_keeps (s : Liquidity) (frame : RetryFrame) :
    ∃ frame', (s.walletsFound frame).frame = some frame' ∧ frame'.depositTransactionId = frame.depositTransactionId ∧
      (s.walletsFound frame).beforeDeposit = false := by
  unfold Liquidity.walletsFound
  split
  · dsimp only
    split
    · exact ⟨_, rfl, rfl, rfl⟩
    · exact ⟨_, rfl, rfl, rfl⟩
  · exact ⟨_, rfl, rfl, rfl⟩

theorem gatewayRead_deposit (frame : RetryFrame) (available : Option Nat) :
    (Liquidity.gatewayRead frame available).depositTransactionId = frame.depositTransactionId := by
  unfold Liquidity.gatewayRead
  split
  · rfl
  · split <;> rfl

theorem sized_keeps (frame : RetryFrame) (walletBalance : Option Nat) :
    (∃ frame', (Liquidity.sized frame walletBalance).frame = some frame' ∧
      frame'.depositTransactionId = frame.depositTransactionId ∧
      ((Liquidity.sized frame walletBalance).beforeDeposit = true → frame.depositTransactionId = none)) ∨
    frame.depositTransactionId = none ∧
      Liquidity.sized frame walletBalance = .failing "liquidity_destination_balance_regressed" none := by
  unfold Liquidity.sized
  split
  · rename_i rebalancing
    simp only [Bool.and_eq_true, decide_eq_true_eq] at rebalancing
    split
    · exact .inl ⟨_, afterBridge_frame _, rfl, fun _ => rebalancing.2⟩
    · split
      · exact .inr ⟨rebalancing.2, rfl⟩
      · exact .inl ⟨frame, rfl, rfl, fun _ => rebalancing.2⟩
  · exact .inl ⟨frame, afterBridge_frame frame, rfl, afterBridge_before⟩

theorem check_some {job : LiquidityJob} {liveEnabled configured : Bool} {phase : RetryPhase}
    (checked : job.check liveEnabled configured = some phase) :
    job.status ≠ .blocked ∧ phase.beforeDeposit = false ∧
      ∀ frame, phase.frame = some frame → frame.depositTransactionId = job.metadata.depositTransactionId := by
  unfold LiquidityJob.check at checked
  split at checked
  · cases checked
  · rename_i live
    have unblocked : job.status ≠ .blocked := fun blocked => live (by simp [blocked])
    refine ⟨unblocked, ?_⟩
    split at checked
    · split at checked
      · obtain rfl := Option.some.inj checked
        exact ⟨rfl, by rintro _ ⟨⟩⟩
      · split at checked
        · split at checked
          · cases checked
          · obtain rfl := Option.some.inj checked
            exact ⟨rfl, by rintro _ ⟨⟩; rfl⟩
        · cases checked
    · obtain rfl := Option.some.inj checked
      exact ⟨rfl, by rintro _ ⟨⟩⟩

theorem confirmed_cases (frame : RetryFrame) (available : Option Nat) :
    Liquidity.confirmed frame available = .awaiting frame ∨ Liquidity.confirmed frame available = .completing frame := by
  unfold Liquidity.confirmed
  split
  · exact .inl rfl
  · split
    · exact .inl rfl
    · exact .inr rfl

theorem caught_frame {phase : RetryPhase} {frame : RetryFrame} (caught : Liquidity.caught phase = some frame) :
    phase.frame = some frame := by
  cases phase with
  | checked | bridged | deposited | addressing | confirming => exact caught
  | _ => cases caught

theorem Liquidity.Accounted.begin (accounted : s.Accounted) (idle : ∀ retry, retry ∉ s.retries) {phase : RetryPhase}
    {retries : Table LiquidityRetry.id} (inserted : s.retries.insert? ⟨retryId, phase⟩ = some retries)
    (unblocked : s.job.status ≠ .blocked) (early : phase.beforeDeposit = false)
    (same : ∀ frame, phase.frame = some frame → frame.depositTransactionId = s.job.metadata.depositTransactionId) :
    { s with retries := retries }.Accounted := by
  have only (other : LiquidityRetry) (member : other ∈ retries) : other = ⟨retryId, phase⟩ := by
    rcases (Table.mem_insert? inserted).mp member with rfl | before
    · rfl
    · exact absurd before (idle other)
  have known : s.deposits = 0 ∨ s.job.metadata.depositTransactionId ≠ none := by
    rcases accounted.known with unspent | recorded | ⟨retry, member, -⟩
    · exact .inl unspent
    · exact .inr recorded
    · exact absurd member (idle retry)
  refine ⟨fun other member other' member' => (only other member).trans (only other' member').symm, accounted.once,
    known.imp_right .inl, fun other member => ?_, fun stopped => absurd (accounted.cancelled stopped).1 unblocked⟩
  rw [only other member]
  refine ⟨fun frame here undeposited => ?_, fun depositing => ?_⟩
  · rw [same frame here] at undeposited
    exact known.resolve_right fun recorded => recorded undeposited
  · rw [early] at depositing
    cases depositing

theorem Liquidity.Accounted.deposit (accounted : s.Accounted) {answer : DepositAnswer}
    (reported : ∀ error, answer ≠ .unreported error) (taken : s.deposit retryId answer = some s') : s'.Accounted := by
  obtain ⟨retry, frame, found, phase, ⟨transaction, address, rfl⟩ | ⟨error, lost, -⟩ | ⟨error, rfl⟩⟩ := deposit_some taken
  · have sound := accounted.sound found phase
    have unspent := sound.unspent frame rfl (sound.before rfl frame rfl)
    refine accounted.put found rfl rfl (by simp [unspent]) (.inr (.inr ⟨_, rfl, by simp⟩)) ⟨?_, by rintro ⟨⟩⟩
    rintro _ ⟨⟩ ⟨⟩
  · exact absurd lost (reported error)
  · exact accounted.keep found phase rfl rfl rfl rfl rfl rfl (by rintro ⟨⟩)

theorem Liquidity.Accounted.step (accounted : s.Accounted) {label : LiquidityLabel} (serial : Serial s label)
    (taken : Liquidity.step s label = some s') : s'.Accounted := by
  cases label with
  | retry retryId liveEnabled configured =>
    obtain ⟨phase, retries, checked, inserted, rfl⟩ := Liquidity.retry_some taken
    obtain ⟨unblocked, early, same⟩ := check_some checked
    exact accounted.begin serial inserted unblocked early same
  | findWallets retryId =>
    obtain ⟨retry, frame, found, phase, rfl⟩ := Liquidity.findWallets_some taken
    obtain ⟨frame', here', kept, early⟩ := walletsFound_keeps s frame
    exact accounted.keep found phase rfl rfl rfl rfl here' kept (by simp [early])
  | readGateway retryId available =>
    obtain ⟨retry, frame, found, phase, rfl⟩ := Liquidity.readGateway_some taken
    exact accounted.keep found phase rfl rfl rfl rfl rfl (gatewayRead_deposit frame available) (by rintro ⟨⟩)
  | sizeBridge retryId walletBalance =>
    obtain ⟨retry, frame, found, phase, rfl⟩ := Liquidity.sizeBridge_some taken
    rcases sized_keeps frame walletBalance with ⟨frame', here', kept, before⟩ | ⟨undeposited, regressed⟩
    · exact accounted.keep found phase rfl rfl rfl rfl here' kept before
    · rw [regressed]
      exact accounted.give found phase rfl undeposited
  | bridge retryId answer =>
    obtain ⟨retry, frame, found, phase, taken⟩ := Liquidity.bridge_some taken
    have undeposited := (accounted.sound found phase).before rfl frame rfl
    rcases taken with ⟨transaction, rfl⟩ | ⟨errorReason, rfl⟩ | ⟨error, rfl⟩
    · exact accounted.keep found phase rfl rfl rfl rfl rfl rfl (by rintro ⟨⟩)
    · exact accounted.give found phase rfl undeposited
    · exact accounted.keep found phase rfl rfl rfl rfl rfl rfl (by rintro ⟨⟩)
  | recordBridge retryId =>
    obtain ⟨retry, frame, found, phase, rfl⟩ := Liquidity.recordBridge_some taken
    exact accounted.keep found phase rfl rfl rfl rfl (afterBridge_frame frame) rfl afterBridge_before
  | deposit retryId answer => exact accounted.deposit serial taken
  | recordDeposit retryId =>
    obtain ⟨retry, frame, found, phase, rfl⟩ := Liquidity.recordDeposit_some taken
    exact accounted.keep found phase rfl rfl rfl rfl rfl rfl (by rintro ⟨⟩)
  | recordAddress retryId =>
    obtain ⟨retry, frame, wallets, found, phase, rfl⟩ := Liquidity.recordAddress_some taken
    exact accounted.keep found phase rfl rfl rfl rfl rfl rfl (by rintro ⟨⟩)
  | confirm retryId available =>
    obtain ⟨retry, frame, found, phase, rfl⟩ := Liquidity.confirm_some taken
    rcases confirmed_cases frame available with same | same <;> rw [same]
    · exact accounted.keep found phase rfl rfl rfl rfl rfl rfl (by rintro ⟨⟩)
    · exact accounted.keep found phase rfl rfl rfl rfl rfl rfl (by rintro ⟨⟩)
  | recordAwaiting retryId =>
    obtain ⟨retry, frame, found, phase, rfl⟩ := Liquidity.recordAwaiting_some taken
    exact accounted.ended found rfl rfl rfl ((accounted.sound found phase).known rfl)
  | complete retryId =>
    obtain ⟨retry, frame, found, phase, rfl⟩ := Liquidity.complete_some taken
    exact accounted.ended found rfl rfl rfl ((accounted.sound found phase).known rfl)
  | throw retryId error =>
    obtain ⟨retry, frame, found, caught, rfl⟩ := Liquidity.throw_some taken
    exact accounted.keep found rfl (caught_frame caught) rfl rfl rfl rfl rfl (by rintro ⟨⟩)
  | fail retryId =>
    obtain ⟨retry, errorCode, caught, found, phase, rfl⟩ := Liquidity.fail_some taken
    refine accounted.ended found rfl rfl rfl ?_
    cases caught with
    | some frame => exact (accounted.sound found phase).known rfl
    | none => exact accounted.withoutFrame found (by rw [phase]; rfl)
  | cancel =>
    obtain rfl := Liquidity.cancel_some taken
    exact ⟨accounted.single, accounted.once, accounted.known,
      fun retry member => absurd member (serial retry), fun _ => ⟨rfl, serial⟩⟩
  | abandon retryId =>
    obtain rfl := Option.some.inj taken
    cases found : s.retries.find? retryId with
    | none =>
      have same : s.endRetry retryId = s := by
        unfold Liquidity.endRetry
        rw [Table.ext_rows (Table.rows_remove found)]
      rwa [same]
    | some retry =>
      refine accounted.ended found rfl rfl rfl ?_
      cases here : retry.phase.frame with
      | none => exact accounted.withoutFrame found here
      | some frame =>
        refine ((accounted.sound found rfl).known here).imp_right fun deposited => ?_
        exact serial retry frame found here deposited

end Step

structure Liquidity.Untouched (s : Liquidity) : Prop where
  idle : s.retries = .empty
  undeposited : s.deposits = 0
  uncancelled : s.cancelled = false

theorem Liquidity.Untouched.accounted {s : Liquidity} (untouched : s.Untouched) : s.Accounted := by
  obtain ⟨idle, undeposited, uncancelled⟩ := untouched
  have nobody (retry : LiquidityRetry) : retry ∉ s.retries := by
    rw [idle]
    exact Table.not_mem_empty retry
  refine ⟨fun retry member => absurd member (nobody retry), by omega, .inl undeposited,
    fun retry member => absurd member (nobody retry), fun cancelled => ?_⟩
  rw [uncancelled] at cancelled
  cases cancelled

/-- At most one deposit is initiated, and a job that was cancelled stays blocked. -/
structure Liquidity.Settled (s : Liquidity) : Prop where
  once : s.deposits ≤ 1
  final : s.cancelled = true → s.job.status = .blocked

theorem liquidity_settled {s₀ s : Liquidity} {events : List (Liquidity × LiquidityLabel)} (untouched : s₀.Untouched)
    (run : Run Liquidity.step s₀ events s) (conforms : Conforms Serial events) : s.Settled := by
  have accounted := run.invariant _ conforms untouched.accounted fun _ _ _ accounted serial taken =>
    accounted.step serial taken
  exact ⟨accounted.once, fun cancelled => (accounted.cancelled cancelled).1⟩

section Example

def queuedDeposit : Liquidity where
  job := {
    mode := .test
    chain := some .arc
    status := .queued
    amountUsdc := some 100
    providerRef := none
    errorCode := none
    metadata := ⟨some .walletToGateway, some (.known .arc), none, none, none, none, none, none⟩ }
  wallets := .singleton ⟨.arc, "0x1", none⟩
  retries := .empty
  deposits := 0
  cancelled := false

theorem untouched_queuedDeposit : queuedDeposit.Untouched := ⟨rfl, rfl, rfl⟩

/-- Two retries that read the job while it was queued each initiate a deposit. One that read it before the cancel marks it
complete after. -/
theorem liquidity_unsettled : queuedDeposit.Untouched ∧
    (∃ events s, Run Liquidity.step queuedDeposit events s ∧ s.deposits = 2) ∧
    ∃ events s, Run Liquidity.step queuedDeposit events s ∧ s.cancelled = true ∧ s.job.status = .complete := by
  refine ⟨untouched_queuedDeposit, ?_, ?_⟩
  · exact exists_run [.retry 1 false true, .findWallets 1, .retry 2 false true, .findWallets 2, .readGateway 1 none,
      .readGateway 2 none, .sizeBridge 1 none, .sizeBridge 2 none, .deposit 1 (.initiated 7 "0x1"),
      .deposit 2 (.initiated 8 "0x1")] _ (by decide)
  · exact exists_run [.retry 1 false true, .cancel, .findWallets 1, .readGateway 1 (some 100), .sizeBridge 1 none,
      .complete 1] _ (by decide)

def serialCheck (s : Liquidity) : LiquidityLabel → Bool
  | .retry .. | .cancel => s.retries.rows.isEmpty
  | .deposit _ (.unreported _) | .abandon _ => false
  | _ => true

theorem serialCheck_serial (s : Liquidity) (label : LiquidityLabel) (checked : serialCheck s label = true) :
    Serial s label := by
  have nobody (empty : s.retries.rows.isEmpty = true) (retry : LiquidityRetry) : retry ∉ s.retries := by
    rw [Table.mem_def, List.isEmpty_iff.mp empty]
    exact List.not_mem_nil
  cases label with
  | retry | cancel => exact nobody checked
  | deposit retryId answer =>
    rintro error rfl
    cases checked
  | abandon => cases checked
  | _ => trivial

theorem liquidity_settled_once : ∃ s : Liquidity, s.deposits = 1 ∧ s.job.status = .complete ∧ s.Settled := by
  obtain ⟨events, s, run, conforms, deposited, complete⟩ : ∃ events s, Run Liquidity.step queuedDeposit events s ∧
      Conforms Serial events ∧ s.deposits = 1 ∧ s.job.status = .complete :=
    exists_conforming_run [.retry 1 false true, .findWallets 1, .readGateway 1 none, .sizeBridge 1 none,
      .deposit 1 (.initiated 7 "0x1"), .recordDeposit 1, .recordAddress 1, .confirm 1 (some 100), .complete 1]
      serialCheck _ serialCheck_serial (by decide)
  exact ⟨s, deposited, complete, liquidity_settled untouched_queuedDeposit run conforms⟩

end Example

end AgentOps.Treasury
