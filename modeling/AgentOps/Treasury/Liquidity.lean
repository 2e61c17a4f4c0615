import AgentOps.Lib.Table
import AgentOps.Lib.Transition
import AgentOps.Payments.Types

namespace AgentOps.Treasury
open Lib Payments

/-! # Preparing liquidity: retries and cancellations of one job -/

abbrev TransactionId := Nat

inductive LiquidityStatus where
  | queued
  | submitted
  | complete
  | failed
  | blocked
  deriving DecidableEq

inductive LiquidityStrategy where
  | walletToGateway
  | walletRebalanceThenGatewayDeposit
  | walletRebalance
  deriving DecidableEq

/-- A chain's name as the metadata has it, which `normalizeChain` may refuse -/
inductive ChainText where
  | known (chain : PaymentChain)
  | unknown
  deriving DecidableEq

/-- An amount as the metadata has it, which `parseUsdcMicros` may refuse -/
inductive AmountText where
  | micros (amount : Nat)
  | malformed
  deriving DecidableEq

/-- The metadata that a retry reads; a strategy that is not supported reads like one that is missing. -/
structure LiquidityMetadata where
  strategy : Option LiquidityStrategy
  sourceChain : Option ChainText
  destinationChain : Option ChainText
  destinationTargetUsdc : Option AmountText
  bridgeTransactionId : Option TransactionId
  bridgeStatus : Option String
  depositTransactionId : Option TransactionId
  gatewayDepositorAddress : Option String
  deriving DecidableEq

structure LiquidityJob where
  mode : PaymentMode
  chain : Option PaymentChain
  status : LiquidityStatus
  amountUsdc : Option Nat
  providerRef : Option TransactionId
  errorCode : Option String
  metadata : LiquidityMetadata
  deriving DecidableEq

structure CircleChainWallet where
  chain : PaymentChain
  address : String
  gatewayDepositorAddress : Option String
  deriving DecidableEq

/-- The variables of a running `retryLiquidityJob` -/
structure RetryFrame where
  strategy : LiquidityStrategy
  sourceChain : PaymentChain
  destinationChain : PaymentChain
  amountMicros : Nat
  destinationTargetMicros : Nat
  bridgeTransactionId : Option TransactionId
  bridgeStatus : Option String
  depositTransactionId : Option TransactionId
  gatewayAlreadySufficient : Bool
  gatewayDepositorAddress : Option String
  deriving DecidableEq

namespace RetryFrame

def needsGatewayBalance (frame : RetryFrame) : Bool :=
  frame.strategy = .walletToGateway || frame.strategy = .walletRebalanceThenGatewayDeposit

def rebalances (frame : RetryFrame) : Bool :=
  frame.strategy = .walletRebalanceThenGatewayDeposit || frame.strategy = .walletRebalance

end RetryFrame

inductive RetryPhase where
  | checked (frame : RetryFrame)
  | walletsFound (frame : RetryFrame)
  | sizing (frame : RetryFrame)
  | bridging (frame : RetryFrame)
  | bridged (frame : RetryFrame)
  | depositing (frame : RetryFrame)
  | deposited (frame : RetryFrame)
  | addressing (frame : RetryFrame)
  | confirming (frame : RetryFrame)
  | awaiting (frame : RetryFrame)
  | completing (frame : RetryFrame)
  /-- `failLiquidityJob` is still to write the row. The catch block passes the variables on. -/
  | failing (errorCode : String) (caught : Option RetryFrame)
  deriving DecidableEq

structure LiquidityRetry where
  id : Nat
  phase : RetryPhase
  deriving DecidableEq

/-- One job, its retries under way and the treasury's wallets. The deposits that were initiated, and whether a cancel has
committed, are recorded for the statements only. -/
structure Liquidity where
  job : LiquidityJob
  wallets : Table CircleChainWallet.chain
  retries : Table LiquidityRetry.id
  deposits : Nat
  cancelled : Bool

inductive BridgeAnswer where
  | submitted (transaction : Option TransactionId)
  | rejected (errorReason : String)
  | threw (error : String)
  deriving DecidableEq

/-- A call that throws may have initiated the deposit all the same. -/
inductive DepositAnswer where
  | initiated (depositTransactionId : TransactionId) (gatewayDepositorAddress : String)
  | unreported (error : String)
  | refused (error : String)
  deriving DecidableEq

inductive LiquidityLabel where
  | retry (retryId : Nat) (liveEnabled configured : Bool)
  | findWallets (retryId : Nat)
  /-- `none` where the call fails or its answer is malformed -/
  | readGateway (retryId : Nat) (available : Option Nat)
  | sizeBridge (retryId : Nat) (walletBalance : Option Nat)
  | bridge (retryId : Nat) (answer : BridgeAnswer)
  | recordBridge (retryId : Nat)
  | deposit (retryId : Nat) (answer : DepositAnswer)
  | recordDeposit (retryId : Nat)
  | recordAddress (retryId : Nat)
  | confirm (retryId : Nat) (available : Option Nat)
  | recordAwaiting (retryId : Nat)
  | complete (retryId : Nat)
  | throw (retryId : Nat) (error : String)
  | fail (retryId : Nat)
  | cancel
  | abandon (retryId : Nat)

namespace LiquidityJob

/-- What `retryLiquidityJob` makes of the row: nothing, a failure to record, or the variables to go on with -/
def check (job : LiquidityJob) (liveEnabled configured : Bool) : Option RetryPhase :=
  if job.status = .complete || job.status = .blocked then none
  else
    match job.amountUsdc, job.chain, job.metadata.sourceChain with
    | some amount, some chain, some source =>
      match job.metadata.strategy with
      | none => some (.failing "liquidity_strategy_invalid" none)
      | some strategy =>
        match source, job.metadata.destinationChain.getD (.known chain),
            job.metadata.destinationTargetUsdc.getD (.micros amount) with
        | .known sourceChain, .known destinationChain, .micros target =>
          if (job.mode = .live && !liveEnabled) || !configured then none
          else some (.checked {
            strategy := strategy
            sourceChain := sourceChain
            destinationChain := destinationChain
            amountMicros := amount
            destinationTargetMicros := target
            bridgeTransactionId := job.metadata.bridgeTransactionId
            bridgeStatus := job.metadata.bridgeStatus
            depositTransactionId := job.metadata.depositTransactionId
            gatewayAlreadySufficient := false
            gatewayDepositorAddress := job.metadata.gatewayDepositorAddress })
        | _, _, _ => none
    | _, _, _ => some (.failing "liquidity_job_metadata_invalid" none)

def recordBridge (job : LiquidityJob) (frame : RetryFrame) : LiquidityJob :=
  { job with
    status := .submitted
    providerRef := frame.bridgeTransactionId.or job.providerRef
    metadata := { job.metadata with
      bridgeStatus := frame.bridgeStatus
      bridgeTransactionId := frame.bridgeTransactionId } }

def recordDeposit (job : LiquidityJob) (frame : RetryFrame) : LiquidityJob :=
  { job with
    status := .submitted
    providerRef := frame.depositTransactionId
    metadata := { job.metadata with
      depositTransactionId := frame.depositTransactionId
      gatewayDepositorAddress := frame.gatewayDepositorAddress } }

def carry (metadata : LiquidityMetadata) (frame : RetryFrame) : LiquidityMetadata :=
  { metadata with
    bridgeStatus := frame.bridgeStatus
    bridgeTransactionId := frame.bridgeTransactionId
    depositTransactionId := frame.depositTransactionId }

/-- `submitLiquidityJobAwaitingGatewayBalance` and the completion differ in the status they set. -/
def finish (job : LiquidityJob) (status : LiquidityStatus) (frame : RetryFrame) : LiquidityJob :=
  { job with
    status := status
    providerRef := frame.depositTransactionId.or frame.bridgeTransactionId
    errorCode := none
    metadata := carry job.metadata frame }

def fail (job : LiquidityJob) (errorCode : String) (caught : Option RetryFrame) : LiquidityJob :=
  { job with
    status := .failed
    errorCode := some (String.ofList (errorCode.toList.take 120))
    metadata := (caught.map (carry job.metadata)).getD job.metadata }

end LiquidityJob

def RetryFrame.afterBridge (frame : RetryFrame) : RetryPhase :=
  if !frame.gatewayAlreadySufficient && frame.needsGatewayBalance then
    if frame.depositTransactionId = none then .depositing frame else .confirming frame
  else .completing frame

namespace Liquidity

def updateRetry (s : Liquidity) (retry : LiquidityRetry) : Liquidity := { s with retries := s.retries.put retry }

def endRetry (s : Liquidity) (retryId : Nat) : Liquidity := { s with retries := s.retries.remove retryId }

def retry (s : Liquidity) (retryId : Nat) (liveEnabled configured : Bool) : Option Liquidity := do
  let phase ← s.job.check liveEnabled configured
  let retries ← s.retries.insert? ⟨retryId, phase⟩
  some { s with retries := retries }

def walletMissing : String := "Create the Circle org treasury before depositing to Gateway."

def walletsFound (s : Liquidity) (frame : RetryFrame) : RetryPhase :=
  match s.wallets.find? frame.sourceChain, s.wallets.find? frame.destinationChain with
  | some _, some destination =>
    let frame := { frame with
      gatewayDepositorAddress :=
        (frame.gatewayDepositorAddress.or destination.gatewayDepositorAddress).or (some destination.address) }
    if frame.needsGatewayBalance then .walletsFound frame else .sizing frame
  | _, _ => .failing walletMissing (some frame)

def findWallets (s : Liquidity) (retryId : Nat) : Option Liquidity := do
  let retry ← s.retries.find? retryId
  match retry.phase with
  | .checked frame => some (s.updateRetry ⟨retryId, s.walletsFound frame⟩)
  | _ => none

def gatewayRead (frame : RetryFrame) (available : Option Nat) : RetryFrame :=
  match available with
  | none => frame
  | some micros =>
    if frame.destinationTargetMicros ≤ micros then
      { frame with
        gatewayAlreadySufficient := true
        bridgeStatus := frame.bridgeStatus.or (some "already_sufficient_gateway_balance") }
    else frame

def readGateway (s : Liquidity) (retryId : Nat) (available : Option Nat) : Option Liquidity := do
  let retry ← s.retries.find? retryId
  match retry.phase with
  | .walletsFound frame => some (s.updateRetry ⟨retryId, .sizing (gatewayRead frame available)⟩)
  | _ => none

def bridgeAmount (frame : RetryFrame) (walletBalance : Option Nat) : Nat :=
  let target := if frame.strategy = .walletRebalance then frame.destinationTargetMicros else frame.amountMicros
  match walletBalance with
  | none => frame.amountMicros
  | some balance => target - balance

def sized (frame : RetryFrame) (walletBalance : Option Nat) : RetryPhase :=
  if !frame.gatewayAlreadySufficient && frame.rebalances && frame.bridgeTransactionId = none &&
      frame.depositTransactionId = none then
    if bridgeAmount frame walletBalance = 0 then
      { frame with bridgeStatus := some "already_sufficient_destination_balance" }.afterBridge
    else if frame.amountMicros < bridgeAmount frame walletBalance then
      .failing "liquidity_destination_balance_regressed" none
    else .bridging frame
  else frame.afterBridge

def sizeBridge (s : Liquidity) (retryId : Nat) (walletBalance : Option Nat) : Option Liquidity := do
  let retry ← s.retries.find? retryId
  match retry.phase with
  | .sizing frame => some (s.updateRetry ⟨retryId, sized frame walletBalance⟩)
  | _ => none

def bridge (s : Liquidity) (retryId : Nat) (answer : BridgeAnswer) : Option Liquidity := do
  let retry ← s.retries.find? retryId
  match retry.phase with
  | .bridging frame =>
    match answer with
    | .submitted transaction => some (s.updateRetry ⟨retryId,
        .bridged { frame with bridgeStatus := some "submitted", bridgeTransactionId := transaction }⟩)
    | .rejected errorReason => some (s.updateRetry ⟨retryId, .failing errorReason none⟩)
    | .threw error => some (s.updateRetry ⟨retryId, .failing error (some frame)⟩)
  | _ => none

def recordBridge (s : Liquidity) (retryId : Nat) : Option Liquidity := do
  let retry ← s.retries.find? retryId
  match retry.phase with
  | .bridged frame =>
    some { s.updateRetry ⟨retryId, frame.afterBridge⟩ with job := s.job.recordBridge frame }
  | _ => none

def deposit (s : Liquidity) (retryId : Nat) (answer : DepositAnswer) : Option Liquidity := do
  let retry ← s.retries.find? retryId
  match retry.phase with
  | .depositing frame =>
    match answer with
    | .initiated depositTransactionId gatewayDepositorAddress =>
      let frame := { frame with
        depositTransactionId := some depositTransactionId
        gatewayDepositorAddress := some gatewayDepositorAddress }
      some { s.updateRetry ⟨retryId, .deposited frame⟩ with deposits := s.deposits + 1 }
    | .unreported error =>
      some { s.updateRetry ⟨retryId, .failing error (some frame)⟩ with deposits := s.deposits + 1 }
    | .refused error => some (s.updateRetry ⟨retryId, .failing error (some frame)⟩)
  | _ => none

def recordDeposit (s : Liquidity) (retryId : Nat) : Option Liquidity := do
  let retry ← s.retries.find? retryId
  match retry.phase with
  | .deposited frame => some { s.updateRetry ⟨retryId, .addressing frame⟩ with job := s.job.recordDeposit frame }
  | _ => none

def recordAddress (s : Liquidity) (retryId : Nat) : Option Liquidity := do
  let retry ← s.retries.find? retryId
  match retry.phase with
  | .addressing frame =>
    let wallets := s.wallets.modify frame.destinationChain fun wallet =>
      { wallet with gatewayDepositorAddress := frame.gatewayDepositorAddress }
    some { s.updateRetry ⟨retryId, .confirming frame⟩ with wallets := wallets }
  | _ => none

def confirmed (frame : RetryFrame) (available : Option Nat) : RetryPhase :=
  match available with
  | none => .awaiting frame
  | some micros => if micros < frame.destinationTargetMicros then .awaiting frame else .completing frame

def confirm (s : Liquidity) (retryId : Nat) (available : Option Nat) : Option Liquidity := do
  let retry ← s.retries.find? retryId
  match retry.phase with
  | .confirming frame => some (s.updateRetry ⟨retryId, confirmed frame available⟩)
  | _ => none

def recordAwaiting (s : Liquidity) (retryId : Nat) : Option Liquidity := do
  let retry ← s.retries.find? retryId
  match retry.phase with
  | .awaiting frame => some { s.endRetry retryId with job := s.job.finish .submitted frame }
  | _ => none

def complete (s : Liquidity) (retryId : Nat) : Option Liquidity := do
  let retry ← s.retries.find? retryId
  match retry.phase with
  | .completing frame => some { s.endRetry retryId with job := s.job.finish .complete frame }
  | _ => none

/-- The variables that the catch block passes on, where the next statement can throw into it. What the try block returns
without awaiting it is not caught. -/
def caught : RetryPhase → Option RetryFrame
  | .checked frame | .bridged frame | .deposited frame | .addressing frame | .confirming frame => some frame
  | .walletsFound _ | .sizing _ | .bridging _ | .depositing _ | .awaiting _ | .completing _ | .failing .. => none

def throw (s : Liquidity) (retryId : Nat) (error : String) : Option Liquidity := do
  let retry ← s.retries.find? retryId
  let frame ← caught retry.phase
  some (s.updateRetry ⟨retryId, .failing error (some frame)⟩)

def fail (s : Liquidity) (retryId : Nat) : Option Liquidity := do
  let retry ← s.retries.find? retryId
  match retry.phase with
  | .failing errorCode caught => some { s.endRetry retryId with job := s.job.fail errorCode caught }
  | _ => none

/-- `cancelLiquidityJob`, one statement with its condition -/
def cancel (s : Liquidity) : Option Liquidity :=
  if s.job.status = .queued || s.job.status = .failed then
    some { s with job := { s.job with status := .blocked, errorCode := some "cancelled" }, cancelled := true }
  else none

def step (s : Liquidity) : LiquidityLabel → Option Liquidity
  | .retry retryId liveEnabled configured => s.retry retryId liveEnabled configured
  | .findWallets retryId => s.findWallets retryId
  | .readGateway retryId available => s.readGateway retryId available
  | .sizeBridge retryId walletBalance => s.sizeBridge retryId walletBalance
  | .bridge retryId answer => s.bridge retryId answer
  | .recordBridge retryId => s.recordBridge retryId
  | .deposit retryId answer => s.deposit retryId answer
  | .recordDeposit retryId => s.recordDeposit retryId
  | .recordAddress retryId => s.recordAddress retryId
  | .confirm retryId available => s.confirm retryId available
  | .recordAwaiting retryId => s.recordAwaiting retryId
  | .complete retryId => s.complete retryId
  | .throw retryId error => s.throw retryId error
  | .fail retryId => s.fail retryId
  | .cancel => s.cancel
  | .abandon retryId => some (s.endRetry retryId)

section Inversion

variable {s s' : Liquidity} {retryId : Nat}

theorem retry_some {liveEnabled configured : Bool} (taken : s.retry retryId liveEnabled configured = some s') :
    ∃ phase retries, s.job.check liveEnabled configured = some phase ∧
      s.retries.insert? ⟨retryId, phase⟩ = some retries ∧ s' = { s with retries := retries } := by
  simp only [retry, Option.bind_eq_bind, Option.bind_eq_some_iff, Option.some.injEq] at taken
  obtain ⟨phase, checked, retries, inserted, rfl⟩ := taken
  exact ⟨phase, retries, checked, inserted, rfl⟩

theorem findWallets_some (taken : s.findWallets retryId = some s') :
    ∃ retry frame, s.retries.find? retryId = some retry ∧ retry.phase = .checked frame ∧
      s' = s.updateRetry ⟨retryId, s.walletsFound frame⟩ := by
  simp only [findWallets, Option.bind_eq_bind, Option.bind_eq_some_iff] at taken
  obtain ⟨retry, found, taken⟩ := taken
  split at taken
  · rename_i frame phase
    exact ⟨retry, frame, found, phase, (Option.some.inj taken).symm⟩
  · cases taken

theorem readGateway_some {available : Option Nat} (taken : s.readGateway retryId available = some s') :
    ∃ retry frame, s.retries.find? retryId = some retry ∧ retry.phase = .walletsFound frame ∧
      s' = s.updateRetry ⟨retryId, .sizing (gatewayRead frame available)⟩ := by
  simp only [readGateway, Option.bind_eq_bind, Option.bind_eq_some_iff] at taken
  obtain ⟨retry, found, taken⟩ := taken
  split at taken
  · rename_i frame phase
    exact ⟨retry, frame, found, phase, (Option.some.inj taken).symm⟩
  · cases taken

theorem sizeBridge_some {walletBalance : Option Nat} (taken : s.sizeBridge retryId walletBalance = some s') :
    ∃ retry frame, s.retries.find? retryId = some retry ∧ retry.phase = .sizing frame ∧
      s' = s.updateRetry ⟨retryId, sized frame walletBalance⟩ := by
  simp only [sizeBridge, Option.bind_eq_bind, Option.bind_eq_some_iff] at taken
  obtain ⟨retry, found, taken⟩ := taken
  split at taken
  · rename_i frame phase
    exact ⟨retry, frame, found, phase, (Option.some.inj taken).symm⟩
  · cases taken

theorem bridge_some {answer : BridgeAnswer} (taken : s.bridge retryId answer = some s') :
    ∃ retry frame, s.retries.find? retryId = some retry ∧ retry.phase = .bridging frame ∧
      ((∃ transaction, s' = s.updateRetry ⟨retryId,
          .bridged { frame with bridgeStatus := some "submitted", bridgeTransactionId := transaction }⟩) ∨
        (∃ errorReason, s' = s.updateRetry ⟨retryId, .failing errorReason none⟩) ∨
        ∃ error, s' = s.updateRetry ⟨retryId, .failing error (some frame)⟩) := by
  simp only [bridge, Option.bind_eq_bind, Option.bind_eq_some_iff] at taken
  obtain ⟨retry, found, taken⟩ := taken
  split at taken
  · rename_i frame phase
    refine ⟨retry, frame, found, phase, ?_⟩
    cases answer with
    | submitted transaction => exact .inl ⟨transaction, (Option.some.inj taken).symm⟩
    | rejected errorReason => exact .inr (.inl ⟨errorReason, (Option.some.inj taken).symm⟩)
    | threw error => exact .inr (.inr ⟨error, (Option.some.inj taken).symm⟩)
  · cases taken

theorem recordBridge_some (taken : s.recordBridge retryId = some s') :
    ∃ retry frame, s.retries.find? retryId = some retry ∧ retry.phase = .bridged frame ∧
      s' = { s.updateRetry ⟨retryId, frame.afterBridge⟩ with job := s.job.recordBridge frame } := by
  simp only [recordBridge, Option.bind_eq_bind, Option.bind_eq_some_iff] at taken
  obtain ⟨retry, found, taken⟩ := taken
  split at taken
  · rename_i frame phase
    exact ⟨retry, frame, found, phase, (Option.some.inj taken).symm⟩
  · cases taken

theorem deposit_some {answer : DepositAnswer} (taken : s.deposit retryId answer = some s') :
    ∃ retry frame, s.retries.find? retryId = some retry ∧ retry.phase = .depositing frame ∧
      ((∃ depositTransactionId gatewayDepositorAddress,
          s' = { s.updateRetry ⟨retryId, .deposited { frame with
              depositTransactionId := some depositTransactionId
              gatewayDepositorAddress := some gatewayDepositorAddress }⟩ with deposits := s.deposits + 1 }) ∨
        (∃ error, answer = .unreported error ∧
          s' = { s.updateRetry ⟨retryId, .failing error (some frame)⟩ with deposits := s.deposits + 1 }) ∨
        ∃ error, s' = s.updateRetry ⟨retryId, .failing error (some frame)⟩) := by
  simp only [deposit, Option.bind_eq_bind, Option.bind_eq_some_iff] at taken
  obtain ⟨retry, found, taken⟩ := taken
  split at taken
  · rename_i frame phase
    refine ⟨retry, frame, found, phase, ?_⟩
    cases answer with
    | initiated transaction address => exact .inl ⟨transaction, address, (Option.some.inj taken).symm⟩
    | unreported error => exact .inr (.inl ⟨error, rfl, (Option.some.inj taken).symm⟩)
    | refused error => exact .inr (.inr ⟨error, (Option.some.inj taken).symm⟩)
  · cases taken

theorem recordDeposit_some (taken : s.recordDeposit retryId = some s') :
    ∃ retry frame, s.retries.find? retryId = some retry ∧ retry.phase = .deposited frame ∧
      s' = { s.updateRetry ⟨retryId, .addressing frame⟩ with job := s.job.recordDeposit frame } := by
  simp only [recordDeposit, Option.bind_eq_bind, Option.bind_eq_some_iff] at taken
  obtain ⟨retry, found, taken⟩ := taken
  split at taken
  · rename_i frame phase
    exact ⟨retry, frame, found, phase, (Option.some.inj taken).symm⟩
  · cases taken

theorem recordAddress_some (taken : s.recordAddress retryId = some s') :
    ∃ retry frame wallets, s.retries.find? retryId = some retry ∧ retry.phase = .addressing frame ∧
      s' = { s.updateRetry ⟨retryId, .confirming frame⟩ with wallets := wallets } := by
  simp only [recordAddress, Option.bind_eq_bind, Option.bind_eq_some_iff] at taken
  obtain ⟨retry, found, taken⟩ := taken
  split at taken
  · rename_i frame phase
    exact ⟨retry, frame, _, found, phase, (Option.some.inj taken).symm⟩
  · cases taken

theorem confirm_some {available : Option Nat} (taken : s.confirm retryId available = some s') :
    ∃ retry frame, s.retries.find? retryId = some retry ∧ retry.phase = .confirming frame ∧
      s' = s.updateRetry ⟨retryId, confirmed frame available⟩ := by
  simp only [confirm, Option.bind_eq_bind, Option.bind_eq_some_iff] at taken
  obtain ⟨retry, found, taken⟩ := taken
  split at taken
  · rename_i frame phase
    exact ⟨retry, frame, found, phase, (Option.some.inj taken).symm⟩
  · cases taken

theorem recordAwaiting_some (taken : s.recordAwaiting retryId = some s') :
    ∃ retry frame, s.retries.find? retryId = some retry ∧ retry.phase = .awaiting frame ∧
      s' = { s.endRetry retryId with job := s.job.finish .submitted frame } := by
  simp only [recordAwaiting, Option.bind_eq_bind, Option.bind_eq_some_iff] at taken
  obtain ⟨retry, found, taken⟩ := taken
  split at taken
  · rename_i frame phase
    exact ⟨retry, frame, found, phase, (Option.some.inj taken).symm⟩
  · cases taken

theorem complete_some (taken : s.complete retryId = some s') :
    ∃ retry frame, s.retries.find? retryId = some retry ∧ retry.phase = .completing frame ∧
      s' = { s.endRetry retryId with job := s.job.finish .complete frame } := by
  simp only [complete, Option.bind_eq_bind, Option.bind_eq_some_iff] at taken
  obtain ⟨retry, found, taken⟩ := taken
  split at taken
  · rename_i frame phase
    exact ⟨retry, frame, found, phase, (Option.some.inj taken).symm⟩
  · cases taken

theorem throw_some {error : String} (taken : s.throw retryId error = some s') :
    ∃ retry frame, s.retries.find? retryId = some retry ∧ caught retry.phase = some frame ∧
      s' = s.updateRetry ⟨retryId, .failing error (some frame)⟩ := by
  simp only [throw, Option.bind_eq_bind, Option.bind_eq_some_iff, Option.some.injEq] at taken
  obtain ⟨retry, found, frame, caught, rfl⟩ := taken
  exact ⟨retry, frame, found, caught, rfl⟩

theorem fail_some (taken : s.fail retryId = some s') :
    ∃ retry errorCode caught, s.retries.find? retryId = some retry ∧ retry.phase = .failing errorCode caught ∧
      s' = { s.endRetry retryId with job := s.job.fail errorCode caught } := by
  simp only [fail, Option.bind_eq_bind, Option.bind_eq_some_iff] at taken
  obtain ⟨retry, found, taken⟩ := taken
  split at taken
  · rename_i errorCode caught phase
    exact ⟨retry, errorCode, caught, found, phase, (Option.some.inj taken).symm⟩
  · cases taken

theorem cancel_some (taken : s.cancel = some s') :
    s' = { s with job := { s.job with status := .blocked, errorCode := some "cancelled" }, cancelled := true } := by
  unfold cancel at taken
  split at taken
  · exact (Option.some.inj taken).symm
  · cases taken

end Inversion

end Liquidity

end AgentOps.Treasury
