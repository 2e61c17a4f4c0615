import AgentOps.Lib.JsNumber
import AgentOps.PaidHttp.Requests
import AgentOps.Payments.Types
import Mathlib.Algebra.Order.Floor.Ring
import Mathlib.Data.Rat.Floor

namespace AgentOps.Circle
open Lib Payments PaidHttp

/-! # Commands of the command line tool, and how often one call starts them -/

inductive ProcessEnding where
  | exited (stdout stderr : String)
  | failed (message stderr : String) (code : Option String)
  | killed (code : Option String)
  deriving DecidableEq

structure CliProcess where
  ending : ProcessEnding
  effect : Bool
  deriving DecidableEq

structure CliError where
  message : String
  code : Option String
  deriving DecidableEq

def defaultRunner (timeoutMs : Nat) : ProcessEnding → Except CliError String
  | .killed code => .error ⟨"circle_cli_process_timeout:" ++ toString timeoutMs, code⟩
  | .failed message stderr code => .error ⟨if trim stderr ≠ "" then trim stderr else message, code⟩
  | .exited stdout _ => .ok stdout

def isTransientCircleCliError (error : CliError) : Bool :=
  let message := lower error.message
  ["error 429", "rate limit", "too many request", "error 500", "error 502", "error 503", "error 504"].any
    (containsText message)

def circleBlockchainForChain : PaymentMode → PaymentChain → String
  | .live, .arbitrum => "ARB"
  | .live, .avalanche => "AVAX"
  | .live, .base => "BASE"
  | .live, .optimism => "OP"
  | .live, .polygon => "MATIC"
  | .live, .arc => "ARC"
  | .test, .arbitrum => "ARB-SEPOLIA"
  | .test, .avalanche => "AVAX-FUJI"
  | .test, .base => "BASE-SEPOLIA"
  | .test, .optimism => "OP-SEPOLIA"
  | .test, .polygon => "MATIC-AMOY"
  | .test, .arc => "ARC-TESTNET"

def modeArgs : PaymentMode → List String
  | .test => ["--testnet"]
  | .live => []

def idempotencyArgs : Option String → List String
  | none => []
  | some key => ["--idempotency-key", key]

structure BridgeUsdc where
  amount : String
  fromAddress : String
  fromChain : PaymentChain
  idempotencyKey : Option String
  mode : PaymentMode
  toAddress : String
  toChain : PaymentChain

structure ExecuteContract where
  abiFunctionSignature : String
  abiParameters : List String
  address : String
  chain : PaymentChain
  contractAddress : String
  idempotencyKey : Option String
  mode : PaymentMode

structure FundTestnetUsdc where
  address : String
  chain : PaymentChain
  mode : PaymentMode

structure GatewayDepositInput where
  address : String
  amount : String
  mode : PaymentMode
  sourceChain : PaymentChain

structure PaidService where
  address : String
  attemptId : String
  chain : PaymentChain
  maxAmount : String
  mode : PaymentMode
  request : PaidHttpRequest
  timeoutSeconds : Nat

structure UrlService where
  address : String
  chain : PaymentChain
  maxAmount : String
  mode : PaymentMode
  url : String

structure TransferUsdc where
  address : String
  amount : String
  chain : PaymentChain
  idempotencyKey : Option String
  mode : PaymentMode
  toAddress : String
  tokenAddress : String

inductive CliOperation where
  | bridgeUsdc (input : BridgeUsdc)
  | executeContract (input : ExecuteContract)
  | fundTestnetUsdc (input : FundTestnetUsdc)
  | gatewayDepositDirect (input : GatewayDepositInput)
  | gatewayDepositEco (input : GatewayDepositInput)
  | payService (input : PaidService)
  | payUrl (input : UrlService)
  | transferUsdc (input : TransferUsdc)

def CliOperation.idempotencyKey : CliOperation → Option String
  | bridgeUsdc input => input.idempotencyKey
  | executeContract input => input.idempotencyKey
  | transferUsdc input => input.idempotencyKey
  | fundTestnetUsdc _ | gatewayDepositDirect _ | gatewayDepositEco _ | payService _ | payUrl _ => none

def BridgeUsdc.args (input : BridgeUsdc) : List String :=
  ["bridge", "transfer", circleBlockchainForChain input.mode input.toChain, input.toAddress, "--amount", input.amount, "--address",
    input.fromAddress, "--chain", circleBlockchainForChain input.mode input.fromChain] ++
  idempotencyArgs input.idempotencyKey ++ ["--output", "json"]

def ExecuteContract.args (input : ExecuteContract) : List String :=
  ["wallet", "execute", input.abiFunctionSignature] ++ input.abiParameters ++
  ["--contract", input.contractAddress, "--address", input.address, "--chain", circleBlockchainForChain input.mode input.chain] ++
  idempotencyArgs input.idempotencyKey ++ modeArgs input.mode ++ ["--output", "json"]

def FundTestnetUsdc.args (input : FundTestnetUsdc) : List String :=
  ["wallet", "fund", "--address", input.address, "--chain", circleBlockchainForChain input.mode input.chain, "--token", "usdc"] ++
  modeArgs input.mode ++ ["--output", "json"]

/-- The two ways to deposit into the gateway differ in `method` only. -/
def GatewayDepositInput.args (input : GatewayDepositInput) (method : String) : List String :=
  ["gateway", "deposit", "--amount", input.amount, "--address", input.address, "--chain",
    circleBlockchainForChain input.mode input.sourceChain, "--method", method, "--timeout", "180"] ++
  modeArgs input.mode ++ ["--output", "json"]

def TransferUsdc.args (input : TransferUsdc) : List String :=
  ["wallet", "transfer", input.toAddress, "--amount", input.amount, "--token", input.tokenAddress, "--address", input.address,
    "--chain", circleBlockchainForChain input.mode input.chain] ++
  idempotencyArgs input.idempotencyKey ++ modeArgs input.mode ++ ["--output", "json"]

def UrlService.args (input : UrlService) : List String :=
  ["services", "pay", input.url, "--address", input.address, "--chain", circleBlockchainForChain input.mode input.chain,
    "--max-amount", input.maxAmount, "--output", "json"]

def paidRequestData : Option (List UInt8) → Except String (Option String)
  | none => .ok none
  | some body =>
    match String.fromUTF8? ⟨body.toArray⟩ with
    | none => .error "circle_cli_paid_body_binary_unsupported"
    | some decoded =>
      if decoded.toList.any (· = '\x00') then .error "circle_cli_paid_body_binary_unsupported" else .ok (some decoded)

def PaidService.args (input : PaidService) (normalized : NormalizedPaidHttpRequest) (data : Option String) : List String :=
  ["services", "pay", normalized.url, "--address", input.address, "--chain", circleBlockchainForChain input.mode input.chain,
    "--max-amount", input.maxAmount, "--method", normalized.method] ++
  (match data with
    | none => []
    | some data => ["--data", data]) ++
  normalized.headers.flatMap (fun header => ["--header", header.1 ++ ": " ++ header.2]) ++
  ["--timeout", toString input.timeoutSeconds] ++ modeArgs input.mode ++ ["--output", "json"]

inductive PaidRequestFailure where
  | preSubmit
  | ambiguousPostSubmit
  deriving DecidableEq

inductive CliFailure where
  | error (message : String)
  | paidRequest (attemptId : String) (classification : PaidRequestFailure)
  deriving DecidableEq

structure Started where
  args : List String
  process : CliProcess
  deriving DecidableEq

structure CliCall where
  started : List Started
  result : Option (Except CliFailure Json)

def CliCall.effects (call : CliCall) : Nat := call.started.countP (·.process.effect)

def CliCall.after (call : CliCall) (earlier : Started) : CliCall := { call with started := earlier :: call.started }

def CliCall.mapError (call : CliCall) (f : CliFailure → CliFailure) : CliCall :=
  { call with result := call.result.map (·.mapError f) }

def CliCall.refused (failure : CliFailure) : CliCall := ⟨[], some (.error failure)⟩

/-- The executor and the code it calls: `isolatedHome` is the directory made for one paid request. -/
structure CliExecutor where
  maxRetries : JsNumber
  timeoutMs : Nat
  jsonParse : String → Except String Json
  newURL : String → Option Url
  encodeBody : Json → Except PaidHttpFailure (List UInt8)
  isolatedHome : Except String String

def configuredMaxRetries (option : Option JsNumber) (environment : Option String) : JsNumber :=
  option.getD (toNumber (environment.getD "3"))

/-- The bound of the loop, `none` when it has none; no number is less than `NaN`. -/
def attempts : JsNumber → Option Nat
  | .finite value => some (max 1 (⌊value⌋ + 1)).toNat
  | .infinity => none
  | .negInfinity => some 1
  | .nan => some 0

def permits (attempts : Option Nat) (attempt : Nat) : Bool := attempts.all (attempt < ·)

namespace CliExecutor

variable (cli : CliExecutor)

def parseJson (stdout : String) : Except CliError Json :=
  (cli.jsonParse stdout).mapError fun message => ⟨"circle_cli_invalid_json: " ++ message, none⟩

def outcome (process : CliProcess) : Except CliError Json := (defaultRunner cli.timeoutMs process.ending).bind cli.parseJson

/-- The loop from one attempt on. The processes are those that it finds started, and it waits when there are no more. -/
def runAttempts (args : List String) (attempt : Nat) (lastError : Option CliError) : List CliProcess → CliCall
  | [] =>
    if permits (attempts cli.maxRetries) attempt then ⟨[], none⟩
    else .refused (.error (lastError.elim "circle_cli_failed" CliError.message))
  | process :: later =>
    if permits (attempts cli.maxRetries) attempt then
      match cli.outcome process with
      | .ok value => ⟨[⟨args, process⟩], some (.ok value)⟩
      | .error error =>
        if !isTransientCircleCliError error || !permits (attempts cli.maxRetries) (attempt + 1) then
          ⟨[⟨args, process⟩], some (.error (.error error.message))⟩
        else (runAttempts args (attempt + 1) (some error) later).after ⟨args, process⟩
    else .refused (.error (lastError.elim "circle_cli_failed" CliError.message))

def runJson (args : List String) (processes : List CliProcess) : CliCall := cli.runAttempts args 0 none processes

def preSubmitProcessCodes : List String :=
  ["EACCES", "ENOENT", "ENOEXEC", "ENOTDIR", "ERR_INVALID_ARG_TYPE", "ERR_INVALID_ARG_VALUE"]

def paidRequestErrorFrom (error : CliError) (attemptId : String) : CliFailure :=
  .paidRequest attemptId (if error.code.any (· ∈ preSubmitProcessCodes) then .preSubmit else .ambiguousPostSubmit)

/-- A paid request starts its process once and reports how it failed. -/
def runOnce (attemptId : String) (args : List String) : List CliProcess → CliCall
  | [] => ⟨[], none⟩
  | process :: _ =>
    ⟨[⟨args, process⟩], some (match defaultRunner cli.timeoutMs process.ending with
      | .error error => .error (paidRequestErrorFrom error attemptId)
      | .ok stdout => (cli.parseJson stdout).mapError fun _ => .paidRequest attemptId .ambiguousPostSubmit)⟩

def faucetFailure : CliFailure → CliFailure
  | .error message =>
    if containsText (lower message) "429" || containsText (lower message) "rate limit" then
      .error "circle_testnet_faucet_rate_limited"
    else .error message
  | failure => failure

def paidServiceArgs (input : PaidService) : Except CliFailure (List String) :=
  let refused := CliFailure.paidRequest input.attemptId .preSubmit
  match normalizePaidHttpRequest cli.newURL cli.encodeBody input.request with
  | .error _ => .error refused
  | .ok normalized =>
    match paidRequestData normalized.body with
    | .error _ => .error refused
    | .ok data =>
      match cli.isolatedHome with
      | .error _ => .error refused
      | .ok _ => .ok (input.args normalized data)

def call (operation : CliOperation) (processes : List CliProcess) : CliCall :=
  match operation with
  | .bridgeUsdc input => cli.runJson input.args processes
  | .executeContract input => cli.runJson input.args processes
  | .fundTestnetUsdc input =>
    if input.mode ≠ .test then .refused (.error "circle_agent_wallet_faucet_requires_test_mode")
    else (cli.runJson input.args processes).mapError faucetFailure
  | .gatewayDepositDirect input => cli.runJson (input.args "direct") processes
  | .gatewayDepositEco input =>
    if input.sourceChain ≠ .base then .refused (.error "circle_gateway_eco_deposit_only_supports_base_source")
    else cli.runJson (input.args "eco") processes
  | .payService input =>
    match cli.paidServiceArgs input with
    | .error failure => .refused failure
    | .ok args => cli.runOnce input.attemptId args processes
  | .payUrl input => cli.runOnce "legacy_circle_cli_paid_request" input.args processes
  | .transferUsdc input => cli.runJson input.args processes

end CliExecutor

def CliOperation.isPaidRequest : CliOperation → Bool
  | payService _ | payUrl _ => true
  | _ => false

def CliOperation.isRefused : CliOperation → Bool
  | fundTestnetUsdc input => input.mode ≠ .test
  | gatewayDepositEco input => input.sourceChain ≠ .base
  | _ => false

def retriesAtLeastOnce : JsNumber → Prop
  | .finite value => 1 ≤ value
  | .infinity => True
  | .negInfinity | .nan => False

theorem permits_second {maxRetries : JsNumber} : permits (attempts maxRetries) 1 = true ↔ retriesAtLeastOnce maxRetries := by
  cases maxRetries with
  | finite value =>
    have floor : 1 ≤ ⌊value⌋ ↔ 1 ≤ value := by
      rw [Int.le_floor]
      norm_num
    rw [retriesAtLeastOnce, ← floor]
    simp only [permits, attempts, Option.all_some, decide_eq_true_eq]
    omega
  | infinity => simp [permits, attempts, retriesAtLeastOnce]
  | negInfinity => simp [permits, attempts, retriesAtLeastOnce]
  | nan => simp [permits, attempts, retriesAtLeastOnce]

theorem permits_first {attempts : Option Nat} {attempt : Nat} (later : permits attempts (attempt + 1) = true) :
    permits attempts attempt = true := by
  cases attempts with
  | none => rfl
  | some bound =>
    simp only [permits, Option.all_some, decide_eq_true_eq] at later ⊢
    omega

theorem CliCall.effects_mapError {call : CliCall} {f : CliFailure → CliFailure} : (call.mapError f).effects = call.effects := rfl

theorem CliCall.effects_refused {failure : CliFailure} : (CliCall.refused failure).effects = 0 := rfl

theorem CliCall.effects_single {args : List String} {process : CliProcess} {result : Option (Except CliFailure Json)} :
    (CliCall.mk [⟨args, process⟩] result).effects ≤ 1 :=
  List.countP_le_length

namespace CliExecutor

variable {cli : CliExecutor} {args : List String} {processes : List CliProcess} {operation : CliOperation}

theorem runJson_once (single : permits (attempts cli.maxRetries) 1 = false) : (cli.runJson args processes).effects ≤ 1 := by
  cases processes with
  | nil =>
    unfold runJson runAttempts
    split <;> simp [CliCall.effects, CliCall.refused]
  | cons process later =>
    unfold runJson runAttempts
    split
    · split
      · exact CliCall.effects_single
      · simp only [Nat.zero_add, single, Bool.not_false, Bool.or_true, if_true]
        exact CliCall.effects_single
    · simp [CliCall.effects_refused]

theorem runOnce_once {attemptId : String} : (cli.runOnce attemptId args processes).effects ≤ 1 := by
  cases processes with
  | nil => simp [runOnce, CliCall.effects]
  | cons process later => exact CliCall.effects_single

def lostAnswer : CliProcess := ⟨.failed "Command failed: circle" "Error 502: Bad Gateway" (some "1"), true⟩

theorem outcome_lostAnswer : cli.outcome lostAnswer = .error ⟨"Error 502: Bad Gateway", some "1"⟩ := rfl

theorem transient_lostAnswer : isTransientCircleCliError ⟨"Error 502: Bad Gateway", some "1"⟩ = true := by decide

theorem runJson_twice (more : permits (attempts cli.maxRetries) 1 = true) :
    2 ≤ (cli.runJson args [lostAnswer, lostAnswer]).effects := by
  have first : permits (attempts cli.maxRetries) 0 = true := permits_first more
  unfold runJson runAttempts
  simp only [first, if_true, outcome_lostAnswer, transient_lostAnswer, Nat.zero_add, more, Bool.not_true, Bool.or_false,
    Bool.false_eq_true, if_false]
  unfold runAttempts
  simp only [more, if_true, outcome_lostAnswer, transient_lostAnswer, Bool.not_true, Bool.false_or]
  split <;> simp [CliCall.effects, CliCall.after, lostAnswer]

/-- However its processes end, a call of the operation takes effect at most once. -/
def AtMostOnce (cli : CliExecutor) (operation : CliOperation) : Prop :=
  ∀ processes, (cli.call operation processes).effects ≤ 1

/-- Without an idempotency key, a second effect is ruled out only where the command is not retried at all. -/
theorem call_atMostOnce (keyless : operation.idempotencyKey = none) :
    cli.AtMostOnce operation ↔ operation.isPaidRequest = true ∨ operation.isRefused = true ∨ ¬ retriesAtLeastOnce cli.maxRetries := by
  rw [← permits_second, Bool.not_eq_true]
  constructor
  · intro once
    by_contra none
    simp only [not_or, Bool.not_eq_true, Bool.not_eq_false] at none
    obtain ⟨unpaid, accepted, more⟩ := none
    have bound := once [lostAnswer, lostAnswer]
    have twice (args : List String) : ¬(cli.runJson args [lostAnswer, lostAnswer]).effects ≤ 1 :=
      Nat.not_le_of_lt (runJson_twice more)
    cases operation with
    | bridgeUsdc input => exact twice input.args bound
    | executeContract input => exact twice input.args bound
    | fundTestnetUsdc input =>
      have test : input.mode = .test := by simpa [CliOperation.isRefused] using accepted
      simp only [call, test, ne_eq, not_true_eq_false, if_false, CliCall.effects_mapError] at bound
      exact twice input.args bound
    | gatewayDepositDirect input => exact twice (input.args "direct") bound
    | gatewayDepositEco input =>
      have base : input.sourceChain = .base := by simpa [CliOperation.isRefused] using accepted
      simp only [call, base, ne_eq, not_true_eq_false, if_false] at bound
      exact twice (input.args "eco") bound
    | payService input => simp [CliOperation.isPaidRequest] at unpaid
    | payUrl input => simp [CliOperation.isPaidRequest] at unpaid
    | transferUsdc input => exact twice input.args bound
  · intro safe processes
    have single (retried : operation.isPaidRequest = false) (accepted : operation.isRefused = false) (args : List String) :
        (cli.runJson args processes).effects ≤ 1 := by
      apply runJson_once
      simpa [retried, accepted] using safe
    cases operation with
    | bridgeUsdc input => exact single rfl rfl input.args
    | executeContract input => exact single rfl rfl input.args
    | fundTestnetUsdc input =>
      by_cases test : input.mode = .test
      · have accepted : (CliOperation.fundTestnetUsdc input).isRefused = false := by simp [CliOperation.isRefused, test]
        simpa only [call, test, ne_eq, not_true_eq_false, if_false, CliCall.effects_mapError] using
          single rfl accepted input.args
      · simp [call, test, CliCall.effects_refused]
    | gatewayDepositDirect input => exact single rfl rfl (input.args "direct")
    | gatewayDepositEco input =>
      by_cases base : input.sourceChain = .base
      · have accepted : (CliOperation.gatewayDepositEco input).isRefused = false := by simp [CliOperation.isRefused, base]
        simpa only [call, base, ne_eq, not_true_eq_false, if_false] using single rfl accepted (input.args "eco")
      · simp [call, base, CliCall.effects_refused]
    | payService input =>
      simp only [call]
      split
      · simp [CliCall.effects_refused]
      · exact runOnce_once
    | payUrl input => exact runOnce_once
    | transferUsdc input => exact single rfl rfl input.args

def standardCli : CliExecutor where
  maxRetries := configuredMaxRetries none none
  timeoutMs := 240000
  jsonParse text := if text = "\x7b\x7d" then .ok (.object []) else .error "Unexpected token"
  newURL _ := none
  encodeBody _ := .ok []
  isolatedHome := .ok "/tmp/circle"

def directDeposit : CliOperation :=
  .gatewayDepositDirect ⟨"0x1111111111111111111111111111111111111111", "5.00", .test, .base⟩

theorem standardCli_maxRetries : standardCli.maxRetries = .finite 3 := by decide +kernel

theorem call_atMostOnce_standard : ¬ standardCli.AtMostOnce directDeposit := by
  rw [call_atMostOnce rfl, standardCli_maxRetries]
  norm_num [directDeposit, CliOperation.isPaidRequest, CliOperation.isRefused, retriesAtLeastOnce]

def deposited : CliProcess := ⟨.exited "\x7b\x7d" "", true⟩

/-- The first deposit went through and its answer was lost, so the money is deposited again. -/
theorem directDeposit_twice : ¬ standardCli.AtMostOnce directDeposit := by
  intro once
  have bound := once [lostAnswer, deposited]
  revert bound
  decide +kernel

end CliExecutor
end AgentOps.Circle
