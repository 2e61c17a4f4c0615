import AgentOps.Lib.Json
import AgentOps.Lib.Text
import AgentOps.Payments.Types

namespace AgentOps.Payments
open Lib Identity

/-! # x402 offers and the quotes made from them -/

inductive AmountValue where
  | text (value : String)
  | number (rendered : String)

def AmountValue.raw : AmountValue → List Char
  | .text value => trimChars value.toList
  | .number rendered => rendered.toList

structure RuntimeX402Accept where
  scheme : String
  network : String
  asset : Option String
  amount : Option AmountValue
  maxAmountRequired : Option AmountValue
  payTo : Option String
  extra : JsonObject

structure X402Requirements where
  amount : Nat
  asset : String
  extra : JsonObject
  network : String
  payTo : String

structure RuntimeQuote where
  accept : RuntimeX402Accept
  amountMicros : Nat
  chain : PaymentChain
  rail : PaymentRail
  recipient : String
  settlementKind : SettlementKind
  x402Network : String
  x402Requirements : X402Requirements

def stringValue (value : Option String) : Option String :=
  match value with
  | some s => if (trimChars s.toList).isEmpty then none else some (trim s)
  | none => none

def parseUsdcMicros (raw : List Char) : Except IdentityError Nat :=
  let whole := raw.takeWhile isDigit
  let rest := raw.dropWhile isDigit
  let refused := badRequest "invalid_usdc_amount" "USDC amount must be a positive decimal with up to 6 places."
  if whole.isEmpty then .error refused
  else match rest with
    | [] => .ok (digitsValue whole * 1000000)
    | '.' :: decimals =>
      if decimals.length ≤ 6 && decimals.all isDigit then
        .ok (digitsValue whole * 1000000 + digitsValue (decimals ++ List.replicate (6 - decimals.length) '0'))
      else .error refused
    | _ => .error refused

def formatUsdc (micros : Nat) : String :=
  let digits := (toString (micros % 1000000)).toList
  let decimal := (List.replicate (6 - digits.length) '0' ++ digits).reverse.dropWhile (· = '0') |>.reverse
  let normalized := if decimal.isEmpty then ['0', '0'] else decimal ++ List.replicate (2 - decimal.length) '0'
  toString (micros / 1000000) ++ "." ++ String.ofList normalized

def gatewayMarker (accept : RuntimeX402Accept) : Bool :=
  stringValue (accept.extra.string? "name") = some "GatewayWalletBatched" ||
    stringValue (accept.extra.string? "paymentMethod") = some "circle_gateway" ||
    (match accept.extra.field? "gateway" with
      | some (.bool true) => true
      | _ => false)

def gatewayNetworkForMode (chain : PaymentChain) (mode : PaymentMode) : String :=
  match mode, chain with
  | .test, .arbitrum => "eip155:421614"
  | .test, .avalanche => "eip155:43113"
  | .test, .base => "eip155:84532"
  | .test, .optimism => "eip155:11155420"
  | .test, .polygon => "eip155:80002"
  | .test, .arc => "eip155:5042002"
  | .live, .arbitrum => "eip155:42161"
  | .live, .avalanche => "eip155:43114"
  | .live, .base => "eip155:8453"
  | .live, .optimism => "eip155:10"
  | .live, .polygon => "eip155:137"
  -- a placeholder: `quoteFromAccept` drops live Arc offers before the table is read
  | .live, .arc => "eip155:0"

def gatewayUsdcForMode (chain : PaymentChain) (mode : PaymentMode) : String :=
  match mode, chain with
  | .test, .arbitrum => "0x75faf114eafb1bdbe2f0316DF893fd58CE46AA4d"
  | .test, .avalanche => "0x5425890298aed601595a70AB815c96711a31Bc65"
  | .test, .base => "0x036CbD53842c5426634e7929541eC2318f3dCF7e"
  | .test, .optimism => "0x5fd84259d66Cd46123540766Be93DFE6D43130D7"
  | .test, .polygon => "0x41E94Eb019C0762f9Bfcf9Fb1E58725BfB0e7582"
  | .test, .arc => "0x3600000000000000000000000000000000000000"
  | .live, .arbitrum => "0xaf88d065e77c8cC2239327C5EDb3A432268e5831"
  | .live, .avalanche => "0xB97EF9Ef8734C71904D8002F8b6Bc66Dd9c48a6E"
  | .live, .base => "0x833589fCD6eDb6E08f4c7C32D4f71b54bdA02913"
  | .live, .optimism => "0x0b2C639c533813f4Aa9D7837CAf62653d097Ff85"
  | .live, .polygon => "0x3c499c542cef5e3811e1192ce70d8cc03d5c3359"
  | .live, .arc => "0x0000000000000000000000000000000000000000"

def chainNetworks : List (PaymentChain × List String) :=
  [(.base, ["base", "base-sepolia", "eip155:84532", "eip155:8453"]),
    (.arbitrum, ["arbitrum", "arbitrum-sepolia", "arb-sepolia", "eip155:421614", "eip155:42161"]),
    (.polygon, ["polygon", "polygon-amoy", "matic-amoy", "eip155:80002", "eip155:137"]),
    (.optimism, ["optimism", "op-sepolia", "eip155:11155420", "eip155:10"]),
    (.avalanche, ["avalanche", "avalanche-fuji", "avax-fuji", "eip155:43113", "eip155:43114"]),
    (.arc, ["arc", "arc-testnet", "eip155:5042002"])]

def normalizedNetwork (network : String) : String := lower (trim network)

def networkToChain (network : String) : Option PaymentChain :=
  (chainNetworks.find? fun entry => normalizedNetwork network ∈ entry.2).map Prod.fst

def PaymentChain.name : PaymentChain → String
  | .base => "base"
  | .arbitrum => "arbitrum"
  | .polygon => "polygon"
  | .optimism => "optimism"
  | .avalanche => "avalanche"
  | .arc => "arc"

def testAliases : PaymentChain → List String
  | .arbitrum => ["arbitrum-sepolia", "arb-sepolia"]
  | .avalanche => ["avalanche-fuji", "avax-fuji"]
  | .base => ["base-sepolia"]
  | .optimism => ["op-sepolia"]
  | .polygon => ["polygon-amoy", "matic-amoy"]
  | .arc => ["arc-testnet"]

def networkMatchesMode (network : String) (chain : PaymentChain) (mode : PaymentMode) : Bool :=
  let normalized := normalizedNetwork network
  if startsWith normalized "eip155:" then normalized = lower (gatewayNetworkForMode chain mode)
  else if normalized = chain.name then true
  else if mode = .live then false
  else normalized ∈ testAliases chain

def canonicalUsdcAsset (asset : Option String) (chain : PaymentChain) (mode : PaymentMode) : Option String :=
  let expected := gatewayUsdcForMode chain mode
  match asset with
  | none => some expected
  | some address =>
    if lower address = "usdc" then some expected
    else if lower address = lower expected then some expected
    else none

def x402AtomicNetwork (network : String) : Bool :=
  let normalized := normalizedNetwork network
  startsWith normalized "eip155:" || containsText normalized "-sepolia" || containsText normalized "-amoy" ||
    containsText normalized "-fuji"

def atomicAmountToMicros (raw : List Char) (field : String) : Except IdentityError Nat :=
  match digits? raw with
  | none => .error (badRequest "invalid_x402_amount" (field ++ " must be an integer atomic USDC amount."))
  | some micros =>
    if micros = 0 then .error (badRequest "invalid_x402_amount" (field ++ " must be greater than zero."))
    else .ok micros

def x402UsdcMicrosFromAccept (accept : RuntimeX402Accept) : Except IdentityError Nat :=
  match accept.maxAmountRequired, accept.amount with
  | some value, _ => atomicAmountToMicros value.raw "maxAmountRequired"
  | none, none => .error (badRequest "payment_amount_required" "x402 accept entry must include amount.")
  | none, some value =>
    if !value.raw.contains '.' && x402AtomicNetwork accept.network then
      atomicAmountToMicros (trimChars value.raw) "amount"
    else match parseUsdcMicros (trimChars value.raw) with
      | .error refused => .error refused
      | .ok micros =>
        if micros = 0 then .error (badRequest "invalid_usdc_amount" "Payment amount must be greater than zero.")
        else .ok micros

def normalizedPaymentNetwork (accept : RuntimeX402Accept) (chain : PaymentChain) (mode : PaymentMode) : String :=
  if startsWith (normalizedNetwork accept.network) "eip155:" then accept.network
  else gatewayNetworkForMode chain mode

def exactExtra (accept : RuntimeX402Accept) : JsonObject :=
  JsonObject.spread [("name", .string "USDC"), ("version", .string "2")] accept.extra

def gatewayExtra (accept : RuntimeX402Accept) (mode : PaymentMode) : JsonObject :=
  let verifyingContract := (stringValue (accept.extra.string? "verifyingContract")).getD
    (match mode with
      | .test => "0x0077777d7EBA4688BDeF3E311b846F25870A19B9"
      | .live => "0x77777777Dcc4d5A8B6E418Fd04D8997ef11000eE")
  accept.extra.spread
    [("name", .string "GatewayWalletBatched"), ("verifyingContract", .string verifyingContract), ("version", .string "1")]

def quoteFromAccept (accept : RuntimeX402Accept) (mode : PaymentMode) : Except IdentityError (Option RuntimeQuote) :=
  if accept.scheme ≠ "exact" then .ok none
  else match networkToChain accept.network with
    | none => .ok none
    | some chain =>
      if chain = .arc ∧ mode = .live then .ok none
      else if !networkMatchesMode accept.network chain mode then .ok none
      else match canonicalUsdcAsset (stringValue accept.asset) chain mode with
        | none => .ok none
        | some assetAddress =>
          match x402UsdcMicrosFromAccept accept with
          | .error refused => .error refused
          | .ok amountMicros =>
            match stringValue accept.payTo with
            | none => .ok none
            | some recipient =>
              let settlementKind := if gatewayMarker accept then SettlementKind.gateway else .directExact
              let x402Network := match settlementKind with
                | .gateway => gatewayNetworkForMode chain mode
                | .directExact => normalizedPaymentNetwork accept chain mode
              let extra := match settlementKind with
                | .gateway => gatewayExtra accept mode
                | .directExact => exactExtra accept
              .ok (some
                { accept, amountMicros, chain, recipient, settlementKind, x402Network
                  rail := ⟨settlementKind, chain⟩
                  x402Requirements :=
                    { amount := amountMicros, asset := assetAddress, extra, network := x402Network, payTo := recipient } })

def supportedRuntimeQuotes (mode : PaymentMode) : List RuntimeX402Accept → Except IdentityError (List RuntimeQuote)
  | [] => .ok []
  | accept :: accepts =>
    match quoteFromAccept accept mode with
    | .error refused => .error refused
    | .ok quote? =>
      match supportedRuntimeQuotes mode accepts with
      | .error refused => .error refused
      | .ok quotes => .ok (quote?.toList ++ quotes)

theorem atomicAmountToMicros_pos {raw : List Char} {field : String} {micros : Nat}
    (parsed : atomicAmountToMicros raw field = .ok micros) : 0 < micros := by
  unfold atomicAmountToMicros at parsed
  split at parsed
  · cases parsed
  · split at parsed
    · cases parsed
    · rename_i nonzero
      obtain rfl := Except.ok.inj parsed
      exact Nat.pos_of_ne_zero nonzero

theorem x402UsdcMicrosFromAccept_pos {accept : RuntimeX402Accept} {micros : Nat}
    (parsed : x402UsdcMicrosFromAccept accept = .ok micros) : 0 < micros := by
  unfold x402UsdcMicrosFromAccept at parsed
  split at parsed
  · exact atomicAmountToMicros_pos parsed
  · cases parsed
  · split at parsed
    · exact atomicAmountToMicros_pos parsed
    · split at parsed
      · cases parsed
      · split at parsed
        · cases parsed
        · rename_i nonzero
          obtain rfl := Except.ok.inj parsed
          exact Nat.pos_of_ne_zero nonzero

theorem quoteFromAccept_spec {accept : RuntimeX402Accept} {mode : PaymentMode} {quote : RuntimeQuote}
    (quoted : quoteFromAccept accept mode = .ok (some quote)) : quote.accept = accept ∧ 0 < quote.amountMicros := by
  unfold quoteFromAccept at quoted
  split at quoted
  · cases quoted
  split at quoted
  · cases quoted
  split at quoted
  · cases quoted
  split at quoted
  · cases quoted
  split at quoted
  · cases quoted
  split at quoted
  · cases quoted
  rename_i amountMicros parsed
  split at quoted
  · cases quoted
  obtain rfl := Option.some.inj (Except.ok.inj quoted)
  exact ⟨rfl, x402UsdcMicrosFromAccept_pos parsed⟩

theorem mem_supportedRuntimeQuotes {mode : PaymentMode} {accepts : List RuntimeX402Accept} {quotes : List RuntimeQuote}
    (supported : supportedRuntimeQuotes mode accepts = .ok quotes) {quote : RuntimeQuote} (member : quote ∈ quotes) :
    quote.accept ∈ accepts ∧ quoteFromAccept quote.accept mode = .ok (some quote) := by
  induction accepts generalizing quotes with
  | nil =>
    obtain rfl := Except.ok.inj supported
    cases member
  | cons accept accepts ih =>
    unfold supportedRuntimeQuotes at supported
    split at supported
    · cases supported
    rename_i quote? quoted
    split at supported
    · cases supported
    rename_i others rest
    obtain rfl := Except.ok.inj supported
    rcases List.mem_append.mp member with here | there
    · obtain rfl := Option.mem_toList.mp here
      rw [(quoteFromAccept_spec quoted).1]
      exact ⟨List.mem_cons_self, quoted⟩
    · exact (ih rest there).imp_left (List.mem_cons_of_mem _)

end AgentOps.Payments
