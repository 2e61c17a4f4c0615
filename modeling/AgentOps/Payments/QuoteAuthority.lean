import AgentOps.Payments.Quote
import Mathlib.Tactic.SplitIfs

namespace AgentOps.Payments
open Lib Identity

/-! # What a quote asks its signer to sign -/

theorem parseUsdcMicros_decimal {whole micros : Nat} {decimals : List Char} (short : decimals.length ≤ 6)
    (digits : ∀ c ∈ decimals, isDigit c = true) (value : digitsValue (decimals ++ List.replicate (6 - decimals.length) '0') = micros) :
    parseUsdcMicros (Nat.toDigits 10 whole ++ '.' :: decimals) = .ok (whole * 1000000 + micros) := by
  have all : ∀ c ∈ Nat.toDigits 10 whole, isDigit c = true := fun c member => isDigit_toDigits member
  obtain ⟨before, after⟩ := @takeWhile_digits _ decimals '.' all (by decide)
  unfold parseUsdcMicros
  simp only [before, after, List.isEmpty_iff, Nat.toDigits_ne_nil, if_false]
  rw [if_pos (by simpa using ⟨short, digits⟩), digitsValue_toDigits, value]

def decimalsOf (padded : List Char) : List Char :=
  padded.rdropWhile (· = '0') ++ List.replicate (2 - (padded.rdropWhile (· = '0')).length) '0'

theorem formatUsdc_toList (micros : Nat) : (formatUsdc micros).toList =
    Nat.toDigits 10 (micros / 1000000) ++ '.' :: decimalsOf (List.replicate (6 - (Nat.toDigits 10 (micros % 1000000)).length) '0' ++
      Nat.toDigits 10 (micros % 1000000)) := by
  unfold formatUsdc decimalsOf
  simp only [Nat.toString_eq_repr, Nat.toList_repr, String.toList_append, String.toList_ofList]
  generalize List.replicate (6 - (Nat.toDigits 10 (micros % 1000000)).length) '0' ++ Nat.toDigits 10 (micros % 1000000) = padded
  change (_ ++ ['.']) ++ (if (padded.rdropWhile (· = '0')).isEmpty = true then ['0', '0']
    else padded.rdropWhile (· = '0') ++ List.replicate (2 - (padded.rdropWhile (· = '0')).length) '0') = _
  rw [List.append_assoc, List.singleton_append]
  split_ifs with empty
  · rw [List.isEmpty_iff.mp empty]
    rfl
  · rfl

theorem decimalsOf_padded {padded : List Char} (six : padded.length = 6) :
    (decimalsOf padded).length ≤ 6 ∧ decimalsOf padded ++ List.replicate (6 - (decimalsOf padded).length) '0' = padded := by
  have shorter : (padded.rdropWhile (· = '0')).length ≤ 6 := six ▸ (List.rdropWhile_prefix _ _).length_le
  have whole := rdropWhile_append_replicate padded '0'
  have long : (decimalsOf padded).length = (padded.rdropWhile (· = '0')).length + (2 - (padded.rdropWhile (· = '0')).length) := by
    simp [decimalsOf]
  refine ⟨by omega, ?_⟩
  rw [six] at whole
  rw [long, decimalsOf, List.append_assoc, List.replicate_append_replicate]
  rwa [show 2 - (padded.rdropWhile (· = '0')).length +
    (6 - ((padded.rdropWhile (· = '0')).length + (2 - (padded.rdropWhile (· = '0')).length))) =
      6 - (padded.rdropWhile (· = '0')).length by omega]

theorem sixDigits {padded : List Char} (micros : Nat)
    (padding : List.replicate (6 - (Nat.toDigits 10 (micros % 1000000)).length) '0' ++ Nat.toDigits 10 (micros % 1000000) = padded) :
    padded.length = 6 ∧ (∀ c ∈ padded, isDigit c = true) ∧ digitsValue padded = micros % 1000000 := by
  have small : (Nat.toDigits 10 (micros % 1000000)).length ≤ 6 :=
    (Nat.length_toDigits_le_iff (by decide) (by decide)).mpr (Nat.mod_lt _ (by decide))
  subst padding
  refine ⟨?_, ?_, digitsValue_padded⟩
  · rw [List.length_append, List.length_replicate]
    omega
  · intro c member
    rcases List.mem_append.mp member with zero | digit
    · rw [List.eq_of_mem_replicate zero]
      rfl
    · exact isDigit_toDigits digit

theorem parseUsdcMicros_formatUsdc (micros : Nat) : parseUsdcMicros (formatUsdc micros).toList = .ok micros := by
  rw [formatUsdc_toList]
  generalize padding : List.replicate (6 - (Nat.toDigits 10 (micros % 1000000)).length) '0' ++
    Nat.toDigits 10 (micros % 1000000) = padded
  obtain ⟨six, digit, value⟩ := sixDigits micros padding
  obtain ⟨short, whole⟩ := decimalsOf_padded six
  have places : ∀ c ∈ decimalsOf padded, isDigit c = true :=
    fun c member => digit c (whole ▸ List.mem_append_left _ member)
  rw [parseUsdcMicros_decimal short places (whole.symm ▸ value), Nat.div_add_mod']

def gatewayWalletForMode : PaymentMode → String
  | .test => "0x0077777d7EBA4688BDeF3E311b846F25870A19B9"
  | .live => "0x77777777Dcc4d5A8B6E418Fd04D8997ef11000eE"

/-- The EIP-712 domain of the Gateway: addresses are the same in every letter case. -/
structure GatewayDomain (extra : JsonObject) (mode : PaymentMode) : Prop where
  name : extra.string? "name" = some "GatewayWalletBatched"
  version : extra.string? "version" = some "1"
  wallet : ∃ contract, extra.string? "verifyingContract" = some contract ∧ lower contract = lower (gatewayWalletForMode mode)

/-- What the signer is asked for is the platform's own, and is what is reserved and checked. -/
structure Authority (quote : RuntimeQuote) (mode : PaymentMode) : Prop where
  asset : quote.x402Requirements.asset = gatewayUsdcForMode quote.chain mode
  network : quote.x402Requirements.network = gatewayNetworkForMode quote.chain mode
  amount : quote.x402Requirements.amount = quote.amountMicros
  checked : parseUsdcMicros (formatUsdc quote.amountMicros).toList = .ok quote.x402Requirements.amount
  recipient : quote.x402Requirements.payTo = quote.recipient
  gateway : quote.settlementKind = .gateway → GatewayDomain quote.x402Requirements.extra mode

/-- What the seller writes that reaches the signer as it stands: of a Gateway offer the wallet, of another its CAIP-2 id. -/
def PlatformTerms (accept : RuntimeX402Accept) (mode : PaymentMode) : Prop :=
  if gatewayMarker accept then
    ∀ contract, stringValue (accept.extra.string? "verifyingContract") = some contract →
      lower contract = lower (gatewayWalletForMode mode)
  else startsWith (normalizedNetwork accept.network) "eip155:" = true → accept.network = normalizedNetwork accept.network

variable {accept : RuntimeX402Accept} {mode : PaymentMode} {quote : RuntimeQuote}

theorem canonicalUsdcAsset_eq {asset : Option String} {chain : PaymentChain} {address : String}
    (canonical : canonicalUsdcAsset asset chain mode = some address) : address = gatewayUsdcForMode chain mode := by
  simp only [canonicalUsdcAsset] at canonical
  split at canonical
  · exact (Option.some.inj canonical).symm
  · split_ifs at canonical
    · exact (Option.some.inj canonical).symm
    · exact (Option.some.inj canonical).symm

theorem gatewayNetworkForMode_lower (chain : PaymentChain) (mode : PaymentMode) :
    lower (gatewayNetworkForMode chain mode) = gatewayNetworkForMode chain mode := by
  cases mode <;> cases chain <;> decide

theorem normalizedPaymentNetwork_eq {chain : PaymentChain} (matched : networkMatchesMode accept.network chain mode = true) :
    normalizedPaymentNetwork accept chain mode = gatewayNetworkForMode chain mode ↔
      (startsWith (normalizedNetwork accept.network) "eip155:" = true → accept.network = normalizedNetwork accept.network) := by
  unfold normalizedPaymentNetwork
  split_ifs with caip
  · have id : normalizedNetwork accept.network = gatewayNetworkForMode chain mode := by
      simpa [networkMatchesMode, caip, gatewayNetworkForMode_lower] using matched
    rw [id] at caip ⊢
    exact ⟨fun same _ => same, fun same => same caip⟩
  · exact iff_of_true rfl fun spelled => absurd spelled caip

theorem gatewayExtra_domain : GatewayDomain (gatewayExtra accept mode) mode ↔
    ∀ contract, stringValue (accept.extra.string? "verifyingContract") = some contract →
      lower contract = lower (gatewayWalletForMode mode) := by
  have wallet : (gatewayExtra accept mode).string? "verifyingContract" =
      some ((stringValue (accept.extra.string? "verifyingContract")).getD (gatewayWalletForMode mode)) := by
    simp only [gatewayExtra, JsonObject.spread, List.foldl_cons, List.foldl_nil]
    rw [JsonObject.string?_set_ne (by decide), JsonObject.string?_set_self]
    cases mode <;> rfl
  have name : (gatewayExtra accept mode).string? "name" = some "GatewayWalletBatched" := by
    simp only [gatewayExtra, JsonObject.spread, List.foldl_cons, List.foldl_nil]
    rw [JsonObject.string?_set_ne (by decide), JsonObject.string?_set_ne (by decide), JsonObject.string?_set_self]
  have version : (gatewayExtra accept mode).string? "version" = some "1" := by
    simp only [gatewayExtra, JsonObject.spread, List.foldl_cons, List.foldl_nil]
    exact JsonObject.string?_set_self
  constructor
  · rintro ⟨-, -, contract, signed, own⟩ sellers named
    rw [wallet, named] at signed
    obtain rfl := Option.some.inj signed
    exact own
  · intro own
    refine ⟨name, version, _, wallet, ?_⟩
    cases named : stringValue (accept.extra.string? "verifyingContract") with
    | none => rfl
    | some contract => exact own contract named

theorem quoteFromAccept_terms (quoted : quoteFromAccept accept mode = .ok (some quote)) :
    quote.x402Requirements.asset = gatewayUsdcForMode quote.chain mode ∧
      quote.x402Requirements.amount = quote.amountMicros ∧ quote.x402Requirements.payTo = quote.recipient ∧
      (if gatewayMarker accept then
        quote.settlementKind = .gateway ∧ quote.x402Requirements.network = gatewayNetworkForMode quote.chain mode ∧
          quote.x402Requirements.extra = gatewayExtra accept mode
      else quote.settlementKind = .directExact ∧ networkMatchesMode accept.network quote.chain mode = true ∧
        quote.x402Requirements.network = normalizedPaymentNetwork accept quote.chain mode) := by
  unfold quoteFromAccept at quoted
  split at quoted
  · cases quoted
  split at quoted
  · cases quoted
  split at quoted
  · cases quoted
  split at quoted
  · cases quoted
  rename_i matched
  split at quoted
  · cases quoted
  rename_i address canonical
  split at quoted
  · cases quoted
  split at quoted
  · cases quoted
  obtain rfl := Option.some.inj (Except.ok.inj quoted)
  refine ⟨canonicalUsdcAsset_eq canonical, rfl, rfl, ?_⟩
  by_cases marked : gatewayMarker accept = true
  · simp [marked]
  · simpa [marked] using matched

theorem authority_of_terms (quoted : quoteFromAccept accept mode = .ok (some quote)) :
    Authority quote mode ↔ PlatformTerms accept mode := by
  obtain ⟨asset, amount, recipient, kind⟩ := quoteFromAccept_terms quoted
  have checked : parseUsdcMicros (formatUsdc quote.amountMicros).toList = .ok quote.x402Requirements.amount := by
    rw [parseUsdcMicros_formatUsdc, amount]
  unfold PlatformTerms
  split_ifs at kind ⊢
  · obtain ⟨gateway, network, extra⟩ := kind
    rw [← gatewayExtra_domain, ← extra]
    exact ⟨fun authority => authority.gateway gateway, fun domain => ⟨asset, network, amount, checked, recipient, fun _ => domain⟩⟩
  · obtain ⟨direct, matched, network⟩ := kind
    rw [← normalizedPaymentNetwork_eq matched, ← network]
    refine ⟨Authority.network, fun network => ⟨asset, network, amount, checked, recipient, fun gateway => ?_⟩⟩
    rw [direct] at gateway
    cases gateway

/-- A quote asks for the platform's own exactly when what its seller wrote and the signer gets is the platform's. -/
theorem quote_authority {accepts : List RuntimeX402Accept} {quotes : List RuntimeQuote}
    (supported : supportedRuntimeQuotes mode accepts = .ok quotes) (member : quote ∈ quotes) :
    quote.accept ∈ accepts ∧ (Authority quote mode ↔ PlatformTerms quote.accept mode) := by
  obtain ⟨offered, quoted⟩ := mem_supportedRuntimeQuotes supported member
  exact ⟨offered, authority_of_terms quoted⟩

def gatewayOffer (extra : JsonObject) : RuntimeX402Accept where
  scheme := "exact"
  network := "eip155:84532"
  asset := some "usdc"
  amount := some (.text "2500")
  maxAmountRequired := none
  payTo := some "0xSeller"
  extra := ("paymentMethod", .string "circle_gateway") :: extra

def gatewayQuote (extra : JsonObject) : RuntimeQuote where
  accept := gatewayOffer extra
  amountMicros := 2500
  chain := .base
  rail := ⟨.gateway, .base⟩
  recipient := "0xSeller"
  settlementKind := .gateway
  x402Network := "eip155:84532"
  x402Requirements :=
    { amount := 2500, asset := "0x036CbD53842c5426634e7929541eC2318f3dCF7e", extra := gatewayExtra (gatewayOffer extra) .test
      network := "eip155:84532", payTo := "0xSeller" }

theorem quote_authority_offered : Authority (gatewayQuote []) .test := by
  have supported : supportedRuntimeQuotes .test [gatewayOffer []] = .ok [gatewayQuote []] := rfl
  refine (quote_authority supported (List.mem_singleton_self _)).2.mpr ?_
  rintro contract ⟨⟩

def ownContract : JsonObject := [("verifyingContract", .string "0x000000000000000000000000000000000000dEaD")]

theorem quote_elsewhere : ¬∀ mode accepts quotes, supportedRuntimeQuotes mode accepts = .ok quotes →
    ∀ quote ∈ quotes, Authority quote mode := by
  intro claim
  have supported : supportedRuntimeQuotes .test [gatewayOffer ownContract] = .ok [gatewayQuote ownContract] := rfl
  have authority := claim .test [gatewayOffer ownContract] [gatewayQuote ownContract] supported _ (List.mem_singleton_self _)
  have domain : GatewayDomain (gatewayExtra (gatewayOffer ownContract) .test) .test := authority.gateway rfl
  have own := gatewayExtra_domain.mp domain "0x000000000000000000000000000000000000dEaD" rfl
  exact absurd own (by decide)

end AgentOps.Payments
