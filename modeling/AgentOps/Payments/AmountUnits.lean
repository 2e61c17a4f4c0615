import AgentOps.Payments.IntraFleet
import AgentOps.Payments.Quote
import Mathlib.Tactic.IntervalCases

namespace AgentOps.Payments
open Lib Identity

/-! # The units of an amount, by the spelling of its network -/

def AmountValue.rendered : AmountValue → String
  | .text value => value
  | .number rendered => rendered

def RuntimeX402Accept.atFleet (accept : RuntimeX402Accept) : X402Accept where
  amount := accept.amount.map AmountValue.rendered
  maxAmountRequired := accept.maxAmountRequired.map AmountValue.rendered

/-- Two spellings of a testnet chain: an alias, and the CAIP-2 id -/
structure Spellings (chain : PaymentChain) (a b : String) : Prop where
  known : networkToChain a = some chain ∧ networkToChain b = some chain
  matched : networkMatchesMode a chain .test = true ∧ networkMatchesMode b chain .test = true
  testnet : normalizedNetwork a ∈ testAliases chain
  caip : normalizedNetwork b = gatewayNetworkForMode chain .test

def Amounts (accept : RuntimeX402Accept) (text : String) : Prop :=
  accept.maxAmountRequired = some (.text text) ∨ accept.maxAmountRequired = none ∧ accept.amount = some (.text text)

/-- The readings under both spellings, and that of the fleet, are the same micros. -/
def SameUnits (accept : RuntimeX402Accept) (a b : String) : Prop :=
  (x402UsdcMicrosFromAccept { accept with network := a }).toOption =
      (x402UsdcMicrosFromAccept { accept with network := b }).toOption ∧
    (amountMicrosFromAccept accept.atFleet).toOption = (x402UsdcMicrosFromAccept { accept with network := b }).toOption

variable {accept : RuntimeX402Accept} {chain : PaymentChain} {a b network text : String} {value : Nat} {raw : List Char}

theorem digits?_some (read : digits? raw = some value) : raw ≠ [] ∧ (∀ c ∈ raw, isDigit c = true) ∧ digitsValue raw = value := by
  unfold digits? at read
  split at read
  · cases read
  · rename_i digits
    simp only [Bool.or_eq_true, Bool.not_eq_true', not_or, List.isEmpty_iff, Bool.not_eq_false, List.all_eq_true] at digits
    exact ⟨digits.1, digits.2, Option.some.inj read⟩

theorem isSpace_of_isDigit {c : Char} (digit : isDigit c = true) : isSpace c = false := by
  have within : 48 ≤ c.toNat ∧ c.toNat ≤ 57 := by simpa [isDigit, Char.le_def, UInt32.le_iff_toNat_le] using digit
  obtain ⟨low, high⟩ := within
  have spelled : Char.ofNat c.toNat = c := Char.ofNat_toNat c
  generalize c.toNat = n at low high spelled
  subst spelled
  interval_cases n <;> decide

theorem trimChars_digits (read : digits? raw = some value) : trimChars raw = raw := by
  obtain ⟨-, digits, -⟩ := digits?_some read
  have solid (cs : List Char) (within : ∀ c ∈ cs, isDigit c = true) : cs.dropWhile isSpace = cs := by
    cases cs with
    | nil => rfl
    | cons c cs => simp [isSpace_of_isDigit (within c List.mem_cons_self)]
  rw [trimChars, solid raw digits, solid raw.reverse fun c member => digits c (List.mem_reverse.mp member), List.reverse_reverse]

theorem parseUsdcMicros_digits (read : digits? raw = some value) : parseUsdcMicros raw = .ok (value * 1000000) := by
  obtain ⟨some, digits, rfl⟩ := digits?_some read
  have before : raw.takeWhile isDigit = raw := List.takeWhile_eq_self_iff.mpr digits
  have after : raw.dropWhile isDigit = [] := List.dropWhile_eq_nil_iff.mpr digits
  unfold parseUsdcMicros
  simp [before, after, some]

theorem atomicAmountToMicros_digits {field : String} (read : digits? raw = some value) :
    (atomicAmountToMicros raw field).toOption = if value = 0 then none else some value := by
  unfold atomicAmountToMicros
  rw [read]
  simp only
  split_ifs <;> rfl

theorem x402AtomicNetwork_caip (spelled : Spellings chain a b) : x402AtomicNetwork b = true := by
  have caip := spelled.caip
  unfold x402AtomicNetwork
  simp only [caip]
  cases chain <;> rfl

theorem x402AtomicNetwork_alias (spelled : Spellings chain a b) : x402AtomicNetwork a = true ↔ chain ≠ .arc := by
  have testnet := spelled.testnet
  unfold x402AtomicNetwork
  generalize normalizedNetwork a = normalized at testnet
  cases chain <;> simp only [testAliases, List.mem_cons, List.not_mem_nil, or_false] at testnet
  · rw [testnet]; decide
  · rcases testnet with rfl | rfl <;> decide
  · rcases testnet with rfl | rfl <;> decide
  · rw [testnet]; decide
  · rcases testnet with rfl | rfl <;> decide
  · rw [testnet]; decide

theorem AmountValue.raw_digits (read : digits? text.toList = some value) : (AmountValue.text text).raw = text.toList :=
  trimChars_digits read

theorem x402UsdcMicrosFromAccept_digits (amounts : Amounts accept text) (read : digits? text.toList = some value) :
    (x402UsdcMicrosFromAccept { accept with network }).toOption =
      if value = 0 then none
      else some (if accept.maxAmountRequired.isSome ∨ x402AtomicNetwork network then value else value * 1000000) := by
  have raw := AmountValue.raw_digits read
  unfold x402UsdcMicrosFromAccept
  rcases amounts with required | ⟨unset, amount⟩
  · simp only [required, raw, atomicAmountToMicros_digits read, Option.isSome_some, true_or, if_true]
  · have pointless : text.toList.contains '.' = false := by
      simp only [List.contains_eq_mem, decide_eq_false_iff_not]
      intro point
      exact absurd ((digits?_some read).2.1 '.' point) (by decide)
    simp only [unset, amount, raw, trimChars_digits read, pointless, Bool.not_false, Bool.true_and, Option.isSome_none,
      Bool.false_eq_true, false_or]
    split_ifs with atomic zero zero
    · simp [atomicAmountToMicros_digits read, zero]
    · simp [atomicAmountToMicros_digits read, zero]
    · simp [parseUsdcMicros_digits read, zero, Except.toOption]
    · simp [parseUsdcMicros_digits read, zero, Except.toOption]

theorem amountMicrosFromAccept_digits (amounts : Amounts accept text) (read : digits? text.toList = some value) :
    (amountMicrosFromAccept accept.atFleet).toOption = some value := by
  have raw : accept.atFleet.maxAmountRequired.or accept.atFleet.amount = some text := by
    rcases amounts with required | ⟨unset, amount⟩
    · simp [RuntimeX402Accept.atFleet, required, AmountValue.rendered]
    · simp [RuntimeX402Accept.atFleet, unset, amount, AmountValue.rendered]
  unfold amountMicrosFromAccept
  rw [raw]
  simp [read, Except.toOption]

/-- The spelling decides the units on Arc, unless the entry has its amount in `maxAmountRequired`; of an amount of
zero the fleet alone has a reading. -/
theorem amount_same_units (spelled : Spellings chain a b) (amounts : Amounts accept text)
    (read : digits? text.toList = some value) :
    SameUnits accept a b ↔ value ≠ 0 ∧ (chain = .arc → accept.maxAmountRequired.isSome) := by
  unfold SameUnits
  rw [x402UsdcMicrosFromAccept_digits amounts read, x402UsdcMicrosFromAccept_digits amounts read,
    amountMicrosFromAccept_digits amounts read, x402AtomicNetwork_caip spelled]
  simp only [x402AtomicNetwork_alias spelled]
  by_cases zero : value = 0
  · simp [zero]
  · have apart : value * 1000000 ≠ value := by omega
    by_cases required : accept.maxAmountRequired.isSome = true
    · simp [zero, required]
    · by_cases arc : chain = .arc
      · simp [zero, required, arc, apart]
      · simp [zero, arc]

def amountOn (network amount : String) : RuntimeX402Accept where
  scheme := "exact"
  network := network
  asset := none
  amount := some (.text amount)
  maxAmountRequired := none
  payTo := some "0xSeller"
  extra := []

theorem amount_same_units_base : SameUnits (amountOn "base-sepolia" "2500") "base-sepolia" "eip155:84532" := by
  have spelled : Spellings .base "base-sepolia" "eip155:84532" := by
    refine ⟨⟨?_, ?_⟩, ⟨?_, ?_⟩, ?_, ?_⟩ <;> decide
  have amounts : Amounts (amountOn "base-sepolia" "2500") "2500" := .inr ⟨rfl, rfl⟩
  have read : digits? "2500".toList = some 2500 := by decide
  exact (amount_same_units spelled amounts read).mpr ⟨by decide, nofun⟩

/-- A price of a thousandth of a USDC is one of a thousand USDC under the alias. -/
theorem arc_amount_units : ¬∀ chain a b accept text value, Spellings chain a b → Amounts accept text →
    digits? text.toList = some value → SameUnits accept a b := by
  intro same
  have spelled : Spellings .arc "arc-testnet" "eip155:5042002" := by
    refine ⟨⟨?_, ?_⟩, ⟨?_, ?_⟩, ?_, ?_⟩ <;> decide
  have amounts : Amounts (amountOn "arc-testnet" "1000") "1000" := .inr ⟨rfl, rfl⟩
  have read : digits? "1000".toList = some 1000 := by decide
  have alike := (same _ _ _ _ _ _ spelled amounts read).1
  rw [x402UsdcMicrosFromAccept_digits amounts read, x402UsdcMicrosFromAccept_digits amounts read] at alike
  exact absurd alike (by decide)

end AgentOps.Payments
