import AgentOps.Lib.DecimalText
import AgentOps.Payments.AmountUnits
import AgentOps.Payments.QuoteAuthority

namespace AgentOps.Payments
open Lib Identity

/-! # Amounts of USDC as texts -/

def sixPlaces (micros : Nat) : String :=
  let digits := (toString (micros % 1000000)).toList
  toString (micros / 1000000) ++ "." ++ String.ofList (List.replicate (6 - digits.length) '0' ++ digits)

/-! The copies of `allocations.ts` and `permit2.ts` -/

namespace Allocations

def parseUsdcMicros (raw : List Char) : Except IdentityError Nat := Payments.parseUsdcMicros raw

def formatUsdc (micros : Nat) : String := sixPlaces micros

end Allocations

namespace Permit2

def parseUsdcMicros (raw : List Char) : Except IdentityError Nat := Payments.parseUsdcMicros raw

def formatUsdc (micros : Nat) : String := sixPlaces micros

end Permit2

def usdcFormats : List (Nat → String) := [formatUsdc, Allocations.formatUsdc, Permit2.formatUsdc]

def AmountValue.denotes? (value : AmountValue) : Option ℚ := decimalOf? value.raw

/-- A reading that gives back what is formatted, and otherwise the decimal itself -/
structure ExactReading (parse : List Char → Except IdentityError Nat) : Prop where
  formatted : ∀ format ∈ usdcFormats, ∀ micros, parse (AmountValue.text (format micros)).raw = .ok micros
  denoted : ∀ (value : AmountValue) (micros : Nat), parse value.raw = .ok micros → value.denotes? = some (micros / 10 ^ 6 : ℚ)
  same : ∀ (value value' : AmountValue) (micros micros' : Nat), parse value.raw = .ok micros → parse value'.raw = .ok micros' →
    (micros = micros' ↔ value.denotes? = value'.denotes?)

variable {raw whole decimals : List Char} {micros : Nat}

theorem digitsValue_append : digitsValue (whole ++ decimals) = digitsValue whole * 10 ^ decimals.length + digitsValue decimals := by
  change Nat.ofDigitChars 10 _ 0 = Nat.ofDigitChars 10 _ 0 * _ + Nat.ofDigitChars 10 _ 0
  rw [Nat.ofDigitChars_append, Nat.ofDigitChars_eq_ofDigitChars_zero, Nat.mul_comm]

theorem span_digits (digits : ∀ c ∈ decimals, isDigit c = true) : decimals.span isDigit = (decimals, []) := by
  rw [List.span_eq_takeWhile_dropWhile, List.takeWhile_eq_self_iff.mpr digits, List.dropWhile_eq_nil_iff.mpr digits]

theorem decimal_places (short : decimals.length ≤ 6) :
    (digitsValue (whole ++ decimals) : ℚ) * 10 ^ (0 - decimals.length : ℤ) =
      ((digitsValue whole * 1000000 + digitsValue (decimals ++ List.replicate (6 - decimals.length) '0') : ℕ) : ℚ) / 10 ^ 6 := by
  have scale : (10 : ℚ) ^ decimals.length * 10 ^ (6 - decimals.length) = 10 ^ 6 := by rw [← pow_add, Nat.add_sub_cancel' short]
  have nonzero : (10 : ℚ) ^ decimals.length ≠ 0 := by positivity
  rw [zero_sub, zpow_neg, zpow_natCast, digitsValue_append, digitsValue_zeros, ← div_eq_mul_inv, div_eq_div_iff nonzero (by positivity)]
  push_cast
  rw [← scale]
  have million : (1000000 : ℚ) = 10 ^ decimals.length * 10 ^ (6 - decimals.length) := by rw [scale]; norm_num
  rw [million]
  ring

theorem parseUsdcMicros_denotes (accepted : parseUsdcMicros raw = .ok micros) : decimalOf? raw = some (micros / 10 ^ 6 : ℚ) := by
  unfold parseUsdcMicros at accepted
  dsimp only at accepted
  split at accepted
  · cases accepted
  rename_i something
  unfold decimalOf?
  rw [List.span_eq_takeWhile_dropWhile]
  generalize raw.takeWhile isDigit = whole at accepted something ⊢
  split at accepted
  · rename_i nothing
    obtain rfl := Except.ok.inj accepted
    rw [nothing]
    have places := @decimal_places whole [] (Nat.zero_le 6)
    simp only [something, Bool.false_and, Bool.false_eq_true, if_false, Option.map_some, Option.some.injEq]
    rw [places]
    simp [digitsValue]
  · rename_i decimals point
    split at accepted
    · rename_i proper
      simp only [Bool.and_eq_true, decide_eq_true_eq, List.all_eq_true] at proper
      obtain rfl := Except.ok.inj accepted
      rw [point]
      simp only [span_digits proper.2, something, Bool.false_and, Bool.false_eq_true, if_false, Option.map_some, Option.some.injEq]
      exact decimal_places proper.1
    · cases accepted
  · cases accepted

theorem parseUsdcMicros_raw {text : String} (accepted : parseUsdcMicros text.toList = .ok micros) :
    parseUsdcMicros (AmountValue.text text).raw = .ok micros := by
  have chars := decimalOf?_chars (parseUsdcMicros_denotes accepted)
  rwa [AmountValue.raw, trimChars_visible fun c member => isSpace_numberChar (chars c member)]

theorem parseUsdcMicros_sixPlaces (micros : Nat) : parseUsdcMicros (sixPlaces micros).toList = .ok micros := by
  have printed : (sixPlaces micros).toList = Nat.toDigits 10 (micros / 1000000) ++
      '.' :: (List.replicate (6 - (Nat.toDigits 10 (micros % 1000000)).length) '0' ++ Nat.toDigits 10 (micros % 1000000)) := by
    simp only [sixPlaces, Nat.toString_eq_repr, Nat.toList_repr, String.toList_append, String.toList_ofList]
    rw [List.append_assoc]
    rfl
  rw [printed]
  generalize padding : List.replicate (6 - (Nat.toDigits 10 (micros % 1000000)).length) '0' ++
    Nat.toDigits 10 (micros % 1000000) = padded
  obtain ⟨six, digit, value⟩ := sixDigits micros padding
  have full : digitsValue (padded ++ List.replicate (6 - padded.length) '0') = micros % 1000000 := by
    rw [six, Nat.sub_self, List.replicate_zero, List.append_nil, value]
  rw [parseUsdcMicros_decimal six.le digit full, Nat.div_add_mod']

/-- The three copies read amounts alike: what any of them prints is read back, and a text is read as the decimal it denotes. -/
theorem usdc_text_exact : ExactReading parseUsdcMicros ∧ ExactReading Allocations.parseUsdcMicros ∧ ExactReading Permit2.parseUsdcMicros := by
  have exact : ExactReading parseUsdcMicros := {
    formatted := by
      intro format member micros
      have printed : parseUsdcMicros (format micros).toList = .ok micros := by
        rcases List.mem_cons.mp member with rfl | copied
        · exact parseUsdcMicros_formatUsdc micros
        · simp only [List.mem_cons, List.not_mem_nil, or_false] at copied
          rcases copied with rfl | rfl
          · exact parseUsdcMicros_sixPlaces micros
          · exact parseUsdcMicros_sixPlaces micros
      exact parseUsdcMicros_raw printed
    denoted := fun _ _ accepted => parseUsdcMicros_denotes accepted
    same := by
      intro value value' micros micros' accepted accepted'
      rw [AmountValue.denotes?, AmountValue.denotes?, parseUsdcMicros_denotes accepted, parseUsdcMicros_denotes accepted']
      constructor
      · rintro rfl
        rfl
      · intro same
        have scaled := (div_left_inj' (by positivity : (10 : ℚ) ^ 6 ≠ 0)).mp (Option.some.inj same)
        exact_mod_cast scaled
  }
  exact ⟨exact, exact, exact⟩

end AgentOps.Payments
