import AgentOps.Lib.Numerals
import AgentOps.Lib.Text
import Mathlib.Algebra.Order.Field.Rat
import Mathlib.Data.Int.Lemmas
import Mathlib.Tactic.FieldSimp
import Mathlib.Tactic.Linarith
import Mathlib.Tactic.Positivity
import Mathlib.Tactic.Push
import Mathlib.Tactic.Ring

namespace AgentOps.Lib

/-! # Decimals of 96 bits, and their texts with a fixed number of places -/

structure HostDecimal where
  mantissa : Int
  scale : Nat
  mantissa_lt : mantissa.natAbs < 2 ^ 96
  scale_le : scale ≤ 28
  deriving DecidableEq

namespace HostDecimal

def value (d : HostDecimal) : ℚ := d.mantissa / 10 ^ d.scale

def rounded (places : Nat) (d : HostDecimal) : Int :=
  d.mantissa.sign * ((2 * d.mantissa.natAbs * 10 ^ places + 10 ^ d.scale) / (2 * 10 ^ d.scale) : Nat)

end HostDecimal

def placesText (places : Nat) (units : Int) : List Char :=
  (if units < 0 then ['-'] else []) ++
    (Nat.toDigits 10 (units.natAbs / 10 ^ places) ++ '.' :: numeral 10 places (units.natAbs % 10 ^ places))

variable {places : Nat} {d d' : HostDecimal} {units units' : Int}

theorem magnitude_injective {n n' : Nat}
    (same : Nat.toDigits 10 (n / 10 ^ places) ++ '.' :: numeral 10 places (n % 10 ^ places) =
      Nat.toDigits 10 (n' / 10 ^ places) ++ '.' :: numeral 10 places (n' % 10 ^ places)) : n = n' := by
  have digits (k : Nat) : ∀ c ∈ Nat.toDigits 10 k, isDigit c = true := fun c => isDigit_toDigits
  have point : isDigit '.' = false := rfl
  have whole := congrArg (List.takeWhile isDigit) same
  have decimals := congrArg (List.dropWhile isDigit) same
  rw [(takeWhile_digits (digits _) point).1, (takeWhile_digits (digits _) point).1] at whole
  rw [(takeWhile_digits (digits _) point).2, (takeWhile_digits (digits _) point).2] at decimals
  have quotients := congrArg digitsValue whole
  rw [digitsValue_toDigits, digitsValue_toDigits] at quotients
  have positive : 0 < 10 ^ places := by positivity
  have remainders := numeral_injective (by decide) (by decide) (Nat.mod_lt _ positive) (Nat.mod_lt _ positive) (List.cons.inj decimals).2
  rw [← Nat.div_add_mod n (10 ^ places), ← Nat.div_add_mod n' (10 ^ places), quotients, remainders]

theorem magnitude_head (n : Nat) (rest : List Char) : ∀ tail, Nat.toDigits 10 n ++ rest ≠ '-' :: tail := by
  obtain ⟨c, cs, first⟩ := List.exists_cons_of_ne_nil (Nat.toDigits_ne_nil (b := 10) (n := n))
  have digit : isDigit c = true := isDigit_toDigits (first ▸ List.mem_cons_self)
  intro tail same
  rw [first, List.cons_append] at same
  rw [(List.cons.inj same).1] at digit
  cases digit

theorem placesText_injective (places : Nat) : Function.Injective (placesText places) := by
  intro units units' same
  unfold placesText at same
  split at same <;> split at same
  · have magnitude := magnitude_injective (List.cons.inj same).2
    omega
  · exact absurd same.symm (magnitude_head _ _ _)
  · exact absurd same (magnitude_head _ _ _)
  · have magnitude := magnitude_injective same
    omega

theorem placesText_notMem {c : Char} (hex : ∀ d < 16, c ≠ Nat.digitChar d) (digit : isDigit c = false)
    (other : c ≠ '*' ∧ c ≠ '-' ∧ c ≠ '.') : c ∉ placesText places units := by
  intro member
  simp only [placesText, List.mem_append, List.mem_cons] at member
  rcases member with sign | whole | rfl | decimals
  · split at sign
    · exact other.2.1 (List.mem_singleton.mp sign)
    · cases sign
  · rw [isDigit_toDigits whole] at digit
    cases digit
  · exact other.2.2 rfl
  · exact numeral_notMem hex other.1 decimals

namespace HostDecimal

theorem rounded_units (places : Nat) (d : HostDecimal) : ∃ k : Nat, d.rounded places = d.mantissa.sign * k ∧
    2 * 10 ^ d.scale * k ≤ 2 * d.mantissa.natAbs * 10 ^ places + 10 ^ d.scale ∧
    2 * d.mantissa.natAbs * 10 ^ places + 10 ^ d.scale < 2 * 10 ^ d.scale * k + 2 * 10 ^ d.scale := by
  refine ⟨_, rfl, Nat.mul_div_le _ _, ?_⟩
  have below := Nat.lt_mul_div_succ (2 * d.mantissa.natAbs * 10 ^ places + 10 ^ d.scale) (show 0 < 2 * 10 ^ d.scale by positivity)
  rwa [Nat.mul_add, Nat.mul_one] at below

theorem rounded_eq {k : Nat} (low : 2 * 10 ^ d.scale * k ≤ 2 * d.mantissa.natAbs * 10 ^ places + 10 ^ d.scale)
    (high : 2 * d.mantissa.natAbs * 10 ^ places + 10 ^ d.scale < 2 * 10 ^ d.scale * k + 2 * 10 ^ d.scale) :
    d.rounded places = d.mantissa.sign * k := by
  have quotient : (2 * d.mantissa.natAbs * 10 ^ places + 10 ^ d.scale) / (2 * 10 ^ d.scale) = k := by
    apply Nat.div_eq_of_lt_le
    · linarith
    · linarith
  rw [rounded, quotient]

theorem value_eq_iff : d.value = d'.value ↔ d.mantissa * 10 ^ d'.scale = d'.mantissa * 10 ^ d.scale := by
  rw [value, value, div_eq_div_iff (by positivity) (by positivity)]
  exact_mod_cast Iff.rfl

theorem abs_value_le (places bound : Nat) : |d.value| * 10 ^ places ≤ bound ↔ d.mantissa.natAbs * 10 ^ places ≤ bound * 10 ^ d.scale := by
  have positive : (0 : ℚ) < 10 ^ d.scale := by positivity
  have magnitude : |(d.mantissa : ℚ)| = (d.mantissa.natAbs : ℚ) := by rw [Nat.cast_natAbs, Int.cast_abs]
  rw [value, abs_div, abs_of_pos positive, magnitude, div_mul_eq_mul_div, div_le_iff₀ positive]
  exact_mod_cast Iff.rfl

def lastShared : Nat := 7922816251426433759354395034

def leastUnits (k : Int) : Int := if k = 0 then 1 else 10 * k - 5 * k.sign

theorem leastUnits_neg {k : Int} (negative : k < 0) : leastUnits k = 10 * k + 5 := by
  rw [leastUnits, if_neg negative.ne, Int.sign_eq_neg_one_of_neg negative]
  ring

theorem leastUnits_pos {k : Int} (positive : 0 < k) : leastUnits k = 10 * k - 5 := by
  rw [leastUnits, if_neg positive.ne', Int.sign_eq_one_of_pos positive]
  ring

def least (k : Int) (small : k.natAbs ≤ lastShared) : HostDecimal where
  mantissa := leastUnits k
  scale := 5
  mantissa_lt := by
    unfold lastShared at small
    rcases lt_trichotomy k 0 with negative | rfl | positive
    · rw [leastUnits_neg negative]
      omega
    · decide
    · rw [leastUnits_pos positive]
      omega
  scale_le := by decide

theorem rounded_least {k : Int} (small : k.natAbs ≤ lastShared) : (least k small).rounded 4 = k := by
  have nearest (some : (leastUnits k).natAbs = 10 * k.natAbs - 5) (nonzero : k ≠ 0) :
      (least k small).rounded 4 = (leastUnits k).sign * k.natAbs := by
    apply rounded_eq
    · change 2 * 10 ^ 5 * k.natAbs ≤ 2 * (leastUnits k).natAbs * 10 ^ 4 + 10 ^ 5
      omega
    · change 2 * (leastUnits k).natAbs * 10 ^ 4 + 10 ^ 5 < 2 * 10 ^ 5 * k.natAbs + 2 * 10 ^ 5
      omega
  rcases lt_trichotomy k 0 with negative | rfl | positive
  · have units := leastUnits_neg negative
    rw [nearest (by omega) negative.ne, Int.sign_eq_neg_one_of_neg (by omega)]
    omega
  · have units : (leastUnits 0).natAbs = 1 := rfl
    refine (rounded_eq (k := 0) (Nat.zero_le _) ?_).trans (mul_zero _)
    change 2 * (leastUnits 0).natAbs * 10 ^ 4 + 10 ^ 5 < 2 * 10 ^ 5 * 0 + 2 * 10 ^ 5
    omega
  · have units := leastUnits_pos positive
    rw [nearest (by omega) positive.ne', Int.sign_eq_one_of_pos (by omega)]
    omega

theorem least_value_ne {k : Int} (small : k.natAbs ≤ lastShared) (exact : d.mantissa * 10 ^ 4 = k * 10 ^ d.scale) :
    (least k small).value ≠ d.value := by
  intro same
  rw [value_eq_iff] at same
  have scaled : leastUnits k * 10 ^ d.scale = k * 10 * 10 ^ d.scale := by
    change leastUnits k * 10 ^ d.scale = d.mantissa * 10 ^ 5 at same
    linarith
  have units := mul_right_cancel₀ (by positivity) scaled
  rcases lt_trichotomy k 0 with negative | rfl | positive
  · rw [leastUnits_neg negative] at units
    omega
  · cases units
  · rw [leastUnits_pos positive] at units
    omega

theorem exists_rounded_alike (d : HostDecimal) (within : |d.value| * 10 ^ 4 ≤ lastShared) :
    ∃ other : HostDecimal, other.value ≠ d.value ∧ other.rounded 4 = d.rounded 4 := by
  obtain ⟨k, rounded, low, -⟩ := rounded_units 4 d
  rw [abs_value_le] at within
  have small : k ≤ lastShared := by
    have positive : 0 < 10 ^ d.scale := by positivity
    by_contra above
    have more := Nat.mul_le_mul_left (2 * 10 ^ d.scale) (Nat.lt_of_not_le above)
    linarith
  have sign : (d.mantissa.sign * k).natAbs ≤ k := by
    rcases Int.sign_trichotomy d.mantissa with sign | sign | sign <;> rw [sign] <;> omega
  by_cases exact : d.mantissa * 10 ^ 4 = d.mantissa.sign * k * 10 ^ d.scale
  · exact ⟨least (d.mantissa.sign * k) (sign.trans small), least_value_ne _ exact, by rw [rounded_least, rounded]⟩
  · refine ⟨⟨d.mantissa.sign * k, 4, ?_, by decide⟩, ?_, ?_⟩
    · exact (sign.trans small).trans_lt (by decide)
    · rw [ne_eq, value_eq_iff]
      exact fun same => exact same.symm
    · rw [rounded, rounded_eq (k := (d.mantissa.sign * k).natAbs)]
      · exact Int.sign_mul_natAbs _
      · change 2 * 10 ^ 4 * (d.mantissa.sign * k).natAbs ≤ 2 * (d.mantissa.sign * k).natAbs * 10 ^ 4 + 10 ^ 4
        omega
      · change 2 * (d.mantissa.sign * k).natAbs * 10 ^ 4 + 10 ^ 4 < 2 * 10 ^ 4 * (d.mantissa.sign * k).natAbs + 2 * 10 ^ 4
        omega

theorem scale_cases (scale : Nat) : (∃ t, 0 < t ∧ 10 ^ scale = 10 ^ 5 * t) ∨ ∃ u, 10 ^ 4 = 10 ^ scale * u := by
  rcases Nat.lt_or_ge 4 scale with large | small
  · exact .inl ⟨10 ^ (scale - 5), by positivity, by rw [← pow_add, Nat.add_sub_cancel' large]⟩
  · exact .inr ⟨10 ^ (4 - scale), by rw [← pow_add, Nat.add_sub_cancel' small]⟩

theorem exact_of_rounded (d : HostDecimal) (beyond : lastShared < (d.rounded 4).natAbs) :
    d.mantissa * 10 ^ 4 = d.rounded 4 * 10 ^ d.scale := by
  obtain ⟨k, rounded, low, high⟩ := rounded_units 4 d
  have bound := d.mantissa_lt
  have magnitude : lastShared < k := by
    rw [rounded] at beyond
    rcases Int.sign_trichotomy d.mantissa with sign | sign | sign <;> rw [sign] at beyond <;> omega
  unfold lastShared at magnitude
  rcases scale_cases d.scale with ⟨t, some, scale⟩ | ⟨u, scale⟩
  · rw [scale] at low
    have more := Nat.mul_le_mul_left t magnitude
    nlinarith
  · have positive : 0 < 10 ^ d.scale := by positivity
    rw [scale] at low high
    have least : 2 * k ≤ 2 * (d.mantissa.natAbs * u) + 1 := by
      by_contra above
      have more := Nat.mul_le_mul_left (10 ^ d.scale) (Nat.lt_of_not_le above)
      linarith
    have most : 2 * (d.mantissa.natAbs * u) + 1 < 2 * k + 2 := by
      by_contra above
      have more := Nat.mul_le_mul_left (10 ^ d.scale) (Nat.le_of_not_lt above)
      linarith
    have whole : k = d.mantissa.natAbs * u := by omega
    have wide : (10 : Int) ^ 4 = 10 ^ d.scale * u := by exact_mod_cast scale
    calc d.mantissa * 10 ^ 4 = d.mantissa.sign * d.mantissa.natAbs * (10 ^ d.scale * u) := by rw [Int.sign_mul_natAbs, wide]
      _ = d.rounded 4 * 10 ^ d.scale := by
        rw [rounded, whole]
        push_cast
        ring

theorem rounded_beyond (beyond : lastShared < |d.value| * 10 ^ 4) : lastShared < (d.rounded 4).natAbs := by
  obtain ⟨k, rounded, -, high⟩ := rounded_units 4 d
  have bound := d.mantissa_lt
  have more : lastShared * 10 ^ d.scale < d.mantissa.natAbs * 10 ^ 4 := by
    by_contra within
    exact beyond.not_ge ((abs_value_le 4 lastShared).mpr (Nat.le_of_not_lt within))
  have magnitude : lastShared < k := by
    unfold lastShared at more ⊢
    rcases scale_cases d.scale with ⟨t, some, scale⟩ | ⟨u, scale⟩
    · rw [scale] at more
      nlinarith
    · have positive : 0 < 10 ^ d.scale := by positivity
      rw [scale] at more high
      have least : 7922816251426433759354395034 < d.mantissa.natAbs * u := by
        by_contra above
        have less := Nat.mul_le_mul_left (10 ^ d.scale) (Nat.le_of_not_lt above)
        linarith
      by_contra above
      have less := Nat.mul_le_mul_left (10 ^ d.scale) (show 2 * k + 2 ≤ 2 * (d.mantissa.natAbs * u) + 1 by omega)
      linarith
  have nonzero : d.mantissa ≠ 0 := by
    rintro zero
    simp [zero] at more
  rw [rounded, Int.natAbs_mul, Int.natAbs_sign_of_ne_zero nonzero, one_mul, Int.natAbs_natCast]
  exact magnitude

theorem value_eq_of_rounded (beyond : lastShared < |d.value| * 10 ^ 4) (same : d'.rounded 4 = d.rounded 4) :
    d'.value = d.value := by
  have large := rounded_beyond beyond
  have exact := exact_of_rounded d large
  have exact' := exact_of_rounded d' (same ▸ large)
  rw [same] at exact'
  rw [value_eq_iff]
  have positive : (10 : Int) ^ 4 ≠ 0 := by decide
  apply mul_right_cancel₀ positive
  rw [mul_right_comm, exact', mul_right_comm d.mantissa, exact]
  ring

end HostDecimal

end AgentOps.Lib
