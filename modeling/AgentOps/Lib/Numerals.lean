import Mathlib.Data.List.Basic
import Mathlib.Tactic.IntervalCases

namespace AgentOps.Lib

/-! # Numerals of a fixed width, and dates written with them -/

def numeral (base : Nat) : Nat → Nat → List Char
  | 0, _ => []
  | width + 1, n => numeral base width (n / base) ++ [Nat.digitChar (n % base)]

variable {base width n n' : Nat} {rest rest' : List Char}

theorem digitChar_injective : ∀ d < 16, ∀ d' < 16, Nat.digitChar d = Nat.digitChar d' → d = d' := by
  decide +kernel

@[simp] theorem length_numeral : (numeral base width n).length = width := by
  induction width generalizing n with
  | zero => rfl
  | succ width ih => simp [numeral, ih]

theorem numeral_injective (positive : 0 < base) (small : base ≤ 16) (bound : n < base ^ width) (bound' : n' < base ^ width)
    (same : numeral base width n = numeral base width n') : n = n' := by
  induction width generalizing n n' with
  | zero =>
    rw [pow_zero, Nat.lt_one_iff] at bound bound'
    rw [bound, bound']
  | succ width ih =>
    rw [pow_succ, Nat.mul_comm] at bound bound'
    obtain ⟨front, last⟩ := List.append_inj' same rfl
    have quotients := ih (Nat.div_lt_of_lt_mul bound) (Nat.div_lt_of_lt_mul bound') front
    have remainders := digitChar_injective _ ((Nat.mod_lt n positive).trans_le small) _ ((Nat.mod_lt n' positive).trans_le small)
      (List.singleton_inj.mp last)
    rw [← Nat.div_add_mod n base, ← Nat.div_add_mod n' base, quotients, remainders]

theorem numeral_append_inj (bound : n < 10 ^ width) (bound' : n' < 10 ^ width)
    (same : numeral 10 width n ++ rest = numeral 10 width n' ++ rest') : n = n' ∧ rest = rest' := by
  obtain ⟨numerals, rests⟩ := List.append_inj same (by simp)
  exact ⟨numeral_injective (by decide) (by decide) bound bound' numerals, rests⟩

theorem digitChar_ne {d : Nat} {c : Char} (other : ∀ d < 16, c ≠ Nat.digitChar d) (star : c ≠ '*') : c ≠ Nat.digitChar d := by
  by_cases digit : d < 16
  · exact other d digit
  · rwa [show Nat.digitChar d = '*' by unfold Nat.digitChar; repeat rw [if_neg (by omega)]]

theorem numeral_notMem {c : Char} (other : ∀ d < 16, c ≠ Nat.digitChar d) (star : c ≠ '*') : c ∉ numeral base width n := by
  induction width generalizing n with
  | zero => simp [numeral]
  | succ width ih => simp [numeral, ih, digitChar_ne other star]

structure CivilDate where
  year : Nat
  month : Nat
  day : Nat
  deriving DecidableEq

theorem CivilDate.eq_of_parts {date date' : CivilDate} (year : date.year = date'.year) (month : date.month = date'.month)
    (day : date.day = date'.day) : date = date' := by
  cases date
  cases date'
  cases year
  cases month
  cases day
  rfl

def isLeapYear (year : Nat) : Bool := year % 4 = 0 && (year % 100 ≠ 0 || year % 400 = 0)

def daysToMonth (leap : Bool) (month : Nat) : Nat :=
  [0, 0, 31, 59, 90, 120, 151, 181, 212, 243, 273, 304, 334, 365].getD month 0 + if leap ∧ 2 < month then 1 else 0

def monthBegun (leap : Bool) (dayOfYear : Nat) : Nat → Nat
  | 0 => 1
  | month + 1 => if daysToMonth leap (month + 1) ≤ dayOfYear then month + 1 else monthBegun leap dayOfYear month

def civilDate (days : Nat) : CivilDate :=
  let century := min 3 (days % 146097 / 36524)
  let ofCentury := days % 146097 - century * 36524
  let yearOfFour := min 3 (ofCentury % 1461 / 365)
  let dayOfYear := ofCentury % 1461 - yearOfFour * 365
  let year := days / 146097 * 400 + century * 100 + ofCentury / 1461 * 4 + yearOfFour + 1
  let month := monthBegun (isLeapYear year) dayOfYear 12
  ⟨year, month, dayOfYear - daysToMonth (isLeapYear year) month + 1⟩

namespace CivilDate

def daysBeforeYear (year : Nat) : Nat := (year - 1) * 365 + (year - 1) / 4 - (year - 1) / 100 + (year - 1) / 400

def days (date : CivilDate) : Nat :=
  daysBeforeYear date.year + daysToMonth (isLeapYear date.year) date.month + date.day - 1

end CivilDate

theorem monthBegun_le (leap : Bool) (dayOfYear month : Nat) : daysToMonth leap (monthBegun leap dayOfYear month) ≤ dayOfYear := by
  induction month with
  | zero => simp [monthBegun, daysToMonth]
  | succ month ih =>
    rw [monthBegun]
    split
    · assumption
    · exact ih

theorem monthBegun_lt (leap : Bool) (dayOfYear month : Nat) (before : dayOfYear < daysToMonth leap (month + 1)) :
    dayOfYear < daysToMonth leap (monthBegun leap dayOfYear month + 1) := by
  induction month with
  | zero => exact before.trans_le (by simp [monthBegun, daysToMonth])
  | succ month ih =>
    rw [monthBegun]
    split
    · exact before
    · rename_i unbegun
      exact ih (Nat.lt_of_not_le unbegun)

theorem monthBegun_le_max (leap : Bool) (dayOfYear month : Nat) (some : 0 < month) : monthBegun leap dayOfYear month ≤ month := by
  induction month with
  | zero => cases some
  | succ month ih =>
    rw [monthBegun]
    split
    · exact le_rfl
    · cases month with
      | zero => exact le_rfl
      | succ month => exact (ih (Nat.succ_pos month)).trans (Nat.le_succ _)

theorem daysToMonth_succ_le : ∀ leap, ∀ month < 13, daysToMonth leap (month + 1) ≤ daysToMonth leap month + 31 := by decide

structure YearDay (days year dayOfYear : Nat) : Prop where
  days : days = CivilDate.daysBeforeYear year + dayOfYear
  within : dayOfYear < 365 + if isLeapYear year then 1 else 0

theorem yearDay_parts (a c q y d : Nat) (century : c ≤ 3) (fours : q ≤ 24) (ofFour : y ≤ 3)
    (within : d < 365 ∨ d = 365 ∧ y = 3 ∧ (q = 24 → c = 3)) :
    YearDay (146097 * a + 36524 * c + 1461 * q + 365 * y + d) (a * 400 + c * 100 + q * 4 + y + 1) d where
  days := by
    unfold CivilDate.daysBeforeYear
    omega
  within := by
    rcases within with short | ⟨rfl, rfl, last⟩
    · exact short.trans_le (Nat.le_add_right _ _)
    · have leap : isLeapYear (a * 400 + c * 100 + q * 4 + 3 + 1) = true := by
        simp only [isLeapYear, Bool.and_eq_true, Bool.or_eq_true, decide_eq_true_eq]
        omega
      simp [leap]

theorem civilDate_yearDay (n : Nat) : ∃ dayOfYear, YearDay n (civilDate n).year dayOfYear ∧
    (civilDate n).month = monthBegun (isLeapYear (civilDate n).year) dayOfYear 12 ∧
    (civilDate n).day = dayOfYear - daysToMonth (isLeapYear (civilDate n).year) (civilDate n).month + 1 := by
  refine ⟨_, ?_, rfl, rfl⟩
  obtain ⟨century, isCentury⟩ : ∃ c, min 3 (n % 146097 / 36524) = c := ⟨_, rfl⟩
  obtain ⟨ofCentury, isOfCentury⟩ : ∃ s, n % 146097 - century * 36524 = s := ⟨_, rfl⟩
  obtain ⟨yearOfFour, isYearOfFour⟩ : ∃ y, min 3 (ofCentury % 1461 / 365) = y := ⟨_, rfl⟩
  have parts := yearDay_parts (n / 146097) century (ofCentury / 1461) yearOfFour (ofCentury % 1461 - yearOfFour * 365)
    (by omega) (by omega) (by omega) (by omega)
  have total : 146097 * (n / 146097) + 36524 * century + 1461 * (ofCentury / 1461) + 365 * yearOfFour +
      (ofCentury % 1461 - yearOfFour * 365) = n := by omega
  rw [total] at parts
  subst isYearOfFour isOfCentury isCentury
  exact parts

theorem days_civilDate (n : Nat) : (civilDate n).days = n := by
  obtain ⟨dayOfYear, parts, month, day⟩ := civilDate_yearDay n
  have begun := monthBegun_le (isLeapYear (civilDate n).year) dayOfYear 12
  rw [← month] at begun
  have total := parts.days
  rw [CivilDate.days, day]
  omega

theorem civilDate_injective : Function.Injective civilDate := by
  intro n n' same
  rw [← days_civilDate n, same, days_civilDate]

theorem civilDate_bounds (before : n < 3652059) : (civilDate n).year < 10 ^ 4 ∧ (civilDate n).month < 10 ^ 2 ∧
    (civilDate n).day < 10 ^ 2 := by
  obtain ⟨dayOfYear, parts, month, day⟩ := civilDate_yearDay n
  have last : dayOfYear < daysToMonth (isLeapYear (civilDate n).year) 13 := by
    refine parts.within.trans_le ?_
    cases isLeapYear (civilDate n).year <;> decide
  have late := monthBegun_lt _ _ 12 last
  have twelve := monthBegun_le_max (isLeapYear (civilDate n).year) dayOfYear 12 (by decide)
  rw [← month] at late twelve
  have monthly := daysToMonth_succ_le (isLeapYear (civilDate n).year) (civilDate n).month (by omega)
  refine ⟨?_, by omega, by omega⟩
  have total := parts.days
  unfold CivilDate.daysBeforeYear at total
  omega

end AgentOps.Lib
