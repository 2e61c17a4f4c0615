import AgentOps.Lib.JsNumber
import Mathlib.Data.Int.Log
import Mathlib.Data.Rat.Floor
import Mathlib.Tactic.FieldSimp
import Mathlib.Tactic.IntervalCases
import Mathlib.Tactic.Positivity

namespace AgentOps.Lib

/-! # Finite doubles, and the texts that name them -/

/-- A finite number of the host language. The two zeros are one. -/
structure Double where
  value : ℚ
  exact : toDouble? value = some value

instance : DecidableEq Double := fun x y =>
  decidable_of_iff (x.value = y.value) ⟨fun same => by cases x; cases y; simp_all, fun same => by rw [same]⟩

namespace Double

@[ext] theorem ext {x y : Double} (same : x.value = y.value) : x = y := by
  cases x
  cases y
  congr

def ofRat? (q : ℚ) : Option Double :=
  (toDouble? q).bind fun value => if exact : toDouble? value = some value then some ⟨value, exact⟩ else none

theorem ofRat?_eq {q : ℚ} {x : Double} (reads : toDouble? q = some x.value) : ofRat? q = some x := by
  rw [ofRat?, reads, Option.bind_some, dif_pos x.exact]

def scale (x : ℚ) : ℤ := Int.log 10 x + 1

/-- The closer of the two decimals around `x` with `count` digits among those that denote `x`; the even one of two that are as
close -/
def candidate (x : ℚ) (count : Nat) : Option Nat :=
  let unit : ℚ := 10 ^ (scale x - count)
  let low := ⌊x / unit⌋₊
  let lowDenotes : Bool := toDouble? (low * unit) = some x
  let highDenotes : Bool := toDouble? ((low + 1 : Nat) * unit) = some x
  if lowDenotes && highDenotes then
    let below := x - low * unit
    let above := (low + 1) * unit - x
    if below < above ∨ (below = above ∧ low % 2 = 0) then some low else some (low + 1)
  else if lowDenotes then some low
  else if highDenotes then some (low + 1)
  else none

theorem candidate_denotes {x : ℚ} {count s : Nat} (chosen : candidate x count = some s) :
    toDouble? (s * 10 ^ (scale x - count)) = some x := by
  simp only [candidate, Bool.and_eq_true, decide_eq_true_eq] at chosen
  split at chosen
  · rename_i both
    split at chosen <;> obtain rfl := Option.some.inj chosen
    · exact both.1
    · exact both.2
  · split at chosen
    · rename_i low
      obtain rfl := Option.some.inj chosen
      exact low
    · split at chosen
      · rename_i high
        obtain rfl := Option.some.inj chosen
        exact high
      · cases chosen

theorem ten_zpow_pos (e : ℤ) : (0 : ℚ) < 10 ^ e := zpow_pos (by norm_num) e

theorem candidate_large {x : ℚ} {count s : Nat} (positive : 0 < x) (chosen : candidate x (count + 1) = some s) :
    10 ^ count ≤ s := by
  have low : 10 ^ count ≤ ⌊x / (10 : ℚ) ^ (scale x - ((count + 1 : Nat) : ℤ))⌋₊ := by
    rw [Nat.le_floor_iff (div_nonneg positive.le (ten_zpow_pos _).le), le_div_iff₀ (ten_zpow_pos _)]
    calc ((10 ^ count : Nat) : ℚ) * 10 ^ (scale x - ((count + 1 : Nat) : ℤ)) = 10 ^ Int.log 10 x := by
          rw [Nat.cast_pow, Nat.cast_ofNat, ← zpow_natCast, ← zpow_add₀ (by norm_num), scale]
          congr 1
          omega
      _ ≤ x := by exact_mod_cast Int.zpow_log_le_self (b := 10) (by norm_num) positive
  simp only [candidate, Bool.and_eq_true, decide_eq_true_eq] at chosen
  split_ifs at chosen <;> obtain rfl := Option.some.inj chosen <;> omega

theorem candidate_pos {x : ℚ} {count s : Nat} (positive : 0 < x) (chosen : candidate x (count + 1) = some s) : 0 < s :=
  lt_of_lt_of_le (by positivity) (candidate_large positive chosen)

def Terminates (q : ℚ) : Prop := ∃ j : Nat, ∃ z : ℤ, q * 10 ^ j = z

theorem Terminates.natCast_mul_two_zpow (n : Nat) (e : ℤ) : Terminates ((n : ℚ) * 2 ^ e) := by
  rcases le_total 0 e with whole | fraction
  · refine ⟨0, n * 2 ^ e.toNat, ?_⟩
    have exponent : (2 : ℚ) ^ e = 2 ^ e.toNat := by
      rw [← zpow_natCast, Int.toNat_of_nonneg whole]
    rw [exponent]
    push_cast
    ring
  · refine ⟨(-e).toNat, n * 5 ^ (-e).toNat, ?_⟩
    have exponent : (2 : ℚ) ^ e = (2 ^ (-e).toNat)⁻¹ := by
      rw [← zpow_natCast, Int.toNat_of_nonneg (by omega), zpow_neg, inv_inv]
    have ten : (10 : ℚ) ^ (-e).toNat = 2 ^ (-e).toNat * 5 ^ (-e).toNat := by
      rw [← mul_pow]
      norm_num
    rw [exponent, ten]
    push_cast
    field_simp

theorem Terminates.neg {q : ℚ} (terminates : Terminates q) : Terminates (-q) := by
  obtain ⟨j, z, whole⟩ := terminates
  exact ⟨j, -z, by rw [neg_mul, whole, Int.cast_neg]⟩

theorem nearestDouble?_terminates {n d : Nat} {v : ℚ} (nearest : nearestDouble? n d = some v) : Terminates v := by
  simp only [nearestDouble?, Option.ite_none_right_eq_some, Option.some.injEq] at nearest
  rw [← nearest.2]
  exact Terminates.natCast_mul_two_zpow _ _

theorem toDouble?_terminates {q v : ℚ} (double : toDouble? q = some v) : Terminates v := by
  unfold toDouble? at double
  split at double
  · obtain ⟨v', nearest, rfl⟩ := Option.map_eq_some_iff.mp double
    exact (nearestDouble?_terminates nearest).neg
  · exact nearestDouble?_terminates double

theorem exists_candidate {x : ℚ} (positive : 0 < x) (exact : toDouble? x = some x) :
    ∃ count, (candidate x (count + 1)).isSome = true := by
  obtain ⟨j, z, whole⟩ := toDouble?_terminates exact
  refine ⟨(scale x + j).toNat, ?_⟩
  set count := (scale x + j).toNat
  obtain ⟨m, power⟩ : ∃ m : Nat, (10 : ℚ) ^ (scale x - ((count + 1 : Nat) : ℤ)) * 10 ^ (j + m) = 1 := by
    refine ⟨(((count + 1 : Nat) : ℤ) - scale x - j).toNat, ?_⟩
    rw [← zpow_natCast, ← zpow_add₀ (by norm_num)]
    have exponent : scale x - ((count + 1 : Nat) : ℤ) + ((j + (((count + 1 : Nat) : ℤ) - scale x - j).toNat : Nat) : ℤ) = 0 := by
      omega
    rw [exponent, zpow_zero]
  set unit : ℚ := 10 ^ (scale x - ((count + 1 : Nat) : ℤ)) with unit_eq
  have unit_pos : 0 < unit := ten_zpow_pos _
  have quotient : x / unit = ((z * 10 ^ m : ℤ) : ℚ) := by
    rw [div_eq_iff unit_pos.ne']
    push_cast
    rw [← whole]
    calc x = x * (unit * 10 ^ (j + m)) := by rw [power, mul_one]
      _ = x * 10 ^ j * 10 ^ m * unit := by ring
  have nonneg : 0 ≤ z * 10 ^ m := by
    have : (0 : ℚ) ≤ ((z * 10 ^ m : ℤ) : ℚ) := by
      rw [← quotient]
      exact (div_pos positive unit_pos).le
    exact_mod_cast this
  have low : ((⌊x / unit⌋₊ : Nat) : ℚ) * unit = x := by
    obtain ⟨n, natural⟩ := Int.eq_ofNat_of_zero_le nonneg
    rw [quotient, natural, Int.cast_natCast, Nat.floor_natCast, ← Int.cast_natCast, ← natural, ← quotient]
    exact div_mul_cancel₀ x unit_pos.ne'
  unfold candidate
  simp only [← unit_eq, low, exact, decide_true, Bool.true_and]
  split_ifs <;> rfl

end Double

structure Decimal where
  digits : List Char
  point : ℤ
  deriving DecidableEq

namespace Decimal

def value (d : Decimal) : ℚ := (digitsValue d.digits : ℚ) * 10 ^ (d.point - d.digits.length)

structure Normal (d : Decimal) : Prop where
  digit : ∀ c ∈ d.digits, isDigit c = true
  nonempty : d.digits ≠ []
  head : d.digits.head? ≠ some '0'

end Decimal

theorem digitsValue_zeros {digits : List Char} {zeros : Nat} :
    digitsValue (digits ++ List.replicate zeros '0') = digitsValue digits * 10 ^ zeros := by
  change Nat.ofDigitChars 10 _ 0 = Nat.ofDigitChars 10 _ 0 * _
  rw [Nat.ofDigitChars_append, Nat.ofDigitChars_replicate_zero, Nat.mul_comm]

theorem digitsValue_zeros_append {digits : List Char} {zeros : Nat} :
    digitsValue (List.replicate zeros '0' ++ digits) = digitsValue digits := by
  change Nat.ofDigitChars 10 _ 0 = Nat.ofDigitChars 10 _ 0
  rw [Nat.ofDigitChars_append, Nat.ofDigitChars_replicate_zero, Nat.mul_zero]

theorem toDigits_head {n : Nat} (positive : 0 < n) : (Nat.toDigits 10 n).head? ≠ some '0' := by
  induction n using Nat.strong_induction_on with
  | _ n ih =>
    by_cases small : n < 10
    · rw [Nat.toDigits_of_lt_base small]
      interval_cases n <;> decide
    · have rest := ih (n / 10) (by omega) (by omega)
      rw [Nat.toDigits_of_base_le (by decide) (by omega)]
      cases front : Nat.toDigits 10 (n / 10) with
      | nil => exact absurd front Nat.toDigits_ne_nil
      | cons c cs => simpa [front] using rest

namespace Double

/-- The fewest digits that denote `x`, the closest to it of those -/
def shortest (x : ℚ) (positive : 0 < x) (exact : toDouble? x = some x) : Decimal :=
  let count := Nat.find (exists_candidate positive exact) + 1
  let digits := Nat.toDigits 10 ((candidate x count).get (Nat.find_spec (exists_candidate positive exact)))
  ⟨digits.rdropWhile (· = '0'), digits.length + (scale x - count)⟩

section

variable {x : ℚ} {positive : 0 < x} {exact : toDouble? x = some x}

theorem shortest_eq : ∃ (s : Nat) (e : ℤ), 0 < s ∧ toDouble? (s * 10 ^ e) = some x ∧
    shortest x positive exact = ⟨(Nat.toDigits 10 s).rdropWhile (· = '0'), (Nat.toDigits 10 s).length + e⟩ := by
  have chosen := (Option.some_get (Nat.find_spec (exists_candidate positive exact))).symm
  exact ⟨_, _, candidate_pos positive chosen, candidate_denotes chosen, rfl⟩

theorem shortest_point : scale x ≤ (shortest x positive exact).point := by
  have large := candidate_large positive (Option.some_get (Nat.find_spec (exists_candidate positive exact))).symm
  simp only [shortest]
  generalize (candidate x (Nat.find (exists_candidate positive exact) + 1)).get _ = s at large
  generalize Nat.find (exists_candidate positive exact) = count at large
  have digits : count < (Nat.toDigits 10 s).length := by
    rcases Nat.eq_zero_or_pos count with rfl | several
    · exact Nat.length_toDigits_pos
    · by_contra few
      exact absurd ((Nat.length_toDigits_le_iff (by decide) several).mp (not_lt.mp few)) large.not_gt
  push_cast
  omega

theorem shortest_normal : (shortest x positive exact).Normal := by
  obtain ⟨s, e, nonzero, -, same⟩ := @shortest_eq x positive exact
  rw [same]
  have head := toDigits_head nonzero
  have again := rdropWhile_append_replicate (Nat.toDigits 10 s) '0'
  have first : (Nat.toDigits 10 s).rdropWhile (· = '0') ≠ [] := by
    intro none
    rw [none, List.nil_append] at again
    rw [← again] at head
    cases length : (Nat.toDigits 10 s).length with
    | zero => exact Nat.toDigits_ne_nil (List.length_eq_zero_iff.mp length)
    | succ n => simp [length, List.replicate_succ] at head
  refine ⟨fun c member => ?_, first, ?_⟩
  · exact isDigit_toDigits ((List.rdropWhile_prefix _ _).subset member)
  · intro zero
    apply head
    rw [← again]
    cases front : (Nat.toDigits 10 s).rdropWhile (· = '0') with
    | nil => exact absurd front first
    | cons c cs =>
      rw [front] at zero
      simpa using zero

theorem shortest_value : 0 < (shortest x positive exact).value ∧ toDouble? (shortest x positive exact).value = some x := by
  obtain ⟨s, e, nonzero, denotes, same⟩ := @shortest_eq x positive exact
  have shorter : ((Nat.toDigits 10 s).rdropWhile (· = '0')).length ≤ (Nat.toDigits 10 s).length :=
    (List.rdropWhile_prefix _ _).length_le
  have digits : s = digitsValue ((Nat.toDigits 10 s).rdropWhile (· = '0')) *
      10 ^ ((Nat.toDigits 10 s).length - ((Nat.toDigits 10 s).rdropWhile (· = '0')).length) := by
    rw [← digitsValue_zeros, rdropWhile_append_replicate, digitsValue_toDigits]
  have value : (shortest x positive exact).value = s * 10 ^ e := by
    rw [same, Decimal.value]
    conv_rhs => rw [digits]
    push_cast
    rw [mul_assoc]
    congr 1
    rw [← zpow_natCast, ← zpow_add₀ (by norm_num)]
    congr 1
    omega
  rw [value]
  exact ⟨mul_pos (Nat.cast_pos.mpr nonzero) (ten_zpow_pos e), denotes⟩

end

end Double

structure NumberForm where
  negative : Bool
  whole : List Char
  fraction : List Char
  exponent : Option ℤ
  deriving DecidableEq

def exponentText : ℤ → List Char
  | .ofNat n => '+' :: Nat.toDigits 10 n
  | .negSucc n => '-' :: Nat.toDigits 10 (n + 1)

namespace NumberForm

def fractionText : List Char → List Char
  | [] => []
  | c :: cs => '.' :: c :: cs

def exponentPart : Option ℤ → List Char
  | none => []
  | some e => 'e' :: exponentText e

def magnitudeText (form : NumberForm) : List Char :=
  form.whole ++ (fractionText form.fraction ++ exponentPart form.exponent)

def text (form : NumberForm) : List Char := if form.negative then '-' :: form.magnitudeText else form.magnitudeText

def magnitude (form : NumberForm) : ℚ :=
  (digitsValue (form.whole ++ form.fraction) : ℚ) * 10 ^ (form.exponent.getD 0 - form.fraction.length)

structure Valid (form : NumberForm) : Prop where
  whole : ∀ c ∈ form.whole, isDigit c = true
  fraction : ∀ c ∈ form.fraction, isDigit c = true
  nonempty : form.whole ≠ []
  head : form.whole = ['0'] ∨ form.whole.head? ≠ some '0'

end NumberForm

/-- `Number::toString` of a positive number, from its shortest decimal -/
def Decimal.form (negative : Bool) (d : Decimal) : NumberForm :=
  if d.digits.length ≤ d.point ∧ d.point ≤ 21 then
    ⟨negative, d.digits ++ List.replicate (d.point.toNat - d.digits.length) '0', [], none⟩
  else if 0 < d.point ∧ d.point ≤ 21 then ⟨negative, d.digits.take d.point.toNat, d.digits.drop d.point.toNat, none⟩
  else if -6 < d.point ∧ d.point ≤ 0 then ⟨negative, ['0'], List.replicate (-d.point).toNat '0' ++ d.digits, none⟩
  else ⟨negative, d.digits.take 1, d.digits.drop 1, some (d.point - 1)⟩

namespace Decimal

variable {d : Decimal} {negative : Bool}

theorem form_negative : (d.form negative).negative = negative := by
  unfold form
  split_ifs <;> rfl

theorem form_valid (normal : d.Normal) : (d.form negative).Valid := by
  obtain ⟨digit, nonempty, head⟩ := normal
  have zeros (n : Nat) : ∀ c ∈ List.replicate n '0', isDigit c = true := by
    intro c member
    rw [List.eq_of_mem_replicate member]
    rfl
  have taken (n : Nat) (positive : 0 < n) : d.digits.take n ≠ [] ∧ (d.digits.take n).head? ≠ some '0' := by
    cases digits : d.digits with
    | nil => exact absurd digits nonempty
    | cons c cs =>
      obtain ⟨m, rfl⟩ := Nat.exists_eq_add_one.mpr positive
      rw [digits] at head
      simpa using head
  unfold form
  split_ifs with first second third
  · refine ⟨fun c member => ?_, by simp, by simp [nonempty], .inr ?_⟩
    · exact (List.mem_append.mp member).elim (digit c) (zeros _ c)
    · cases digits : d.digits with
      | nil => exact absurd digits nonempty
      | cons c cs => simpa [digits] using head
  · have some := taken d.point.toNat (by omega)
    exact ⟨fun c member => digit c (List.mem_of_mem_take member), fun c member => digit c (List.mem_of_mem_drop member),
      some.1, .inr some.2⟩
  · refine ⟨zeros 1, fun c member => ?_, List.cons_ne_nil _ _, .inl rfl⟩
    exact (List.mem_append.mp member).elim (zeros _ c) (digit c)
  · have some := taken 1 (by decide)
    exact ⟨fun c member => digit c (List.mem_of_mem_take member), fun c member => digit c (List.mem_of_mem_drop member),
      some.1, .inr some.2⟩

theorem form_magnitude (normal : d.Normal) : (d.form negative).magnitude = d.value := by
  have nonempty : 0 < d.digits.length := List.length_pos_iff.mpr normal.nonempty
  unfold form
  split_ifs with first second third
  · simp only [NumberForm.magnitude, List.append_nil, digitsValue_zeros, value, Option.getD_none, List.length_nil]
    push_cast
    rw [mul_one, ← zpow_natCast]
    congr 2
    omega
  · simp only [NumberForm.magnitude, List.take_append_drop, value, Option.getD_none, List.length_drop]
    congr 2
    omega
  · have front : ['0'] ++ (List.replicate (-d.point).toNat '0' ++ d.digits) =
        List.replicate ((-d.point).toNat + 1) '0' ++ d.digits := by
      rw [List.replicate_succ]
      rfl
    simp only [NumberForm.magnitude, front, digitsValue_zeros_append, value, Option.getD_none, List.length_append,
      List.length_replicate]
    congr 2
    omega
  · simp only [NumberForm.magnitude, List.take_append_drop, value, Option.getD_some, List.length_drop]
    congr 2
    omega

end Decimal

def isNumberChar (c : Char) : Bool := isDigit c || c = '-' || c = '+' || c = '.' || c = 'e' || c = 'E'

def wholeOk (whole : List Char) : Bool := !whole.isEmpty && (whole = ['0'] || whole.head? ≠ some '0')

def exponentOk : List Char → Bool
  | [] => true
  | c :: cs => (c = 'e' || c = 'E') && (exponentOf? cs).isSome

def magnitudeOk (cs : List Char) : Bool :=
  let (whole, afterWhole) := cs.span isDigit
  wholeOk whole &&
    match afterWhole with
    | '.' :: afterPoint =>
      let (fraction, rest) := afterPoint.span isDigit
      !fraction.isEmpty && exponentOk rest
    | rest => exponentOk rest

def jsonNumber? : List Char → Option ℚ
  | '-' :: cs => if magnitudeOk cs then (decimalOf? cs).map Neg.neg else none
  | cs => if magnitudeOk cs then decimalOf? cs else none

theorem exponentOf?_text (e : ℤ) : exponentOf? (exponentText e) = some e := by
  cases e with
  | ofNat n => simp [exponentText, exponentOf?, digits?_toDigits]
  | negSucc n =>
    simp only [exponentText, exponentOf?, digits?_toDigits, Option.map_some, Option.some.injEq]
    rfl

theorem span_digits {digits rest : List Char} (all : ∀ c ∈ digits, isDigit c = true)
    (stops : ∀ c ∈ rest.head?, isDigit c = false) : (digits ++ rest).span isDigit = (digits, rest) := by
  rw [List.span_eq_takeWhile_dropWhile, List.takeWhile_append_of_pos all, List.dropWhile_append_of_pos all]
  cases rest with
  | nil => simp
  | cons c cs =>
    have stop : isDigit c = false := stops c (by simp)
    simp [stop]

namespace NumberForm

variable {form : NumberForm}

theorem exponentPart_head (exponent : Option ℤ) : ∀ c ∈ (exponentPart exponent).head?, c = 'e' := by
  cases exponent <;> simp [exponentPart]

theorem exponentOk_part (exponent : Option ℤ) : exponentOk (exponentPart exponent) = true := by
  cases exponent with
  | none => rfl
  | some e => simp [exponentPart, exponentOk, exponentOf?_text]

theorem exponentPart_stops (exponent : Option ℤ) : ∀ c ∈ (exponentPart exponent).head?, isDigit c = false := by
  intro c member
  rw [exponentPart_head exponent c member]
  rfl

theorem rest_stops (fraction : List Char) (exponent : Option ℤ) :
    ∀ c ∈ (fractionText fraction ++ exponentPart exponent).head?, isDigit c = false := by
  cases fraction with
  | nil => exact exponentPart_stops exponent
  | cons c cs => simp [fractionText, isDigit]

theorem magnitudeOk_text (valid : form.Valid) : magnitudeOk form.magnitudeText = true := by
  have whole : wholeOk form.whole = true := by
    have nonempty := valid.nonempty
    rcases valid.head with zero | head
    · simp [wholeOk, zero]
    · simp [wholeOk, nonempty, head]
  rw [magnitudeOk, magnitudeText, span_digits valid.whole (rest_stops _ _)]
  simp only [whole, Bool.true_and]
  cases fraction : form.fraction with
  | nil =>
    simp only [fractionText, List.nil_append]
    cases exponent : form.exponent with
    | none => rfl
    | some e => exact exponentOk_part (some e)
  | cons c cs =>
    have digits := valid.fraction
    rw [fraction] at digits
    simp only [fractionText, List.cons_append]
    rw [← List.cons_append, span_digits digits (exponentPart_stops _)]
    simpa using exponentOk_part form.exponent

theorem decimalOf?_text (valid : form.Valid) : decimalOf? form.magnitudeText = some form.magnitude := by
  have nonempty : form.whole.isEmpty = false := by simpa using valid.nonempty
  rw [decimalOf?, magnitudeText, span_digits valid.whole (rest_stops _ _)]
  cases fraction : form.fraction with
  | nil =>
    cases exponent : form.exponent with
    | none => simp [fractionText, exponentPart, nonempty, magnitude, fraction, exponent]
    | some e => simp [fractionText, exponentPart, nonempty, magnitude, fraction, exponent, exponentOf?_text]
  | cons c cs =>
    have digits := valid.fraction
    rw [fraction] at digits
    simp only [fractionText, List.cons_append]
    rw [← List.cons_append, span_digits digits (exponentPart_stops _)]
    cases exponent : form.exponent with
    | none => simp [exponentPart, nonempty, magnitude, fraction, exponent]
    | some e => simp [exponentPart, nonempty, magnitude, fraction, exponent, exponentOf?_text]

theorem jsonNumber?_text (valid : form.Valid) :
    jsonNumber? form.text = some (if form.negative then -form.magnitude else form.magnitude) := by
  have plain : ∀ cs, form.magnitudeText ≠ '-' :: cs := by
    intro cs same
    rw [magnitudeText] at same
    cases whole : form.whole with
    | nil => exact absurd whole valid.nonempty
    | cons c rest =>
      rw [whole, List.cons_append, List.cons.injEq] at same
      have digit := valid.whole c (by simp [whole])
      rw [same.1] at digit
      cases digit
  cases sign : form.negative with
  | true => simp [text, sign, jsonNumber?, magnitudeOk_text valid, decimalOf?_text valid]
  | false =>
    simp only [text, sign, Bool.false_eq_true, if_false]
    unfold jsonNumber?
    split
    · rename_i cs same
      exact absurd same (plain cs)
    · rw [if_pos (magnitudeOk_text valid), decimalOf?_text valid]

theorem isNumberChar_text (valid : form.Valid) : ∀ c ∈ form.text, isNumberChar c = true := by
  have digit {c : Char} (known : isDigit c = true) : isNumberChar c = true := by simp [isNumberChar, known]
  have exponents : ∀ e : ℤ, ∀ c ∈ exponentText e, isNumberChar c = true := by
    intro e c member
    cases e with
    | ofNat n =>
      rcases List.mem_cons.mp member with rfl | member
      · rfl
      · exact digit (isDigit_toDigits member)
    | negSucc n =>
      rcases List.mem_cons.mp member with rfl | member
      · rfl
      · exact digit (isDigit_toDigits member)
  have magnitudes : ∀ c ∈ form.magnitudeText, isNumberChar c = true := by
    intro c member
    rw [magnitudeText, List.mem_append, List.mem_append] at member
    rcases member with member | member | member
    · exact digit (valid.whole c member)
    · have digits := valid.fraction
      cases fraction : form.fraction with
      | nil => simp [fraction, fractionText] at member
      | cons d ds =>
        rw [fraction] at digits member
        rcases List.mem_cons.mp member with rfl | member
        · rfl
        · exact digit (digits c member)
    · cases exponent : form.exponent with
      | none => simp [exponent, exponentPart] at member
      | some e =>
        rw [exponent] at member
        rcases List.mem_cons.mp member with rfl | member
        · rfl
        · exact exponents e c member
  intro c member
  unfold text at member
  split at member
  · rcases List.mem_cons.mp member with rfl | member
    · rfl
    · exact magnitudes c member
  · exact magnitudes c member

end NumberForm

theorem toDouble?_neg {q : ℚ} (positive : 0 < q) : toDouble? (-q) = (toDouble? q).map Neg.neg := by
  rw [toDouble?, toDouble?, if_pos (by linarith), if_neg (by linarith), Rat.num_neg_eq_neg_num, Int.natAbs_neg, Rat.den_neg_eq_den]

namespace Double

theorem exact_neg {q : ℚ} (negative : q < 0) (exact : toDouble? q = some q) : toDouble? (-q) = some (-q) := by
  have mirrored := toDouble?_neg (Left.neg_pos_iff.mpr negative)
  rw [neg_neg, exact] at mirrored
  obtain ⟨v, reads, same⟩ := Option.map_eq_some_iff.mp mirrored.symm
  rw [reads, ← same, neg_neg]

/-- `Number::toString`, by parts -/
def form (x : Double) : NumberForm :=
  if positive : 0 < x.value then (shortest x.value positive x.exact).form false
  else if negative : x.value < 0 then
    (shortest (-x.value) (Left.neg_pos_iff.mpr negative) (exact_neg negative x.exact)).form true
  else ⟨false, ['0'], [], none⟩

/-- `String(x)` -/
def text (x : Double) : List Char := x.form.text

variable {x : Double}

theorem form_valid : x.form.Valid := by
  unfold form
  split_ifs
  · exact Decimal.form_valid shortest_normal
  · exact Decimal.form_valid shortest_normal
  · exact ⟨List.forall_mem_singleton.mpr rfl, List.forall_mem_nil _, List.cons_ne_nil _ _, .inl rfl⟩

theorem text_denotes : (jsonNumber? x.text).bind ofRat? = some x := by
  rw [text, NumberForm.jsonNumber?_text form_valid, Option.bind_some]
  apply ofRat?_eq
  rcases lt_trichotomy x.value 0 with negative | zero | positive
  · have value := @shortest_value _ (Left.neg_pos_iff.mpr negative) (exact_neg negative x.exact)
    simp only [form, dif_neg negative.not_gt, dif_pos negative, Decimal.form_negative, Decimal.form_magnitude shortest_normal,
      if_true, toDouble?_neg value.1, value.2, Option.map_some, neg_neg]
  · simp only [form, zero, lt_irrefl, dite_false]
    decide +kernel
  · simp only [form, dif_pos positive, Decimal.form_negative, Decimal.form_magnitude shortest_normal, Bool.false_eq_true,
      if_false, shortest_value]

theorem isNumberChar_text : ∀ c ∈ x.text, isNumberChar c = true := NumberForm.isNumberChar_text form_valid

theorem text_exponent (large : 10 ^ 21 ≤ |x.value|) : 'e' ∈ x.text := by
  have bound : (10 : ℚ) ^ (21 : ℤ) ≤ |x.value| := by exact_mod_cast large
  have scientific {y : ℚ} {positive : 0 < y} {exact : toDouble? y = some y} {negative : Bool} (bound : (10 : ℚ) ^ (21 : ℤ) ≤ y) :
      'e' ∈ ((shortest y positive exact).form negative).text := by
    have digits : 21 ≤ Int.log 10 y := (Int.zpow_le_iff_le_log (by norm_num) positive).mp (by exact_mod_cast bound)
    have point := @shortest_point y positive exact
    unfold scale at point
    have far : ¬(shortest y positive exact).point ≤ 21 := by omega
    have fraction : ¬(shortest y positive exact).point ≤ 0 := by omega
    simp only [Decimal.form, far, fraction, and_false, if_false, NumberForm.text, NumberForm.magnitudeText, NumberForm.exponentPart]
    cases negative <;> simp
  unfold text form
  split_ifs with positive negative
  · exact scientific (by rwa [abs_of_pos positive] at bound)
  · exact scientific (by rwa [abs_of_neg negative] at bound)
  · have zero : x.value = 0 := le_antisymm (not_lt.mp positive) (not_lt.mp negative)
    rw [zero, abs_zero] at large
    exact absurd large (by norm_num)

theorem text_nonempty : x.text ≠ [] := by
  have nonempty := (form_valid (x := x)).nonempty
  unfold text NumberForm.text
  split
  · exact List.cons_ne_nil _ _
  · simp [NumberForm.magnitudeText, nonempty]

end Double
end AgentOps.Lib
