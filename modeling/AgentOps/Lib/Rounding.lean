import AgentOps.Lib.Double
import Mathlib.Tactic.Linarith

namespace AgentOps.Lib

/-! # How far a double is from the number that it rounds -/

variable {n d : Nat} {q x : ℚ}

theorem roundHalfEven_near (positive : 0 < d) : 2 * (roundHalfEven n d * d) ≤ 2 * n + d ∧
    2 * n ≤ 2 * (roundHalfEven n d * d) + d := by
  have parts := Nat.div_add_mod n d
  have rest := Nat.mod_lt n positive
  have below : n / d * d + n % d = n := by rw [Nat.mul_comm]; exact parts
  unfold roundHalfEven
  simp only
  split_ifs with down
  · omega
  · rw [Nat.add_mul, Nat.one_mul]
    omega

theorem two_zpow_binaryExponent_le (numerator : 0 < n) (denominator : 0 < d) : (2 : ℚ) ^ binaryExponent n d ≤ n / d := by
  have bottom : (0 : ℚ) < d := Nat.cast_pos.mpr denominator
  have least : (2 : ℚ) ^ n.log2 ≤ n := by exact_mod_cast Nat.log2_self_le numerator.ne'
  have most : (d : ℚ) < 2 ^ (d.log2 + 1) := by exact_mod_cast Nat.lt_log2_self
  rw [le_div_iff₀ bottom]
  unfold binaryExponent
  simp only
  split_ifs with less
  · calc (2 : ℚ) ^ ((n.log2 : ℤ) - d.log2 - 1) * d ≤ 2 ^ ((n.log2 : ℤ) - d.log2 - 1) * 2 ^ (d.log2 + 1) :=
          mul_le_mul_of_nonneg_left most.le (zpow_nonneg (by norm_num) _)
      _ = 2 ^ n.log2 := by
          rw [← zpow_natCast, ← zpow_natCast, ← zpow_add₀ (by norm_num)]
          congr 1
          push_cast
          ring
      _ ≤ n := least
  · have whole : (d : ℚ) * 2 ^ ((n.log2 : ℤ) - d.log2).toNat ≤ n * 2 ^ (-((n.log2 : ℤ) - d.log2)).toNat := by
      exact_mod_cast not_lt.mp less
    generalize (n.log2 : ℤ) - d.log2 = e at whole
    rcases le_total 0 e with up | down
    · rw [show (-e).toNat = 0 by omega, pow_zero, mul_one] at whole
      rw [← Int.toNat_of_nonneg up, zpow_natCast, mul_comm]
      exact whole
    · rw [show e.toNat = 0 by omega, pow_zero, mul_one] at whole
      have power : (2 : ℚ) ^ e * 2 ^ (-e).toNat = 1 := by
        rw [← zpow_natCast, ← zpow_add₀ (by norm_num), Int.toNat_of_nonneg (by omega), add_neg_cancel, zpow_zero]
      calc (2 : ℚ) ^ e * d ≤ 2 ^ e * (n * 2 ^ (-e).toNat) :=
          mul_le_mul_of_nonneg_left whole (zpow_nonneg (by norm_num) _)
        _ = n * (2 ^ e * 2 ^ (-e).toNat) := by ring
        _ = n := by rw [power, mul_one]

def ulpExponent (n d : Nat) : ℤ := max (binaryExponent n d - 52) (-1074)

theorem nearestDouble?_eq (n d : Nat) : nearestDouble? n d =
    if (roundHalfEven (n * 2 ^ (-ulpExponent n d).toNat) (d * 2 ^ (ulpExponent n d).toNat) : ℚ) * 2 ^ ulpExponent n d < 2 ^ 1024 then
      some ((roundHalfEven (n * 2 ^ (-ulpExponent n d).toNat) (d * 2 ^ (ulpExponent n d).toNat) : ℚ) * 2 ^ ulpExponent n d)
    else none := rfl

theorem rounded_near (denominator : 0 < d) (e : ℤ) :
    |(roundHalfEven (n * 2 ^ (-e).toNat) (d * 2 ^ e.toNat) : ℚ) * 2 ^ e - n / d| ≤ 2 ^ e / 2 := by
  have bottom : (0 : ℚ) < d := Nat.cast_pos.mpr denominator
  have scaled : 0 < d * 2 ^ e.toNat := by positivity
  obtain ⟨above, below⟩ := roundHalfEven_near (n := n * 2 ^ (-e).toNat) scaled
  generalize roundHalfEven (n * 2 ^ (-e).toNat) (d * 2 ^ e.toNat) = r at above below
  have above' : (2 : ℚ) * (r * (d * 2 ^ e.toNat)) ≤ 2 * (n * 2 ^ (-e).toNat) + d * 2 ^ e.toNat := by exact_mod_cast above
  have below' : (2 : ℚ) * (n * 2 ^ (-e).toNat) ≤ 2 * (r * (d * 2 ^ e.toNat)) + d * 2 ^ e.toNat := by exact_mod_cast below
  have power : (2 : ℚ) ^ e.toNat = 2 ^ e * 2 ^ (-e).toNat := by
    rw [← zpow_natCast, ← zpow_natCast, ← zpow_add₀ (by norm_num)]
    congr 1
    omega
  have unit : (0 : ℚ) < 2 ^ (-e).toNat := by positivity
  rw [power] at above' below'
  have atMost : 2 * ((r : ℚ) * 2 ^ e) * d ≤ 2 * n + 2 ^ e * d := by
    have := le_of_mul_le_mul_right (a := (2 : ℚ) ^ (-e).toNat) (b := 2 * ((r : ℚ) * 2 ^ e) * d) (c := 2 * n + 2 ^ e * d)
      (by linarith) unit
    exact this
  have atLeast : 2 * (n : ℚ) ≤ 2 * ((r : ℚ) * 2 ^ e) * d + 2 ^ e * d := by
    have := le_of_mul_le_mul_right (a := (2 : ℚ) ^ (-e).toNat) (b := 2 * (n : ℚ)) (c := 2 * ((r : ℚ) * 2 ^ e) * d + 2 ^ e * d)
      (by linarith) unit
    exact this
  have split : (n : ℚ) / d * d = n := div_mul_cancel₀ _ bottom.ne'
  rw [abs_le]
  constructor
  · have : (n : ℚ) / d ≤ r * 2 ^ e + 2 ^ e / 2 := by
      rw [div_le_iff₀ bottom]
      linarith
    linarith
  · have : (r : ℚ) * 2 ^ e - 2 ^ e / 2 ≤ n / d := by
      rw [le_div_iff₀ bottom]
      linarith
    linarith

theorem nearestDouble?_near (positive : 0 < q) (moderate : q ≤ 2 ^ 1000) :
    ∃ x, nearestDouble? q.num.natAbs q.den = some x ∧ |x - q| ≤ max (q / 2 ^ 53) (2 ^ (-1075 : ℤ)) := by
  have top : 0 < q.num.natAbs := Int.natAbs_pos.mpr (Rat.num_pos.mpr positive).ne'
  have fraction : (q.num.natAbs : ℚ) / q.den = q := by
    rw [← Int.cast_natCast, Int.natAbs_of_nonneg (Rat.num_nonneg.mpr positive.le)]
    exact Rat.num_div_den q
  have near := rounded_near (n := q.num.natAbs) q.den_pos (ulpExponent q.num.natAbs q.den)
  have exponent := two_zpow_binaryExponent_le top q.den_pos
  rw [fraction] at near exponent
  have unit : (2 : ℚ) ^ ulpExponent q.num.natAbs q.den / 2 ≤ max (q / 2 ^ 53) (2 ^ (-1075 : ℤ)) := by
    unfold ulpExponent
    rcases le_total (binaryExponent q.num.natAbs q.den - 52) (-1074) with least | normal
    · rw [max_eq_right least, show (-1074 : ℤ) = -1075 + 1 by norm_num, zpow_add₀ (by norm_num), zpow_one,
        mul_div_cancel_right₀ _ (by norm_num)]
      exact le_max_right _ _
    · rw [max_eq_left normal, zpow_sub₀ (by norm_num)]
      refine le_trans ?_ (le_max_left _ _)
      calc (2 : ℚ) ^ binaryExponent q.num.natAbs q.den / 2 ^ (52 : ℤ) / 2
          = 2 ^ binaryExponent q.num.natAbs q.den / 2 ^ 53 := by
            rw [div_div]
            norm_num
        _ ≤ q / 2 ^ 53 := div_le_div_of_nonneg_right exponent (by norm_num)
  have bounded := near.trans unit
  refine ⟨_, ?_, bounded⟩
  rw [nearestDouble?_eq, if_pos]
  have least : (2 : ℚ) ^ (-1075 : ℤ) ≤ 1 := zpow_le_one_of_nonpos₀ (by norm_num) (by norm_num)
  have one : (1 : ℚ) ≤ 2 ^ 1000 := one_le_pow₀ (by norm_num)
  have most : max (q / 2 ^ 53) (2 ^ (-1075 : ℤ)) ≤ 2 ^ 1000 := by
    refine max_le ?_ (least.trans one)
    exact (div_le_self positive.le (by norm_num)).trans moderate
  have room : (2 : ℚ) ^ 1024 = 2 ^ 1000 * 2 ^ 24 := by rw [← pow_add]
  have above := (abs_le.mp bounded).2
  rw [room]
  generalize (2 : ℚ) ^ 1000 = bound at moderate one most
  have larger : bound + bound < bound * 2 ^ 24 := by linarith
  linarith

theorem toDouble?_near (moderate : |q| ≤ 2 ^ 1000) :
    ∃ x, toDouble? q = some x ∧ |x - q| ≤ max (|q| / 2 ^ 53) (2 ^ (-1075 : ℤ)) := by
  rcases lt_trichotomy q 0 with negative | rfl | positive
  · rw [abs_of_neg negative] at moderate ⊢
    obtain ⟨x, nearest, near⟩ := nearestDouble?_near (neg_pos.mpr negative) moderate
    rw [Rat.num_neg_eq_neg_num, Int.natAbs_neg, Rat.neg_den] at nearest
    refine ⟨-x, by rw [toDouble?, if_pos negative, nearest, Option.map_some], ?_⟩
    rwa [show -x - q = -(x - -q) by ring, abs_neg]
  · refine ⟨0, by decide +kernel, ?_⟩
    rw [sub_zero, abs_zero]
    exact le_max_of_le_left (by norm_num)
  · rw [abs_of_pos positive] at moderate ⊢
    obtain ⟨x, nearest, near⟩ := nearestDouble?_near positive moderate
    exact ⟨x, by rw [toDouble?, if_neg positive.not_gt, nearest], near⟩

def fixedDigits (millionths : Nat) : List Char :=
  Nat.toDigits 10 (millionths / 1000000) ++ '.' ::
    (List.replicate (6 - (Nat.toDigits 10 (millionths % 1000000)).length) '0' ++ Nat.toDigits 10 (millionths % 1000000))

/-- A `numeric` with six decimal places, as text -/
def numericText (millionths : ℤ) : String :=
  String.ofList (if millionths < 0 then '-' :: fixedDigits millionths.natAbs else fixedDigits millionths.natAbs)

/-- `Number(text)` of such a text -/
def numericNumber (millionths : ℤ) : JsNumber :=
  match toDouble? (millionths / 1000000) with
  | some value => .finite value
  | none => if millionths < 0 then .negInfinity else .infinity

/-- The millionths that `toFixed(6)` writes, halves away from zero -/
def toFixedMillionths (x : ℚ) : ℤ := if x < 0 then -⌊-x * 1000000 + 1 / 2⌋ else ⌊x * 1000000 + 1 / 2⌋

/-- `toFixed(6)`, which leaves numbers of more than 21 digits to `toString` -/
def toFixed6 : JsNumber → String
  | .finite x =>
    if 10 ^ 21 ≤ |x| then if exact : toDouble? x = some x then String.ofList (Double.text ⟨x, exact⟩) else ""
    else String.ofList (if x < 0 then '-' :: fixedDigits (toFixedMillionths x).natAbs else fixedDigits (toFixedMillionths x).natAbs)
  | .infinity => "Infinity"
  | .negInfinity => "-Infinity"
  | .nan => "NaN"

variable {m m' : ℤ}

theorem fixedDigits_injective : Function.Injective fixedDigits := by
  intro k k' same
  have digits (k : Nat) : ∀ c ∈ Nat.toDigits 10 k, isDigit c = true := fun c => isDigit_toDigits
  have before (k : Nat) : (fixedDigits k).takeWhile isDigit = Nat.toDigits 10 (k / 1000000) ∧
      (fixedDigits k).dropWhile isDigit = '.' :: (List.replicate (6 - (Nat.toDigits 10 (k % 1000000)).length) '0' ++
        Nat.toDigits 10 (k % 1000000)) := takeWhile_digits (digits (k / 1000000)) (by decide)
  have whole := congrArg (List.takeWhile isDigit) same
  have decimals := congrArg (List.dropWhile isDigit) same
  rw [(before k).1, (before k').1] at whole
  rw [(before k).2, (before k').2] at decimals
  have dollars := congrArg digitsValue whole
  have cents := congrArg digitsValue (List.cons.inj decimals).2
  simp only [digitsValue_toDigits] at dollars
  simp only [digitsValue_padded] at cents
  omega

theorem fixedDigits_head (k : Nat) : ∃ c cs, fixedDigits k = c :: cs ∧ isDigit c = true := by
  obtain ⟨c, cs, first⟩ := List.exists_cons_of_ne_nil (Nat.toDigits_ne_nil (b := 10) (n := k / 1000000))
  refine ⟨c, _, by rw [fixedDigits, first, List.cons_append], ?_⟩
  exact isDigit_toDigits (first ▸ List.mem_cons_self)

theorem numericText_injective : Function.Injective numericText := by
  have signless (k k' : Nat) : '-' :: fixedDigits k ≠ fixedDigits k' := by
    obtain ⟨c, cs, first, digit⟩ := fixedDigits_head k'
    rw [first]
    intro same
    rw [← (List.cons.inj same).1] at digit
    cases digit
  intro m m' same
  have texts := String.ofList_injective same
  split_ifs at texts with negative negative' negative'
  · have magnitude := fixedDigits_injective (List.cons.inj texts).2
    omega
  · exact absurd texts (signless _ _)
  · exact absurd texts.symm (signless _ _)
  · have magnitude := fixedDigits_injective texts
    omega

theorem numericNumber_near (small : |m| < 2 ^ 52) : ∃ x, toDouble? (m / 1000000) = some x ∧ |x * 1000000 - m| < 1 / 2 := by
  have magnitude : |(m : ℚ) / 1000000| = |(m : ℚ)| / 1000000 := by rw [abs_div, abs_of_pos (by norm_num : (0 : ℚ) < 1000000)]
  have bound : |(m : ℚ)| < 2 ^ 52 := by exact_mod_cast small
  have moderate : |(m : ℚ) / 1000000| ≤ 2 ^ 1000 := by
    rw [magnitude]
    have far : (2 : ℚ) ^ 52 ≤ 2 ^ 1000 := pow_le_pow_right₀ (by norm_num) (by norm_num)
    refine le_trans ?_ far
    linarith [abs_nonneg (m : ℚ)]
  obtain ⟨x, nearest, near⟩ := toDouble?_near moderate
  refine ⟨x, nearest, ?_⟩
  have least : (2 : ℚ) ^ (-1075 : ℤ) ≤ 2 ^ (-30 : ℤ) := zpow_le_zpow_right₀ (by norm_num) (by norm_num)
  have unit : max (|(m : ℚ) / 1000000| / 2 ^ 53) (2 ^ (-1075 : ℤ)) < 1 / 2000000 := by
    rw [magnitude]
    refine max_lt ?_ (lt_of_le_of_lt least (by norm_num))
    rw [div_div, div_lt_iff₀ (by norm_num)]
    linarith
  have close := lt_of_le_of_lt near unit
  rw [show x * 1000000 - (m : ℚ) = (x - m / 1000000) * 1000000 by ring, abs_mul, abs_of_pos (by norm_num : (0 : ℚ) < 1000000)]
  linarith

def KeepsMillionths (m : ℤ) : Prop :=
  ∃ x, toDouble? (m / 1000000) = some x ∧ |x| < 10 ^ 21 ∧ -(1 / 2) ≤ |x| * 1000000 - |(m : ℚ)| ∧ |x| * 1000000 - |(m : ℚ)| < 1 / 2

theorem nearestDouble?_nonneg {x : ℚ} (nearest : nearestDouble? n d = some x) : 0 ≤ x := by
  rw [nearestDouble?_eq, Option.ite_none_right_eq_some] at nearest
  obtain ⟨-, same⟩ := nearest
  rw [← Option.some.inj same]
  exact mul_nonneg (Nat.cast_nonneg _) (zpow_nonneg (by norm_num) _)

theorem toDouble?_nonneg (nonneg : 0 ≤ q) (nearest : toDouble? q = some x) : 0 ≤ x := by
  rw [toDouble?, if_neg nonneg.not_gt] at nearest
  exact nearestDouble?_nonneg nearest

theorem toDouble?_nonpos (negative : q < 0) (nearest : toDouble? q = some x) : x ≤ 0 := by
  rw [toDouble?, if_pos negative] at nearest
  obtain ⟨y, positive, rfl⟩ := Option.map_eq_some_iff.mp nearest
  exact neg_nonpos.mpr (nearestDouble?_nonneg positive)

theorem toFixedMillionths_eq_iff (nonneg : 0 ≤ m → 0 ≤ x) (nonpos : m < 0 → x ≤ 0) : toFixedMillionths x = m ↔
    -(1 / 2) ≤ |x| * 1000000 - |(m : ℚ)| ∧ |x| * 1000000 - |(m : ℚ)| < 1 / 2 := by
  unfold toFixedMillionths
  rcases lt_or_ge m 0 with negative | positive
  · have below : (m : ℚ) < 0 := by exact_mod_cast negative
    have one : (m : ℚ) ≤ -1 := by exact_mod_cast Int.le_sub_one_of_lt negative
    rw [abs_of_nonpos (nonpos negative), abs_of_neg below]
    split_ifs with sign
    · rw [neg_eq_iff_eq_neg, Int.floor_eq_iff]
      push_cast
      constructor <;> rintro ⟨least, most⟩ <;> constructor <;> linarith
    · obtain rfl := le_antisymm (nonpos negative) (not_lt.mp sign)
      rw [Int.floor_eq_iff]
      constructor <;> rintro ⟨least, most⟩ <;> constructor <;> linarith
  · have above : (0 : ℚ) ≤ m := by exact_mod_cast positive
    rw [abs_of_nonneg (nonneg positive), abs_of_nonneg above, if_neg (nonneg positive).not_gt, Int.floor_eq_iff]
    constructor <;> rintro ⟨least, most⟩ <;> constructor <;> linarith

theorem fixedDigits_chars {k : Nat} : ∀ c ∈ fixedDigits k, isDigit c = true ∨ c = '.' := by
  intro c member
  simp only [fixedDigits, List.mem_append, List.mem_cons, List.mem_replicate] at member
  rcases member with whole | rfl | ⟨-, rfl⟩ | decimals
  · exact .inl (isDigit_toDigits whole)
  · exact .inr rfl
  · exact .inl (by decide)
  · exact .inl (isDigit_toDigits decimals)

theorem numericText_chars : ∀ c ∈ (numericText m).toList, isDigit c = true ∨ c = '.' ∨ c = '-' := by
  intro c member
  rw [numericText, String.toList_ofList] at member
  split_ifs at member
  · rcases List.mem_cons.mp member with rfl | member
    · exact .inr (.inr rfl)
    · exact (fixedDigits_chars c member).imp_right .inl
  · exact (fixedDigits_chars c member).imp_right .inl

theorem numericText_ne {text : String} {c : Char} (member : c ∈ text.toList) (letter : isDigit c = false)
    (dot : c ≠ '.') (minus : c ≠ '-') : text ≠ numericText m := by
  rintro rfl
  rcases numericText_chars c member with digit | rfl | rfl
  · rw [letter] at digit
    cases digit
  · exact dot rfl
  · exact minus rfl

theorem keepsMillionths_small (small : |m| < 2 ^ 52) : KeepsMillionths m := by
  obtain ⟨x, nearest, near⟩ := numericNumber_near small
  have bound : |(m : ℚ)| < 2 ^ 52 := by exact_mod_cast small
  have apart : |(|x * 1000000| - |(m : ℚ)|)| < 1 / 2 := (abs_abs_sub_abs_le _ _).trans_lt near
  rw [abs_mul, abs_of_pos (by norm_num : (0 : ℚ) < 1000000), abs_lt] at apart
  exact ⟨x, nearest, by linarith, apart.1.le, apart.2⟩

theorem numericText_ne_empty : "" ≠ numericText m := by
  intro empty
  obtain ⟨c, cs, first, -⟩ := fixedDigits_head m.natAbs
  have nothing := String.ofList_injective (String.ofList_nil.trans empty)
  rw [first] at nothing
  split_ifs at nothing

theorem toFixedMillionths_sign : (x < 0 → toFixedMillionths x ≤ 0) ∧ (0 ≤ x → 0 ≤ toFixedMillionths x) := by
  unfold toFixedMillionths
  constructor
  · intro negative
    rw [if_pos negative, neg_nonpos, Int.le_floor]
    push_cast
    linarith
  · intro positive
    rw [if_neg positive.not_gt, Int.le_floor]
    push_cast
    linarith

theorem toFixedMillionths_zero : toFixedMillionths 0 = 0 := by
  rw [toFixedMillionths, if_neg (lt_irrefl 0), Int.floor_eq_iff]
  norm_num

theorem toFixedMillionths_neg : toFixedMillionths (-x) = -toFixedMillionths x := by
  rcases lt_trichotomy x 0 with negative | rfl | positive
  · rw [toFixedMillionths, toFixedMillionths, if_pos negative, if_neg (neg_pos.mpr negative).not_gt, neg_neg]
  · rw [neg_zero, toFixedMillionths_zero, neg_zero]
  · rw [toFixedMillionths, toFixedMillionths, if_neg positive.not_gt, if_pos (neg_lt_zero.mpr positive), neg_neg]

theorem fixedText_eq_iff (nonneg : 0 ≤ m → 0 ≤ x) (nonpos : m < 0 → x ≤ 0) :
    String.ofList (if x < 0 then '-' :: fixedDigits (toFixedMillionths x).natAbs else fixedDigits (toFixedMillionths x).natAbs) =
      numericText m ↔ toFixedMillionths x = m := by
  have signs := @toFixedMillionths_sign x
  constructor
  · intro same
    have texts := String.ofList_injective same
    split_ifs at texts with negative negative' negative'
    · have magnitude := fixedDigits_injective (List.cons.inj texts).2
      have sign := signs.1 negative
      omega
    · exact absurd (nonneg (not_lt.mp negative')) negative.not_ge
    · obtain ⟨c, cs, first, digit⟩ := fixedDigits_head (toFixedMillionths x).natAbs
      rw [first] at texts
      rw [(List.cons.inj texts).1] at digit
      cases digit
    · have magnitude := fixedDigits_injective texts
      have sign := signs.2 (not_lt.mp negative)
      omega
  · rintro rfl
    rw [numericText]
    congr 1
    rcases lt_trichotomy x 0 with negative | rfl | positive
    · have below := mt nonneg negative.not_ge
      simp only [negative, if_true, not_le.mp below]
    · simp only [toFixedMillionths_zero, lt_irrefl]
    · have above := mt nonpos positive.not_ge
      simp only [positive.not_gt, above]

theorem keepsMillionths_iff (column : |m| < 10 ^ 20) :
    ∃ x, numericNumber m = .finite x ∧ (KeepsMillionths m ↔ toFixedMillionths x = m) := by
  have bound : |(m : ℚ)| < 10 ^ 20 := by exact_mod_cast column
  have magnitude : |(m : ℚ) / 1000000| = |(m : ℚ)| / 1000000 := by rw [abs_div, abs_of_pos (by norm_num : (0 : ℚ) < 1000000)]
  have far : (10 : ℚ) ^ 20 ≤ 2 ^ 1000 := (by norm_num : (10 : ℚ) ^ 20 ≤ 2 ^ 67).trans (pow_le_pow_right₀ (by norm_num) (by norm_num))
  have moderate : |(m : ℚ) / 1000000| ≤ 2 ^ 1000 := by
    rw [magnitude]
    exact (div_le_self (abs_nonneg _) (by norm_num)).trans (bound.le.trans far)
  obtain ⟨x, nearest, near⟩ := toDouble?_near moderate
  have least : (2 : ℚ) ^ (-1075 : ℤ) ≤ 1 := zpow_le_one_of_nonpos₀ (by norm_num) (by norm_num)
  have close : |x - (m : ℚ) / 1000000| ≤ 10 ^ 20 := by
    refine near.trans (max_le ?_ (least.trans (by norm_num)))
    rw [magnitude]
    linarith
  have small : |x| < 10 ^ 21 := by
    have apart := (abs_sub_abs_le_abs_sub _ _).trans close
    rw [magnitude] at apart
    linarith
  have nonneg : 0 ≤ m → 0 ≤ x := fun positive =>
    toDouble?_nonneg (div_nonneg (by exact_mod_cast positive) (by norm_num)) nearest
  have nonpos : m < 0 → x ≤ 0 := fun negative =>
    toDouble?_nonpos (div_neg_of_neg_of_pos (by exact_mod_cast negative) (by norm_num)) nearest
  refine ⟨x, by rw [numericNumber, nearest], ?_⟩
  simp only [KeepsMillionths, nearest, Option.some.injEq, exists_eq_left', small, true_and, toFixedMillionths_eq_iff nonneg nonpos]

theorem toFixed6_eq_iff : toFixed6 (numericNumber m) = numericText m ↔ KeepsMillionths m := by
  unfold numericNumber KeepsMillionths
  cases nearest : toDouble? (m / 1000000) with
  | none =>
    simp only [reduceCtorEq, false_and, exists_false, iff_false]
    split_ifs
    · exact numericText_ne (c := 'I') (by decide) (by decide) (by decide) (by decide)
    · exact numericText_ne (c := 'I') (by decide) (by decide) (by decide) (by decide)
  | some x =>
    have nonneg : 0 ≤ m → 0 ≤ x := fun positive =>
      toDouble?_nonneg (div_nonneg (by exact_mod_cast positive) (by norm_num)) nearest
    have nonpos : m < 0 → x ≤ 0 := fun negative =>
      toDouble?_nonpos (div_neg_of_neg_of_pos (by exact_mod_cast negative) (by norm_num)) nearest
    simp only [Option.some.injEq, exists_eq_left', ← toFixedMillionths_eq_iff nonneg nonpos, toFixed6]
    by_cases large : (10 : ℚ) ^ 21 ≤ |x|
    · simp only [if_pos large, not_lt.mpr large, false_and, iff_false]
      by_cases exact : toDouble? x = some x
      · rw [dif_pos exact]
        have exponent := Double.text_exponent (x := ⟨x, exact⟩) large
        exact numericText_ne (c := 'e') (by rwa [String.toList_ofList]) (by decide) (by decide) (by decide)
      · rw [dif_neg exact]
        exact numericText_ne_empty
    · rw [if_neg large, fixedText_eq_iff nonneg nonpos]
      exact (and_iff_right (not_le.mp large)).symm

/-- `number * factor`, for a factor above zero -/
def JsNumber.times (factor : ℚ) : JsNumber → JsNumber
  | .finite value =>
    match toDouble? (value * factor) with
    | some product => .finite product
    | none => if value < 0 then .negInfinity else .infinity
  | number => number

/-- `BigInt(Math.round(Number(text) * 1_000_000))` of a `numeric` with six decimal places, none where `BigInt` throws -/
def numericMicros? (millionths : ℤ) : Option ℤ := ((numericNumber millionths).times 1000000).round.toBigInt?

theorem numericMicros?_small (small : |m| < 2 ^ 50) : numericMicros? m = some m := by
  have bound : |(m : ℚ)| < 2 ^ 50 := by exact_mod_cast small
  have far : (2 : ℚ) ^ 52 ≤ 2 ^ 1000 := pow_le_pow_right₀ (by norm_num) (by norm_num)
  have least : (2 : ℚ) ^ (-1075 : ℤ) ≤ 2 ^ (-30 : ℤ) := zpow_le_zpow_right₀ (by norm_num) (by norm_num)
  have magnitude : |(m : ℚ) / 1000000| = |(m : ℚ)| / 1000000 := by rw [abs_div, abs_of_pos (by norm_num : (0 : ℚ) < 1000000)]
  obtain ⟨x, nearest, near⟩ : ∃ x, toDouble? (m / 1000000) = some x ∧
      |x - m / 1000000| ≤ max (|(m : ℚ) / 1000000| / 2 ^ 53) (2 ^ (-1075 : ℤ)) := by
    refine toDouble?_near (le_trans ?_ far)
    rw [magnitude]
    linarith [abs_nonneg (m : ℚ)]
  have close : |x - m / 1000000| ≤ 1 / 8000000 := by
    refine near.trans (max_le ?_ (least.trans (by norm_num)))
    rw [magnitude]
    linarith
  have scaled : |x * 1000000 - m| ≤ 1 / 8 := by
    rw [show x * 1000000 - (m : ℚ) = (x - m / 1000000) * 1000000 by ring, abs_mul, abs_of_pos (by norm_num : (0 : ℚ) < 1000000)]
    linarith
  have within : |x * 1000000| ≤ 2 ^ 50 + 1 := by
    have triangle := abs_sub_abs_le_abs_sub (x * 1000000) (m : ℚ)
    linarith
  obtain ⟨y, product, near'⟩ : ∃ y, toDouble? (x * 1000000) = some y ∧
      |y - x * 1000000| ≤ max (|x * 1000000| / 2 ^ 53) (2 ^ (-1075 : ℤ)) :=
    toDouble?_near (le_trans (by linarith) far)
  have close' : |y - x * 1000000| ≤ 1 / 4 := by
    refine near'.trans (max_le ?_ (least.trans (by norm_num)))
    linarith
  have exact : ⌊y + 1 / 2⌋ = m := by
    rw [abs_le] at scaled close'
    rw [Int.floor_eq_iff]
    constructor <;> linarith
  unfold numericMicros? numericNumber
  simp only [nearest, JsNumber.times, product]
  rw [← exact]
  exact JsNumber.toBigInt?_intCast _

theorem numericMicros?_isSome (column : |m| < 10 ^ 20) : (numericMicros? m).isSome := by
  have bound : |(m : ℚ)| < 10 ^ 20 := by exact_mod_cast column
  have far : (10 : ℚ) ^ 22 ≤ 2 ^ 1000 := le_trans (by norm_num) (pow_le_pow_right₀ (by norm_num) (by norm_num : 80 ≤ 1000))
  have least : (2 : ℚ) ^ (-1075 : ℤ) ≤ 1 := zpow_le_one_of_nonpos₀ (by norm_num) (by norm_num)
  have magnitude : |(m : ℚ) / 1000000| = |(m : ℚ)| / 1000000 := by rw [abs_div, abs_of_pos (by norm_num : (0 : ℚ) < 1000000)]
  obtain ⟨x, nearest, near⟩ : ∃ x, toDouble? (m / 1000000) = some x ∧
      |x - m / 1000000| ≤ max (|(m : ℚ) / 1000000| / 2 ^ 53) (2 ^ (-1075 : ℤ)) := by
    refine toDouble?_near (le_trans ?_ far)
    rw [magnitude]
    linarith [abs_nonneg (m : ℚ)]
  have close : |x - m / 1000000| ≤ 1 := by
    refine near.trans (max_le ?_ least)
    rw [magnitude]
    linarith
  have within : |x * 1000000| ≤ 10 ^ 22 := by
    have triangle := abs_sub_abs_le_abs_sub x (m / 1000000 : ℚ)
    rw [magnitude] at triangle
    rw [abs_mul, abs_of_pos (by norm_num : (0 : ℚ) < 1000000)]
    linarith
  obtain ⟨y, product, -⟩ := toDouble?_near (within.trans far)
  have integer : numericMicros? m = JsNumber.toBigInt? (.finite (⌊y + 1 / 2⌋ : ℤ)) := by
    unfold numericMicros? numericNumber
    simp only [nearest, JsNumber.times, product]
    rfl
  rw [integer, JsNumber.toBigInt?_intCast]
  rfl

end AgentOps.Lib
