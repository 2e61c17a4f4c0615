import AgentOps.Lib.Text
import Mathlib.Algebra.Order.Field.Rat

namespace AgentOps.Lib

/-! # The numbers that texts denote, as the host language reads them -/

def roundHalfEven (numerator denominator : Nat) : Nat :=
  let quotient := numerator / denominator
  let twice := 2 * (numerator % denominator)
  if twice < denominator ∨ (twice = denominator ∧ quotient % 2 = 0) then quotient else quotient + 1

def binaryExponent (numerator denominator : Nat) : Int :=
  let e : Int := numerator.log2 - denominator.log2
  if numerator * 2 ^ (-e).toNat < denominator * 2 ^ e.toNat then e - 1 else e

def nearestDouble? (numerator denominator : Nat) : Option ℚ :=
  let ulp := max (binaryExponent numerator denominator - 52) (-1074)
  let value : ℚ :=
    (roundHalfEven (numerator * 2 ^ (-ulp).toNat) (denominator * 2 ^ ulp.toNat) : ℚ) * (2 : ℚ) ^ ulp
  if value < 2 ^ 1024 then some value else none

def toDouble? (q : ℚ) : Option ℚ :=
  if q < 0 then (nearestDouble? q.num.natAbs q.den).map Neg.neg else nearestDouble? q.num.natAbs q.den

def digitOf? (base : Nat) (c : Char) : Option Nat :=
  let digit :=
    if '0' ≤ c ∧ c ≤ '9' then c.toNat - '0'.toNat
    else if 'a' ≤ c ∧ c ≤ 'z' then c.toNat - 'a'.toNat + 10
    else if 'A' ≤ c ∧ c ≤ 'Z' then c.toNat - 'A'.toNat + 10
    else base
  if digit < base then some digit else none

def integerOf? (base : Nat) (cs : List Char) : Option ℚ :=
  if cs.isEmpty then none
  else (cs.mapM (digitOf? base)).map fun digits => ((digits.foldl (fun n d => base * n + d) 0 : Nat) : ℚ)

def exponentOf? : List Char → Option Int
  | '+' :: cs => (digits? cs).map Int.ofNat
  | '-' :: cs => (digits? cs).map fun n => -Int.ofNat n
  | cs => (digits? cs).map Int.ofNat

def decimalOf? (cs : List Char) : Option ℚ :=
  let (whole, afterWhole) := cs.span isDigit
  let (fraction, rest) :=
    match afterWhole with
    | '.' :: afterPoint => afterPoint.span isDigit
    | afterPoint => ([], afterPoint)
  let exponent :=
    match rest with
    | [] => some 0
    | c :: cs => if c = 'e' ∨ c = 'E' then exponentOf? cs else none
  if whole.isEmpty && fraction.isEmpty then none
  else exponent.map fun e : Int => (digitsValue (whole ++ fraction) : ℚ) * (10 : ℚ) ^ (e - fraction.length)

def literalOf? : List Char → Option ℚ
  | [] => some 0
  | '0' :: 'x' :: cs | '0' :: 'X' :: cs => integerOf? 16 cs
  | '0' :: 'o' :: cs | '0' :: 'O' :: cs => integerOf? 8 cs
  | '0' :: 'b' :: cs | '0' :: 'B' :: cs => integerOf? 2 cs
  | '+' :: cs => decimalOf? cs
  | '-' :: cs => (decimalOf? cs).map Neg.neg
  | cs => decimalOf? cs

/-- `Number(text)`, when it is finite -/
def numberOf? (text : String) : Option ℚ := (literalOf? (trimChars text.toList)).bind toDouble?

inductive JsNumber where
  | finite (value : ℚ)
  | infinity
  | negInfinity
  | nan
  deriving DecidableEq

def toNumber (text : String) : JsNumber :=
  match literalOf? (trimChars text.toList) with
  | some value =>
    match toDouble? value with
    | some double => .finite double
    | none => if value < 0 then .negInfinity else .infinity
  | none =>
    if trim text = "Infinity" ∨ trim text = "+Infinity" then .infinity
    else if trim text = "-Infinity" then .negInfinity
    else .nan

namespace JsNumber

/-- `Math.round`, halves up -/
def round : JsNumber → JsNumber
  | .finite value => .finite (value + 1 / 2).floor
  | number => number

/-- `Math.max(low, number)` -/
def atLeast (low : ℚ) : JsNumber → JsNumber
  | .finite value => .finite (max low value)
  | .negInfinity => .finite low
  | number => number

/-- `Math.min(high, number)` -/
def atMost (high : ℚ) : JsNumber → JsNumber
  | .finite value => .finite (min high value)
  | .infinity => .finite high
  | number => number

/-- `BigInt(number)`, none where it throws -/
def toBigInt? : JsNumber → Option ℤ
  | .finite value => if value.den = 1 then some value.num else none
  | _ => none

theorem toBigInt?_intCast (value : ℤ) : toBigInt? (.finite value) = some value := by
  simp [toBigInt?]

end JsNumber

end AgentOps.Lib
