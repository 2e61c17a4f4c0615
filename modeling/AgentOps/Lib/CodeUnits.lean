import Mathlib.Algebra.GroupWithZero.Nat
import Mathlib.Data.List.Basic

namespace AgentOps.Lib

/-! # Strings of the host language, by their UTF-16 code units -/

abbrev CodeUnits := List UInt16

def isHighSurrogate (u : UInt16) : Bool := 0xD800 ≤ u && u < 0xDC00

def isLowSurrogate (u : UInt16) : Bool := 0xDC00 ≤ u && u < 0xE000

def wellFormed : CodeUnits → Bool
  | [] => true
  | [u] => !isHighSurrogate u && !isLowSurrogate u
  | u :: v :: rest =>
    if isHighSurrogate u then isLowSurrogate v && wellFormed rest else !isLowSurrogate u && wellFormed (v :: rest)

/-- The four digits of an escape that `jsonb` refuses: of U+0000, or of a surrogate, which `JSON.stringify` escapes when it
stands alone. -/
def refusedEscape : CodeUnits → Bool
  | [0x30, 0x30, 0x30, 0x30] => true
  | [0x64, u, _, _] => (0x38 ≤ u && u ≤ 0x39) || (0x61 ≤ u && u ≤ 0x66)
  | _ => false

/-- `jsonb` takes a text that `JSON.stringify` has written. -/
def jsonbAccepts : CodeUnits → Bool
  | 0x5C :: 0x75 :: rest => !refusedEscape (rest.take 4) && jsonbAccepts rest
  | 0x5C :: _ :: rest => jsonbAccepts rest
  | _ :: rest => jsonbAccepts rest
  | [] => true

def unitsOf (c : Char) : Nat := if c.toNat < 0x10000 then 1 else 2

def textLength (text : String) : Nat := (text.toList.map unitsOf).sum

/-- The first code units of a text. UTF-8 has U+FFFD for half a pair. -/
def sliceUnits : Nat → List Char → List Char
  | 0, _ | _, [] => []
  | n + 1, c :: rest =>
    if unitsOf c = 1 then c :: sliceUnits n rest
    else
      match n with
      | 0 => ['\uFFFD']
      | n + 1 => c :: sliceUnits n rest

theorem toNat_charOfNat {n : Nat} (valid : n.isValidChar) : (Char.ofNat n).toNat = n := by
  unfold Char.ofNat
  rw [dif_pos valid]
  change (UInt32.ofNatLT n _).toNat = n
  exact UInt32.toNat_ofNatLT ..

inductive CodePoint where
  | scalar (c : Char)
  | surrogate (u : UInt16)
  deriving DecidableEq

namespace CodePoint

def single (u : UInt16) : CodePoint :=
  if isHighSurrogate u || isLowSurrogate u then .surrogate u else .scalar (Char.ofNat u.toNat)

def pair (high low : UInt16) : CodePoint :=
  .scalar (Char.ofNat (0x10000 + (high.toNat - 0xD800) * 0x400 + (low.toNat - 0xDC00)))

def units : CodePoint → CodeUnits
  | surrogate u => [u]
  | scalar c =>
    if c.toNat < 0x10000 then [UInt16.ofNat c.toNat]
    else [UInt16.ofNat (0xD800 + (c.toNat - 0x10000) / 0x400), UInt16.ofNat (0xDC00 + (c.toNat - 0x10000) % 0x400)]

theorem units_single (u : UInt16) : (single u).units = [u] := by
  unfold single
  split
  · rfl
  · rename_i other
    simp only [isHighSurrogate, isLowSurrogate, Bool.or_eq_true, Bool.and_eq_true, decide_eq_true_eq, UInt16.le_iff_toNat_le,
      UInt16.lt_iff_toNat_lt, UInt16.reduceToNat] at other
    have bound := u.toNat_lt
    have valid : u.toNat.isValidChar := by
      unfold Nat.isValidChar
      omega
    simp only [units, toNat_charOfNat valid]
    rw [if_pos (by omega), UInt16.ofNat_toNat]

theorem units_pair {high low : UInt16} (isHigh : isHighSurrogate high = true) (isLow : isLowSurrogate low = true) :
    (pair high low).units = [high, low] := by
  simp only [isHighSurrogate, isLowSurrogate, Bool.and_eq_true, decide_eq_true_eq, UInt16.le_iff_toNat_le,
    UInt16.lt_iff_toNat_lt, UInt16.reduceToNat] at isHigh isLow
  have valid : (0x10000 + (high.toNat - 0xD800) * 0x400 + (low.toNat - 0xDC00)).isValidChar := by
    unfold Nat.isValidChar
    omega
  simp only [pair, units, toNat_charOfNat valid]
  rw [if_neg (by omega)]
  have first : 0xD800 + (0x10000 + (high.toNat - 0xD800) * 0x400 + (low.toNat - 0xDC00) - 0x10000) / 0x400 = high.toNat := by
    omega
  have second : 0xDC00 + (0x10000 + (high.toNat - 0xD800) * 0x400 + (low.toNat - 0xDC00) - 0x10000) % 0x400 = low.toNat := by
    omega
  rw [first, second, UInt16.ofNat_toNat, UInt16.ofNat_toNat]

end CodePoint

def characters : CodeUnits → List CodePoint
  | [] => []
  | [u] => [.single u]
  | u :: v :: rest =>
    if isHighSurrogate u && isLowSurrogate v then .pair u v :: characters rest else .single u :: characters (v :: rest)

theorem units_characters (text : CodeUnits) : (characters text).flatMap CodePoint.units = text := by
  induction text using characters.induct with
  | case1 => rfl
  | case2 u => simp [characters, CodePoint.units_single]
  | case3 u v rest pairs ih =>
    have both := Bool.and_eq_true_iff.mp pairs
    rw [characters, if_pos pairs, List.flatMap_cons, ih, CodePoint.units_pair both.1 both.2]
    rfl
  | case4 u v rest pairs ih =>
    rw [characters, if_neg pairs, List.flatMap_cons, ih, CodePoint.units_single]
    rfl

def utf8 (text : List Char) : List UInt8 := text.flatMap String.utf8EncodeChar

theorem utf8Decode?_utf8 (text : List Char) : (utf8 text).toByteArray.utf8Decode? = some text.toArray :=
  List.utf8Decode?_utf8Encode

theorem utf8_injective : Function.Injective utf8 := by
  intro text text' same
  have decoded := utf8Decode?_utf8 text
  rw [same, utf8Decode?_utf8, Option.some.injEq] at decoded
  exact (Array.toList_inj.mpr decoded).symm

theorem utf8_of_decoded {bytes : List UInt8} {text : Array Char} (decoded : bytes.toByteArray.utf8Decode? = some text) :
    utf8 text.toList = bytes := by
  have valid : bytes.toByteArray.IsValidUTF8 := ByteArray.isSome_utf8Decode?_iff.mp (by rw [decoded]; rfl)
  obtain ⟨sent, same⟩ := valid
  rw [same, List.utf8Decode?_utf8Encode, Option.some.injEq] at decoded
  subst decoded
  have encoded : (utf8 sent).toByteArray = bytes.toByteArray := same.symm
  simpa using congrArg (fun written => written.data.toList) encoded

def withoutBom : List Char → List Char
  | '\uFEFF' :: text => text
  | text => text

theorem withoutBom_eq_self {text : List Char} : withoutBom text = text ↔ ∀ rest, text ≠ '\uFEFF' :: rest := by
  unfold withoutBom
  split
  · rename_i rest
    exact ⟨fun same => absurd same.symm (List.cons_ne_self _ _), fun other => absurd rfl (other rest)⟩
  · rename_i other
    exact ⟨fun _ => other, fun _ => rfl⟩

/-- `new TextDecoder('utf-8', { fatal: true }).decode`, which takes a byte order mark away -/
def decodeUtf8 (bytes : List UInt8) : Option (List Char) :=
  bytes.toByteArray.utf8Decode?.map fun text => withoutBom text.toList

theorem decodeUtf8_eq_some {bytes : List UInt8} {text : List Char} :
    decodeUtf8 bytes = some text ↔ ∃ sent, utf8 sent = bytes ∧ withoutBom sent = text := by
  constructor
  · intro decoded
    obtain ⟨sent, read, same⟩ := Option.map_eq_some_iff.mp decoded
    exact ⟨sent.toList, utf8_of_decoded read, same⟩
  · rintro ⟨sent, rfl, rfl⟩
    rw [decodeUtf8, utf8Decode?_utf8]
    rfl

end AgentOps.Lib
