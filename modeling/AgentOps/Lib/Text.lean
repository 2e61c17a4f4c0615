import Mathlib.Data.List.DropRight

namespace AgentOps.Lib

/-! # Text operations of the host language, on the characters of a string -/

def lower (s : String) : String := String.ofList (s.toList.map Char.toLower)

/-- The code points that `String.prototype.trim` removes. -/
def isSpace (c : Char) : Bool :=
  c ∈ [' ', '\t', '\n', '\r', '\u000B', '\u000C', '\u00A0', '\u1680', '\u2028', '\u2029', '\u202F', '\u205F',
    '\u3000', '\uFEFF'] || ('\u2000' ≤ c && c ≤ '\u200A')

def trimChars (cs : List Char) : List Char := ((cs.dropWhile isSpace).reverse.dropWhile isSpace).reverse

def trim (s : String) : String := String.ofList (trimChars s.toList)

def startsWith (s start : String) : Bool := start.toList.isPrefixOf s.toList

def endsWith (s final : String) : Bool := final.toList.isSuffixOf s.toList

def containsChars (part : List Char) : List Char → Bool
  | [] => part.isEmpty
  | c :: cs => part.isPrefixOf (c :: cs) || containsChars part cs

def containsText (s part : String) : Bool := containsChars part.toList s.toList

def isDigit (c : Char) : Bool := '0' ≤ c && c ≤ '9'

def digitsValue (cs : List Char) : Nat := cs.foldl (fun n c => 10 * n + (c.toNat - '0'.toNat)) 0

def digits? (cs : List Char) : Option Nat :=
  if cs.isEmpty || !cs.all isDigit then none else some (digitsValue cs)

/-- A text has no character that PostgreSQL refuses in `text` and `jsonb`. -/
def storableText (text : String) : Bool := '\x00' ∉ text.toList

theorem trimChars_eq_nil {cs : List Char} : trimChars cs = [] ↔ ∀ c ∈ cs, isSpace c = true := by
  rw [trimChars, List.reverse_eq_nil_iff, List.dropWhile_eq_nil_iff]
  simp only [List.mem_reverse]
  constructor
  · intro spaces c member
    rw [← List.takeWhile_append_dropWhile (p := isSpace) (l := cs)] at member
    rcases List.mem_append.mp member with leading | after
    · exact List.mem_takeWhile_imp leading
    · exact spaces c after
  · exact fun spaces c member => spaces c (List.dropWhile_subset _ member)

theorem isSpace_printable {c : Char} (above : 32 < c.val) (below : c.val < 160) : isSpace c = false := by
  rw [Bool.eq_false_iff]
  intro space
  simp only [isSpace, Bool.or_eq_true, Bool.and_eq_true, decide_eq_true_eq, List.mem_cons, List.not_mem_nil, or_false] at space
  rcases space with listed | ⟨high, -⟩
  · rcases listed with rfl | rfl | rfl | rfl | rfl | rfl | rfl | rfl | rfl | rfl | rfl | rfl | rfl | rfl <;>
      first | exact absurd above (by decide) | exact absurd below (by decide)
  · have far : 0x2000 ≤ c.val := high
    exact absurd (UInt32.lt_of_le_of_lt far below) (by decide)

theorem isSpace_toLower (c : Char) : isSpace c.toLower = isSpace c := by
  unfold Char.toLower
  split
  · rename_i capital
    obtain ⟨least, most⟩ := capital
    have value : (c.val + ('a'.val - 'A'.val)).toNat = c.val.toNat + 32 := by
      rw [UInt32.toNat_add]
      have := UInt32.le_iff_toNat_le.mp most
      exact Nat.mod_eq_of_lt (by simp at this ⊢; omega)
    simp only [ge_iff_le, UInt32.le_iff_toNat_le] at least most
    rw [isSpace_printable, isSpace_printable] <;> rw [UInt32.lt_iff_toNat_lt] <;> simp at value least most ⊢ <;> omega
  · rfl

theorem trimChars_toLower {cs : List Char} : trimChars (cs.map Char.toLower) = [] ↔ trimChars cs = [] := by
  simp only [trimChars_eq_nil, List.mem_map, forall_exists_index, and_imp, forall_apply_eq_imp_iff₂, isSpace_toLower]

variable {n : Nat} {digits decimals : List Char}

theorem isDigit_toDigits {c : Char} (member : c ∈ Nat.toDigits 10 n) : isDigit c = true := by
  have digit := Nat.isDigit_of_mem_toDigits (by decide) (by decide) member
  simpa [Char.isDigit, isDigit, Char.le_def] using digit

theorem digitsValue_toDigits : digitsValue (Nat.toDigits 10 n) = n := Nat.ofDigitChars_ten_toDigits

theorem digits?_toDigits : digits? (Nat.toDigits 10 n) = some n := by
  have all : (Nat.toDigits 10 n).all isDigit = true := List.all_eq_true.mpr fun c member => isDigit_toDigits member
  simp [digits?, digitsValue_toDigits, all]

theorem rdropWhile_append_replicate (cs : List Char) (pad : Char) :
    cs.rdropWhile (· = pad) ++ List.replicate (cs.length - (cs.rdropWhile (· = pad)).length) pad = cs := by
  induction cs using List.reverseRecOn with
  | nil => rfl
  | append_singleton cs last ih =>
    by_cases padded : last = pad
    · have shorter : (cs.rdropWhile (· = pad)).length ≤ cs.length := (List.rdropWhile_prefix _ _).length_le
      rw [List.rdropWhile_concat_pos _ _ _ (by simpa using padded), List.length_append, List.length_singleton,
        Nat.sub_add_comm shorter, List.replicate_succ', ← List.append_assoc, ih, padded]
    · rw [List.rdropWhile_concat_neg _ _ _ (by simpa using padded), Nat.sub_self, List.replicate_zero, List.append_nil]

theorem digitsValue_padded {zeros : Nat} : digitsValue (List.replicate zeros '0' ++ Nat.toDigits 10 n) = n := by
  change Nat.ofDigitChars 10 _ 0 = n
  rw [Nat.ofDigitChars_append, Nat.ofDigitChars_replicate_zero, Nat.mul_zero, Nat.ofDigitChars_ten_toDigits]

theorem takeWhile_digits {stop : Char} (all : ∀ c ∈ digits, isDigit c = true) (stops : isDigit stop = false) :
    (digits ++ stop :: decimals).takeWhile isDigit = digits ∧ (digits ++ stop :: decimals).dropWhile isDigit = stop :: decimals := by
  rw [List.takeWhile_append_of_pos all, List.dropWhile_append_of_pos all]
  simp [stops]

end AgentOps.Lib
