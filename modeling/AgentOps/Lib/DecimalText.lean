import AgentOps.Lib.Double

namespace AgentOps.Lib

/-! # Numbers written in decimal -/

def signedDecimal? : List Char → Option ℚ
  | '+' :: cs => decimalOf? cs
  | '-' :: cs => (decimalOf? cs).map Neg.neg
  | cs => decimalOf? cs

def decimalValue? (text : String) : Option ℚ := signedDecimal? text.toList

def hasRadix : List Char → Bool
  | '0' :: c :: _ => c ∈ ['x', 'X', 'o', 'O', 'b', 'B']
  | _ => false

/-- Not empty, no blanks around it, and no radix in front -/
structure Unadorned (text : String) : Prop where
  nonempty : text ≠ ""
  trimmed : trim text = text
  decimal : hasRadix text.toList = false

def ReadAsWritten (text : String) : Prop :=
  ∃ value, decimalValue? text = some value ∧ ∃ double, toDouble? value = some double ∧ numberOf? text = some double

variable {cs : List Char}

theorem digits?_chars {n : Nat} (digits : digits? cs = some n) : ∀ c ∈ cs, isDigit c = true := by
  unfold digits? at digits
  split at digits
  · cases digits
  · rename_i proper
    simp only [Bool.or_eq_true, Bool.not_eq_true', not_or, Bool.not_eq_false] at proper
    exact List.all_eq_true.mp proper.2

theorem isNumberChar_digit {c : Char} (digit : isDigit c = true) : isNumberChar c = true := by
  simp [isNumberChar, digit]

theorem exponentOf?_chars {e : ℤ} (exponent : exponentOf? cs = some e) : ∀ c ∈ cs, isNumberChar c = true := by
  unfold exponentOf? at exponent
  split at exponent <;> obtain ⟨n, digits, -⟩ := Option.map_eq_some_iff.mp exponent <;> intro c member
  · rcases List.mem_cons.mp member with rfl | behind
    · rfl
    · exact isNumberChar_digit (digits?_chars digits c behind)
  · rcases List.mem_cons.mp member with rfl | behind
    · rfl
    · exact isNumberChar_digit (digits?_chars digits c behind)
  · exact isNumberChar_digit (digits?_chars digits c member)

theorem exponentPart_chars {e : ℤ}
    (exponent : (match cs with | [] => some 0 | c :: cs => if c = 'e' ∨ c = 'E' then exponentOf? cs else none) = some e) :
    ∀ c ∈ cs, isNumberChar c = true := by
  cases cs with
  | nil => intro c member; cases member
  | cons marker rest =>
    obtain ⟨marked, exponent⟩ := Option.ite_none_right_eq_some.mp exponent
    intro c member
    rcases List.mem_cons.mp member with rfl | behind
    · rcases marked with rfl | rfl <;> rfl
    · exact exponentOf?_chars exponent c behind

theorem takeWhile_chars : ∀ c ∈ cs.takeWhile isDigit, isNumberChar c = true :=
  fun _ member => isNumberChar_digit (List.mem_takeWhile_imp member)

theorem mem_parts {c : Char} (member : c ∈ cs) : c ∈ cs.takeWhile isDigit ∨ c ∈ cs.dropWhile isDigit := by
  rw [← List.mem_append, List.takeWhile_append_dropWhile]
  exact member

theorem fraction_chars : ∀ c ∈ cs, isNumberChar c = true ∨
    c ∈ (match cs with
      | '.' :: afterPoint => (afterPoint.takeWhile isDigit, afterPoint.dropWhile isDigit)
      | afterPoint => ([], afterPoint)).2 := by
  intro c member
  split
  · rcases List.mem_cons.mp member with rfl | behind
    · exact .inl rfl
    · exact (mem_parts behind).imp_left (takeWhile_chars c)
  · exact .inr member

theorem decimalOf?_chars {q : ℚ} (decimal : decimalOf? cs = some q) : ∀ c ∈ cs, isNumberChar c = true := by
  unfold decimalOf? at decimal
  simp only [List.span_eq_takeWhile_dropWhile] at decimal
  obtain ⟨-, found⟩ := Option.ite_none_left_eq_some.mp decimal
  obtain ⟨e, exponent, -⟩ := Option.map_eq_some_iff.mp found
  intro c member
  rcases mem_parts member with whole | behind
  · exact takeWhile_chars c whole
  · exact (fraction_chars c behind).elim id (exponentPart_chars exponent c)

theorem signedDecimal?_chars {q : ℚ} (decimal : signedDecimal? cs = some q) : cs ≠ [] ∧ ∀ c ∈ cs, isNumberChar c = true := by
  unfold signedDecimal? at decimal
  split at decimal
  · refine ⟨List.cons_ne_nil _ _, fun c member => ?_⟩
    rcases List.mem_cons.mp member with rfl | behind
    · rfl
    · exact decimalOf?_chars decimal c behind
  · obtain ⟨value, positive, -⟩ := Option.map_eq_some_iff.mp decimal
    refine ⟨List.cons_ne_nil _ _, fun c member => ?_⟩
    rcases List.mem_cons.mp member with rfl | behind
    · rfl
    · exact decimalOf?_chars positive c behind
  · refine ⟨?_, decimalOf?_chars decimal⟩
    rintro rfl
    cases decimal

theorem isSpace_numberChar {c : Char} (number : isNumberChar c = true) : isSpace c = false := by
  apply isSpace_printable
  · simp only [isNumberChar, isDigit, Bool.or_eq_true, Bool.and_eq_true, decide_eq_true_eq] at number
    rcases number with ((((⟨least, -⟩ | rfl) | rfl) | rfl) | rfl) | rfl
    · exact UInt32.lt_of_lt_of_le (by decide) least
    all_goals decide
  · simp only [isNumberChar, isDigit, Bool.or_eq_true, Bool.and_eq_true, decide_eq_true_eq] at number
    rcases number with ((((⟨-, most⟩ | rfl) | rfl) | rfl) | rfl) | rfl
    · exact UInt32.lt_of_le_of_lt most (by decide)
    all_goals decide

theorem dropWhile_none {α : Type} {p : α → Bool} {as : List α} (none : ∀ a ∈ as, p a = false) : as.dropWhile p = as := by
  cases as with
  | nil => rfl
  | cons a as => simp [none a List.mem_cons_self]

theorem trimChars_visible (visible : ∀ c ∈ cs, isSpace c = false) : trimChars cs = cs := by
  rw [trimChars, dropWhile_none visible, dropWhile_none (by simpa using visible), List.reverse_reverse]

theorem literalOf?_decimal (nonempty : cs ≠ []) (decimal : hasRadix cs = false) : literalOf? cs = signedDecimal? cs := by
  unfold literalOf?
  split
  · exact absurd rfl nonempty
  all_goals first | (simp [hasRadix] at decimal; done) | skip
  · rfl
  · rfl
  · rename_i plus minus
    unfold signedDecimal?
    split
    · exact absurd rfl (plus _)
    · exact absurd rfl (minus _)
    · rfl

theorem radix_not_decimal (radix : hasRadix cs = true) : signedDecimal? cs = none := by
  by_contra some
  obtain ⟨q, decimal⟩ := Option.ne_none_iff_exists'.mp some
  have chars := (signedDecimal?_chars decimal).2
  unfold hasRadix at radix
  split at radix
  · rename_i c rest
    have number := chars c (by simp)
    simp only [decide_eq_true_eq, List.mem_cons, List.not_mem_nil, or_false] at radix
    rcases radix with rfl | rfl | rfl | rfl | rfl | rfl <;> cases number
  · cases radix

theorem readAsWritten_iff {text : String} (finite : (numberOf? text).isSome = true) : ReadAsWritten text ↔ Unadorned text := by
  constructor
  · rintro ⟨value, decimal, -⟩
    obtain ⟨nonempty, chars⟩ := signedDecimal?_chars decimal
    refine ⟨fun empty => nonempty (by rw [empty]; rfl), ?_, ?_⟩
    · rw [trim, trimChars_visible fun c member => isSpace_numberChar (chars c member), String.ofList_toList]
    · rw [Bool.eq_false_iff]
      intro radix
      rw [decimalValue?, radix_not_decimal radix] at decimal
      cases decimal
  · rintro ⟨nonempty, trimmed, plain⟩
    have chars : trimChars text.toList = text.toList := by
      have same := congrArg String.toList trimmed
      rwa [trim, String.toList_ofList] at same
    have something : text.toList ≠ [] := fun empty => nonempty (String.toList_eq_nil_iff.mp empty)
    obtain ⟨double, number⟩ := Option.isSome_iff_exists.mp finite
    have read := number
    rw [numberOf?, chars, literalOf?_decimal something plain] at read
    obtain ⟨value, decimal, nearest⟩ := Option.bind_eq_some_iff.mp read
    exact ⟨value, decimal, double, nearest, number⟩

end AgentOps.Lib
