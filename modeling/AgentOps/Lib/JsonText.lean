import AgentOps.Lib.JsonValue
import Mathlib.Data.List.TakeWhile
import Mathlib.Tactic.IntervalCases

namespace AgentOps.Lib

/-! # JSON text -/

namespace Json

def hexDigit (n : Nat) : Char := if n < 10 then Char.ofNat (48 + n) else Char.ofNat (87 + n)

/-- How `JSON.stringify` writes a character of a string -/
def escapeChar (c : Char) : List Char :=
  if c = '"' then ['\\', '"']
  else if c = '\\' then ['\\', '\\']
  else if c = '\x08' then ['\\', 'b']
  else if c = '\t' then ['\\', 't']
  else if c = '\n' then ['\\', 'n']
  else if c = '\x0c' then ['\\', 'f']
  else if c = '\r' then ['\\', 'r']
  else if c.toNat < 32 then ['\\', 'u', '0', '0', hexDigit (c.toNat / 16), hexDigit (c.toNat % 16)]
  else [c]

def quote (s : String) : List Char := '"' :: (s.toList.flatMap escapeChar ++ ['"'])

def commasTail : List (List Char) → List Char
  | [] => []
  | text :: texts => ',' :: (text ++ commasTail texts)

/-- `texts.join(',')` -/
def commas : List (List Char) → List Char
  | [] => []
  | text :: texts => text ++ commasTail texts

def fieldText (entry : String × List Char) : List Char := quote entry.1 ++ ':' :: entry.2

mutual

def render : Json → List Char
  | .null => ['n', 'u', 'l', 'l']
  | .bool true => ['t', 'r', 'u', 'e']
  | .bool false => ['f', 'a', 'l', 's', 'e']
  | .number rendered => rendered.toList
  | .string value => quote value
  | .array items => '[' :: (commas (renderItems items) ++ [']'])
  | .object fields => '\x7b' :: (commas ((renderFields fields).map fieldText) ++ ['\x7d'])

def renderItems : List Json → List (List Char)
  | [] => []
  | item :: items => item.render :: renderItems items

def renderFields : JsonObject → List (String × List Char)
  | [] => []
  | (name, value) :: fields => (name, value.render) :: renderFields fields

end

theorem renderItems_eq (items : List Json) : renderItems items = items.map render := by
  induction items with
  | nil => rfl
  | cons item items ih => rw [renderItems, ih, List.map_cons]

theorem renderFields_eq (fields : JsonObject) :
    renderFields fields = fields.map fun entry => (entry.1, entry.2.render) := by
  induction fields with
  | nil => rfl
  | cons entry fields ih => rw [renderFields, ih, List.map_cons]

def isNumberChar (c : Char) : Bool := c.isDigit || c = '-' || c = '+' || c = '.' || c = 'e'

def numberText : Json → Bool
  | .number rendered => !rendered.toList.isEmpty && rendered.toList.all isNumberChar
  | _ => true

def Numbers (v : Json) : Prop := v.all numberText = true

instance (v : Json) : Decidable v.Numbers := inferInstanceAs (Decidable (_ = true))

theorem numberText_ofKeys : OfKeys numberText := ⟨fun _ _ => rfl, fun _ _ _ => rfl⟩

theorem numbers_array {items : List Json} : Numbers (.array items) ↔ ∀ item ∈ items, item.Numbers := by
  simp [Numbers, all_array_iff, numberText]

theorem numbers_object {fields : JsonObject} : Numbers (.object fields) ↔ ∀ entry ∈ fields, entry.2.Numbers := by
  simp [Numbers, all_object_iff, numberText]

def Ends (rest : List Char) : Prop := ∀ c ∈ rest.head?, isNumberChar c = false

theorem ends_cons {c : Char} (rest : List Char) (other : isNumberChar c = false) : Ends (c :: rest) := by
  simpa [Ends] using other

def decodeChar : List Char → Option (Char × List Char)
  | '\\' :: '"' :: cs => some ('"', cs)
  | '\\' :: '\\' :: cs => some ('\\', cs)
  | '\\' :: 'b' :: cs => some ('\x08', cs)
  | '\\' :: 't' :: cs => some ('\t', cs)
  | '\\' :: 'n' :: cs => some ('\n', cs)
  | '\\' :: 'f' :: cs => some ('\x0c', cs)
  | '\\' :: 'r' :: cs => some ('\r', cs)
  | '\\' :: 'u' :: '0' :: '0' :: high :: low :: cs =>
    let digit (c : Char) := if c.isDigit then c.toNat - 48 else c.toNat - 87
    some (Char.ofNat (16 * digit high + digit low), cs)
  | c :: cs => some (c, cs)
  | [] => none

theorem decode_escapeChar (c : Char) (rest : List Char) : decodeChar (escapeChar c ++ rest) = some (c, rest) := by
  by_cases control : c.toNat < 32
  · have known : c = Char.ofNat c.toNat := (Char.ofNat_toNat c).symm
    generalize c.toNat = n at control known
    subst known
    interval_cases n <;> rfl
  · unfold escapeChar
    split_ifs
    all_goals first | (subst_vars; rfl) | skip
    rename_i plain _ _ _ _ _ _
    rw [List.singleton_append]
    unfold decodeChar
    split <;> simp_all

theorem escapeChar_head (c : Char) (rest : List Char) : (escapeChar c ++ rest).head? ≠ some '"' := by
  unfold escapeChar
  split_ifs <;> simp_all

theorem escaped_inj {s s' rest rest' : List Char}
    (same : s.flatMap escapeChar ++ '"' :: rest = s'.flatMap escapeChar ++ '"' :: rest') : s = s' ∧ rest = rest' := by
  induction s generalizing s' with
  | nil =>
    cases s' with
    | nil => simpa using same
    | cons c' s' =>
      rw [List.flatMap_nil, List.nil_append, List.flatMap_cons, List.append_assoc] at same
      exact absurd (congrArg List.head? same).symm (escapeChar_head c' _)
  | cons c s ih =>
    cases s' with
    | nil =>
      rw [List.flatMap_nil, List.nil_append, List.flatMap_cons, List.append_assoc] at same
      exact absurd (congrArg List.head? same) (escapeChar_head c _)
    | cons c' s' =>
      rw [List.flatMap_cons, List.append_assoc, List.flatMap_cons, List.append_assoc] at same
      have decoded := congrArg decodeChar same
      rw [decode_escapeChar, decode_escapeChar, Option.some.injEq, Prod.mk.injEq] at decoded
      obtain ⟨rfl, rest⟩ := ih decoded.2
      exact ⟨by rw [decoded.1], rest⟩

theorem quote_inj {s s' : String} {rest rest' : List Char} (same : quote s ++ rest = quote s' ++ rest') :
    s = s' ∧ rest = rest' := by
  simp only [quote, List.cons_append, List.append_assoc, List.cons.injEq, true_and, List.nil_append] at same
  obtain ⟨chars, rest⟩ := escaped_inj same
  exact ⟨String.toList_injective chars, rest⟩

theorem number_inj {t t' rest rest' : List Char} (number : t.all isNumberChar = true)
    (number' : t'.all isNumberChar = true) (ends : Ends rest) (ends' : Ends rest') (same : t ++ rest = t' ++ rest') :
    t = t' ∧ rest = rest' := by
  have taken {t rest : List Char} (number : t.all isNumberChar = true) (ends : Ends rest) :
      (t ++ rest).takeWhile isNumberChar = t := by
    rw [List.takeWhile_append_of_pos (List.all_eq_true.mp number)]
    cases rest with
    | nil => simp
    | cons c rest =>
      have other : isNumberChar c = false := by simpa [Ends] using ends
      simp [other]
  have prefixes := taken number ends
  rw [same, taken number' ends'] at prefixes
  subst prefixes
  exact ⟨rfl, List.append_cancel_left same⟩

section Lists

variable {α : Type} {text : α → List Char} {as bs : List α} {closing : Char}

def Readable (text : α → List Char) (a b : α) : Prop :=
  ∀ rest rest', Ends rest → Ends rest' → text a ++ rest = text b ++ rest' → a = b ∧ rest = rest'

theorem commasTail_ends (texts : List (List Char)) (rest : List Char) (closes : isNumberChar closing = false) :
    Ends (commasTail texts ++ closing :: rest) := by
  cases texts with
  | nil => exact ends_cons _ closes
  | cons text texts => exact ends_cons _ (by decide)

theorem commasTail_inj (readable : ∀ a ∈ as, ∀ b ∈ bs, Readable text a b) (closes : isNumberChar closing = false)
    (other : closing ≠ ',') {rest rest' : List Char}
    (same : commasTail (as.map text) ++ closing :: rest = commasTail (bs.map text) ++ closing :: rest') :
    as = bs ∧ rest = rest' := by
  induction as generalizing bs with
  | nil =>
    cases bs with
    | nil => simpa [commasTail] using same
    | cons b bs => simp [commasTail, other] at same
  | cons a as ih =>
    cases bs with
    | nil => simp [commasTail, other.symm] at same
    | cons b bs =>
      simp only [List.map_cons, commasTail, List.cons_append, List.append_assoc, List.cons.injEq, true_and] at same
      obtain ⟨rfl, following⟩ := readable a (by simp) b (by simp) _ _ (commasTail_ends _ _ closes)
        (commasTail_ends _ _ closes) same
      obtain ⟨rfl, rest⟩ := ih (fun a member b member' => readable a (List.mem_cons_of_mem _ member) b
        (List.mem_cons_of_mem _ member')) following
      exact ⟨rfl, rest⟩

theorem commas_inj (readable : ∀ a ∈ as, ∀ b ∈ bs, Readable text a b)
    (starts : ∀ a ∈ as ++ bs, ∀ rest, (text a ++ rest).head? ≠ some closing) (closes : isNumberChar closing = false)
    (other : closing ≠ ',') {rest rest' : List Char}
    (same : commas (as.map text) ++ closing :: rest = commas (bs.map text) ++ closing :: rest') :
    as = bs ∧ rest = rest' := by
  cases as with
  | nil =>
    cases bs with
    | nil => simpa [commas] using same
    | cons b bs =>
      rw [List.map_nil, commas, List.map_cons, commas, List.append_assoc] at same
      exact absurd (congrArg List.head? same).symm (starts b (by simp) _)
  | cons a as =>
    cases bs with
    | nil =>
      rw [List.map_nil, commas, List.map_cons, commas, List.append_assoc] at same
      exact absurd (congrArg List.head? same) (starts a (by simp) _)
    | cons b bs =>
      rw [List.map_cons, commas, List.append_assoc, List.map_cons, commas, List.append_assoc] at same
      obtain ⟨rfl, following⟩ := readable a (by simp) b (by simp) _ _ (commasTail_ends _ _ closes)
        (commasTail_ends _ _ closes) same
      obtain ⟨rfl, rest⟩ := commasTail_inj (fun a member b member' => readable a (List.mem_cons_of_mem _ member) b
        (List.mem_cons_of_mem _ member')) closes other following
      exact ⟨rfl, rest⟩

end Lists

def initial : Json → Char
  | .null => 'n'
  | .bool true => 't'
  | .bool false => 'f'
  | .number _ => '0'
  | .string _ => '"'
  | .array _ => '['
  | .object _ => '\x7b'

def initialOf (c : Char) : Char := if isNumberChar c then '0' else c

theorem render_head {v : Json} (numbers : v.Numbers) (rest : List Char) :
    (v.render ++ rest).head?.map initialOf = some v.initial := by
  cases v with
  | bool value => cases value <;> rfl
  | number rendered =>
    simp only [Numbers, all, numberText, Bool.and_eq_true, Bool.not_eq_true', List.all_eq_true] at numbers
    rw [render]
    cases chars : rendered.toList with
    | nil => simp [chars] at numbers
    | cons c cs =>
      have digit : isNumberChar c = true := numbers.2 c (by simp [chars])
      simp [initialOf, digit, initial]
  | null | string | array | object => rfl

theorem initial_eq {v v' : Json} (numbers : v.Numbers) (numbers' : v'.Numbers) {rest rest' : List Char}
    (same : v.render ++ rest = v'.render ++ rest') : v.initial = v'.initial := by
  have heads := congrArg (fun text => text.head?.map initialOf) same
  rw [render_head numbers, render_head numbers'] at heads
  exact Option.some.inj heads

theorem render_ne_closing {v : Json} (numbers : v.Numbers) {closing : Char} (closes : closing = ']' ∨ closing = '\x7d')
    (rest : List Char) : (v.render ++ rest).head? ≠ some closing := by
  intro head
  have first := render_head numbers rest
  rw [head, Option.map_some, Option.some.injEq] at first
  have self : initialOf closing = closing := by rcases closes with rfl | rfl <;> decide
  rw [self] at first
  rcases closes with rfl | rfl
  all_goals
    cases v with
    | bool value => cases value <;> simp [initial] at first
    | null | number | string | array | object => simp [initial] at first

theorem render_readable {v : Json} (numbers : v.Numbers) {v' : Json} (numbers' : v'.Numbers) :
    Readable render v v' := by
  intro rest rest' ends ends' same
  have initials := initial_eq numbers numbers' same
  induction v using ind generalizing v' rest rest' with
  | null =>
    cases v' with
    | null => simpa [render] using same
    | bool value => cases value <;> simp [initial] at initials
    | number | string | array | object => simp [initial] at initials
  | bool value =>
    cases v' with
    | bool value' =>
      cases value <;> cases value'
      · simpa [render] using same
      · simp [initial] at initials
      · simp [initial] at initials
      · simpa [render] using same
    | null | number | string | array | object => cases value <;> simp [initial] at initials
  | number rendered =>
    cases v' with
    | number rendered' =>
      simp only [Numbers, all, numberText, Bool.and_eq_true] at numbers numbers'
      obtain ⟨chars, following⟩ := number_inj numbers.2 numbers'.2 ends ends' same
      exact ⟨congrArg _ (String.toList_injective chars), following⟩
    | bool value => cases value <;> simp [initial] at initials
    | null | string | array | object => simp [initial] at initials
  | string value =>
    cases v' with
    | string value' =>
      obtain ⟨values, following⟩ := quote_inj same
      exact ⟨congrArg _ values, following⟩
    | bool value => cases value <;> simp [initial] at initials
    | null | number | array | object => simp [initial] at initials
  | array items ih =>
    cases v' with
    | array items' =>
      rw [numbers_array] at numbers numbers'
      simp only [render, renderItems_eq, List.cons_append, List.append_assoc, List.cons.injEq, true_and,
        List.nil_append] at same
      have readable : ∀ item ∈ items, ∀ item' ∈ items', Readable render item item' := by
        intro item member item' member' rest rest' ends ends' same
        exact ih item member (numbers item member) (numbers' item' member') rest rest' ends ends' same
          (initial_eq (numbers item member) (numbers' item' member') same)
      have starts : ∀ item ∈ items ++ items', ∀ rest, (item.render ++ rest).head? ≠ some ']' := by
        intro item member rest
        rcases List.mem_append.mp member with member | member
        · exact render_ne_closing (numbers item member) (.inl rfl) rest
        · exact render_ne_closing (numbers' item member) (.inl rfl) rest
      obtain ⟨rfl, following⟩ := commas_inj readable starts (by decide) (by decide) same
      exact ⟨rfl, following⟩
    | bool value => cases value <;> simp [initial] at initials
    | null | number | string | object => simp [initial] at initials
  | object fields ih =>
    cases v' with
    | object fields' =>
      rw [numbers_object] at numbers numbers'
      simp only [render, renderFields_eq, List.map_map, List.cons_append, List.append_assoc, List.cons.injEq, true_and,
        List.nil_append] at same
      have readable : ∀ entry ∈ fields, ∀ entry' ∈ fields',
          Readable (fieldText ∘ fun entry => (entry.1, entry.2.render)) entry entry' := by
        intro entry member entry' member' rest rest' ends ends' same
        simp only [Function.comp_apply, fieldText, List.append_assoc, List.cons_append] at same
        obtain ⟨names, rest⟩ := quote_inj same
        have values := (List.cons.inj rest).2
        obtain ⟨values, following⟩ := ih entry member (numbers entry member) (numbers' entry' member') _ _
          ends ends' values (initial_eq (numbers entry member) (numbers' entry' member') values)
        exact ⟨Prod.ext names values, following⟩
      have starts : ∀ entry ∈ fields ++ fields', ∀ rest,
          ((fieldText ∘ fun entry => (entry.1, entry.2.render)) entry ++ rest).head? ≠ some '\x7d' := by
        intro entry _ rest
        simp [fieldText, quote]
      obtain ⟨rfl, following⟩ := commas_inj readable starts (by decide) (by decide) same
      exact ⟨rfl, following⟩
    | bool value => cases value <;> simp [initial] at initials
    | null | number | string | array => simp [initial] at initials

/-- A text is the text of one value only. -/
theorem render_inj {v v' : Json} (numbers : v.Numbers) (numbers' : v'.Numbers) (same : v.render = v'.render) :
    v = v' := by
  have nothing : Ends [] := by simp [Ends]
  have padded : v.render ++ [] = v'.render ++ [] := by rw [same]
  exact (render_readable numbers numbers' [] [] nothing nothing padded).1

end Json

end AgentOps.Lib
