import AgentOps.Lib.HostJson

namespace AgentOps.Lib.HostJson

/-! # Texts of JSON values, and reading them back -/

def unicodeEscape (n : Nat) : List Char :=
  ['\\', 'u', Json.hexDigit (n / 4096), Json.hexDigit (n / 256 % 16), Json.hexDigit (n / 16 % 16), Json.hexDigit (n % 16)]

def characterText : CodePoint → List Char
  | .scalar c =>
    if c = '"' then ['\\', '"']
    else if c = '\\' then ['\\', '\\']
    else if c = '\x08' then ['\\', 'b']
    else if c = '\x0c' then ['\\', 'f']
    else if c = '\n' then ['\\', 'n']
    else if c = '\r' then ['\\', 'r']
    else if c = '\t' then ['\\', 't']
    else if c.toNat ≤ 0x1f then unicodeEscape c.toNat
    else [c]
  | .surrogate u => unicodeEscape u.toNat

def quote (value : CodeUnits) : List Char := '"' :: ((characters value).flatMap characterText ++ ['"'])

def fieldText (entry : CodeUnits × List Char) : List Char := quote entry.1 ++ ':' :: entry.2

mutual

def text : HostJson → List Char
  | .null => ['n', 'u', 'l', 'l']
  | .bool true => ['t', 'r', 'u', 'e']
  | .bool false => ['f', 'a', 'l', 's', 'e']
  | .number value => value.text
  | .infinity _ => ['n', 'u', 'l', 'l']
  | .string value => quote value
  | .array items => '[' :: (Json.commas (itemTexts items) ++ [']'])
  | .object fields => '\x7b' :: (Json.commas ((entryTexts fields).map fieldText) ++ ['\x7d'])

def itemTexts : List HostJson → List (List Char)
  | [] => []
  | item :: items => item.text :: itemTexts items

def entryTexts : HostFields → List (CodeUnits × List Char)
  | [] => []
  | (key, value) :: fields => (key, value.text) :: entryTexts fields

end

def entryText (entry : CodeUnits × HostJson) : CodeUnits × List Char := (entry.1, entry.2.text)

theorem itemTexts_eq (items : List HostJson) : itemTexts items = items.map text := by
  induction items with
  | nil => rfl
  | cons item items ih => rw [itemTexts, ih, List.map_cons]

theorem entryTexts_eq (fields : HostFields) : entryTexts fields = fields.map entryText := by
  induction fields with
  | nil => rfl
  | cons entry fields ih => rw [entryTexts, ih, List.map_cons, entryText]

def unescaped? (c : Char) : Option Char :=
  if c = '"' ∨ c = '\\' ∨ c = '/' then some c
  else if c = 'b' then some '\x08'
  else if c = 'f' then some '\x0c'
  else if c = 'n' then some '\n'
  else if c = 'r' then some '\r'
  else if c = 't' then some '\t'
  else none

def hexUnit? (a b c d : Char) : Option UInt16 :=
  ([a, b, c, d].mapM (digitOf? 16)).map fun digits => UInt16.ofNat (digits.foldl (fun n digit => 16 * n + digit) 0)

def prepend (front : CodeUnits) : Option (CodeUnits × List Char) → Option (CodeUnits × List Char) :=
  Option.map fun read => (front ++ read.1, read.2)

def parseString : List Char → Option (CodeUnits × List Char)
  | [] => none
  | '"' :: rest => some ([], rest)
  | '\\' :: 'u' :: a :: b :: c :: d :: rest => (hexUnit? a b c d).bind fun unit => prepend [unit] (parseString rest)
  | '\\' :: c :: rest => (unescaped? c).bind fun c => prepend (CodePoint.scalar c).units (parseString rest)
  | c :: rest => if c.toNat ≤ 0x1f ∨ c = '\\' then none else prepend (CodePoint.scalar c).units (parseString rest)

def isBlank (c : Char) : Bool := c = ' ' || c = '\t' || c = '\n' || c = '\r'

def skipBlanks (cs : List Char) : List Char := cs.dropWhile isBlank

/-- A number beyond the doubles is an infinity. -/
def ofRat (q : ℚ) : HostJson := ((Double.ofRat? q).map HostJson.number).getD (.infinity (q < 0))

def parseNumber (cs : List Char) : Option (HostJson × List Char) :=
  (jsonNumber? (cs.takeWhile isNumberChar)).map fun q => (ofRat q, cs.dropWhile isNumberChar)

/-- A key again overwrites its value. -/
def setField (fields : HostFields) (entry : CodeUnits × HostJson) : HostFields :=
  if entry.1 ∈ fields.map Prod.fst then fields.map fun field => if field.1 = entry.1 then entry else field
  else fields ++ [entry]

mutual

def parseValue : Nat → List Char → Option (HostJson × List Char)
  | 0, _ => none
  | fuel + 1, cs =>
    match skipBlanks cs with
    | [] => none
    | c :: rest =>
      if c = '"' then (parseString rest).map fun read => (.string read.1, read.2)
      else if c = '[' then
        match skipBlanks rest with
        | ']' :: rest => some (.array [], rest)
        | rest => (parseItems fuel rest).map fun read => (.array read.1, read.2)
      else if c = '\x7b' then
        match skipBlanks rest with
        | '\x7d' :: rest => some (.object [], rest)
        | rest => (parseFields fuel rest).map fun read => (.object (read.1.foldl setField []), read.2)
      else if isNumberChar c then parseNumber (c :: rest)
      else
        match c :: rest with
        | 'n' :: 'u' :: 'l' :: 'l' :: rest => some (.null, rest)
        | 't' :: 'r' :: 'u' :: 'e' :: rest => some (.bool true, rest)
        | 'f' :: 'a' :: 'l' :: 's' :: 'e' :: rest => some (.bool false, rest)
        | _ => none

def parseItems : Nat → List Char → Option (List HostJson × List Char)
  | 0, _ => none
  | fuel + 1, cs =>
    match parseValue fuel cs with
    | none => none
    | some (item, rest) =>
      match skipBlanks rest with
      | ',' :: rest => (parseItems fuel rest).map fun read => (item :: read.1, read.2)
      | ']' :: rest => some ([item], rest)
      | _ => none

def parseFields : Nat → List Char → Option (HostFields × List Char)
  | 0, _ => none
  | fuel + 1, cs =>
    match skipBlanks cs with
    | '"' :: rest =>
      match parseString rest with
      | none => none
      | some (key, rest) =>
        match skipBlanks rest with
        | ':' :: rest =>
          match parseValue fuel rest with
          | none => none
          | some (value, rest) =>
            match skipBlanks rest with
            | ',' :: rest => (parseFields fuel rest).map fun read => ((key, value) :: read.1, read.2)
            | '\x7d' :: rest => some ([(key, value)], rest)
            | _ => none
        | _ => none
    | _ => none

end

/-- `JSON.parse`. A value takes a character at least, so as many steps as there are characters are enough. -/
def parse (cs : List Char) : Option HostJson :=
  match parseValue cs.length cs with
  | some (v, rest) => if (skipBlanks rest).isEmpty then some v else none
  | none => none

theorem digitOf?_hexDigit {d : Nat} (bound : d < 16) : digitOf? 16 (Json.hexDigit d) = some d := by
  interval_cases d <;> rfl

theorem hexUnit?_escape {n : Nat} (bound : n < 65536) :
    hexUnit? (Json.hexDigit (n / 4096)) (Json.hexDigit (n / 256 % 16)) (Json.hexDigit (n / 16 % 16)) (Json.hexDigit (n % 16)) =
      some (UInt16.ofNat n) := by
  have digits : 16 * (16 * (16 * (16 * 0 + n / 4096) + n / 256 % 16) + n / 16 % 16) + n % 16 = n := by omega
  simp only [hexUnit?, List.mapM_cons, List.mapM_nil, digitOf?_hexDigit (show n / 4096 < 16 by omega),
    digitOf?_hexDigit (Nat.mod_lt _ (by decide : 16 > 0)), Option.pure_def, Option.bind_eq_bind, Option.bind_some,
    Option.map_some, List.foldl_cons, List.foldl_nil, digits]

theorem parseString_unicode {n : Nat} (bound : n < 65536) (rest : List Char) :
    parseString (unicodeEscape n ++ rest) = prepend [UInt16.ofNat n] (parseString rest) := by
  simp only [unicodeEscape, List.cons_append, List.nil_append, parseString, hexUnit?_escape bound, Option.bind_some]

theorem parseString_plain {c : Char} (printed : ¬c.toNat ≤ 0x1f) (unquoted : c ≠ '"') (unescaped : c ≠ '\\') (rest : List Char) :
    parseString (c :: rest) = prepend (CodePoint.scalar c).units (parseString rest) := by
  rw [parseString]
  · simp [printed, unescaped]
  · exact unquoted
  · rintro _ _ _ _ _ rfl
    exact absurd rfl unescaped
  · rintro _ _ rfl
    exact absurd rfl unescaped

theorem parseString_character (p : CodePoint) (rest : List Char) :
    parseString (characterText p ++ rest) = prepend p.units (parseString rest) := by
  cases p with
  | surrogate u =>
    rw [characterText, parseString_unicode u.toNat_lt, UInt16.ofNat_toNat]
    rfl
  | scalar c =>
    simp only [characterText]
    split_ifs with quote backslash b f n r t control
    · subst quote; rfl
    · subst backslash; rfl
    · subst b; rfl
    · subst f; rfl
    · subst n; rfl
    · subst r; rfl
    · subst t; rfl
    · rw [parseString_unicode (by omega)]
      congr 1
      rw [CodePoint.units, if_pos (by omega)]
    · exact parseString_plain control quote backslash rest

theorem parseString_characters (ps : List CodePoint) (rest : List Char) :
    parseString (ps.flatMap characterText ++ '"' :: rest) = some (ps.flatMap CodePoint.units, rest) := by
  induction ps with
  | nil => rfl
  | cons p ps ih =>
    rw [List.flatMap_cons, List.append_assoc, parseString_character, ih, List.flatMap_cons]
    rfl

theorem parseString_quote (value : CodeUnits) (rest : List Char) :
    parseString ((characters value).flatMap characterText ++ '"' :: rest) = some (value, rest) := by
  rw [parseString_characters, units_characters]

def Stops (rest : List Char) : Prop := ∀ c ∈ rest.head?, isNumberChar c = false

theorem stops_cons {c : Char} (other : isNumberChar c = false) (rest : List Char) : Stops (c :: rest) := by
  simpa [Stops] using other

theorem skipBlanks_cons {c : Char} (visible : isBlank c = false) (rest : List Char) : skipBlanks (c :: rest) = c :: rest := by
  simp [skipBlanks, visible]

theorem numberChar_visible {c : Char} (number : isNumberChar c = true) :
    isBlank c = false ∧ c ≠ ']' ∧ c ≠ '"' ∧ c ≠ '[' ∧ c ≠ '\x7b' := by
  refine ⟨?_, ?_, ?_, ?_, ?_⟩
  · by_contra blank
    simp only [isBlank, Bool.not_eq_false, Bool.or_eq_true, decide_eq_true_eq] at blank
    rcases blank with ((rfl | rfl) | rfl) | rfl <;> cases number
  all_goals
    rintro rfl
    cases number

theorem number_head (x : Double) : ∃ c cs, x.text = c :: cs ∧ isNumberChar c = true := by
  cases chars : x.text with
  | nil => exact absurd chars Double.text_nonempty
  | cons c cs => exact ⟨c, cs, rfl, @Double.isNumberChar_text x c (by simp [chars])⟩

theorem text_head (v : HostJson) : ∃ c cs, v.text = c :: cs ∧ isBlank c = false ∧ c ≠ ']' := by
  cases v with
  | null => exact ⟨_, _, rfl, rfl, by decide⟩
  | bool value => cases value <;> exact ⟨_, _, rfl, rfl, by decide⟩
  | number value =>
    obtain ⟨c, cs, chars, number⟩ := number_head value
    have visible := numberChar_visible number
    exact ⟨c, cs, chars, visible.1, visible.2.1⟩
  | infinity | string | array | object => exact ⟨_, _, rfl, rfl, by decide⟩

theorem parseNumber_text (x : Double) {rest : List Char} (stops : Stops rest) :
    parseNumber (x.text ++ rest) = some (.number x, rest) := by
  have all := @Double.isNumberChar_text x
  have taken : (x.text ++ rest).takeWhile isNumberChar = x.text ∧ (x.text ++ rest).dropWhile isNumberChar = rest := by
    rw [List.takeWhile_append_of_pos all, List.dropWhile_append_of_pos all]
    cases rest with
    | nil => simp
    | cons c cs =>
      have stop : isNumberChar c = false := stops c (by simp)
      simp [stop]
  obtain ⟨q, read, denotes⟩ := Option.bind_eq_some_iff.mp (@Double.text_denotes x)
  rw [parseNumber, taken.1, taken.2, read, Option.map_some, ofRat, denotes]
  rfl

def Reads (v : HostJson) : Prop :=
  ∀ fuel rest, v.text.length ≤ fuel → Stops rest → parseValue fuel (v.text ++ rest) = some (v, rest)

theorem commas_cons_cons (first second : List Char) (texts : List (List Char)) :
    Json.commas (first :: second :: texts) = first ++ ',' :: Json.commas (second :: texts) := rfl

theorem commas_single (text : List Char) : Json.commas [text] = text := List.append_nil text

theorem parseItems_text {item : HostJson} {items : List HostJson} (reads : ∀ v ∈ item :: items, Reads v) (fuel : Nat)
    (rest : List Char) (enough : (Json.commas ((item :: items).map text)).length + 1 ≤ fuel) :
    parseItems fuel (Json.commas ((item :: items).map text) ++ ']' :: rest) = some (item :: items, rest) := by
  induction items generalizing item fuel with
  | nil =>
    obtain ⟨fuel, rfl⟩ := Nat.exists_eq_add_one.mpr (show 0 < fuel by omega)
    simp only [List.map_cons, List.map_nil, commas_single] at enough ⊢
    rw [parseItems, reads item (by simp) fuel _ (by omega) (stops_cons rfl _)]
    rfl
  | cons second items ih =>
    obtain ⟨fuel, rfl⟩ := Nat.exists_eq_add_one.mpr (show 0 < fuel by omega)
    simp only [List.map_cons, commas_cons_cons, List.length_append, List.length_cons] at enough
    simp only [List.map_cons, commas_cons_cons, List.append_assoc, List.cons_append]
    have following := ih (fun v member => reads v (List.mem_cons_of_mem _ member)) fuel (by simp only [List.map_cons]; omega)
    rw [parseItems, reads item (by simp) fuel _ (by omega) (stops_cons rfl _)]
    simp only [skipBlanks_cons (show isBlank ',' = false from rfl)]
    simp only [List.map_cons] at following
    rw [following]
    rfl

theorem parseFields_one {fuel : Nat} {key : CodeUnits} {value : HostJson} (reads : Reads value) {rest : List Char}
    (enough : value.text.length ≤ fuel) (stops : Stops rest) :
    parseFields (fuel + 1) (fieldText (entryText (key, value)) ++ rest) =
      match skipBlanks rest with
      | ',' :: rest => (parseFields fuel rest).map fun read => ((key, value) :: read.1, read.2)
      | '\x7d' :: rest => some ([(key, value)], rest)
      | _ => none := by
  simp only [fieldText, entryText, quote, List.cons_append, List.append_assoc, List.nil_append]
  rw [parseFields]
  simp only [skipBlanks_cons (show isBlank '"' = false from rfl), parseString_quote,
    skipBlanks_cons (show isBlank ':' = false from rfl), reads fuel rest enough stops]

theorem parseFields_text {entry : CodeUnits × HostJson} {fields : HostFields} (reads : ∀ entry' ∈ entry :: fields, Reads entry'.2)
    (fuel : Nat) (rest : List Char)
    (enough : (Json.commas ((entry :: fields).map fun entry => fieldText (entryText entry))).length + 1 ≤ fuel) :
    parseFields fuel (Json.commas ((entry :: fields).map fun entry => fieldText (entryText entry)) ++ '\x7d' :: rest) =
      some (entry :: fields, rest) := by
  have shorter (entry : CodeUnits × HostJson) : entry.2.text.length ≤ (fieldText (entryText entry)).length := by
    simp only [fieldText, entryText, List.length_append, List.length_cons]
    omega
  induction fields generalizing entry fuel with
  | nil =>
    obtain ⟨fuel, rfl⟩ := Nat.exists_eq_add_one.mpr (show 0 < fuel by omega)
    simp only [List.map_cons, List.map_nil, commas_single] at enough ⊢
    have room := shorter entry
    rw [parseFields_one (reads entry (by simp)) (by omega) (stops_cons rfl _)]
    rfl
  | cons second fields ih =>
    obtain ⟨fuel, rfl⟩ := Nat.exists_eq_add_one.mpr (show 0 < fuel by omega)
    simp only [List.map_cons, commas_cons_cons, List.length_append, List.length_cons] at enough
    simp only [List.map_cons, commas_cons_cons, List.append_assoc, List.cons_append]
    have room := shorter entry
    have following := ih (fun v member => reads v (List.mem_cons_of_mem _ member)) fuel (by simp only [List.map_cons]; omega)
    simp only [List.map_cons] at following
    rw [parseFields_one (reads entry (by simp)) (by omega) (stops_cons rfl _)]
    simp only [skipBlanks_cons (show isBlank ',' = false from rfl)]
    rw [following]
    rfl

theorem foldl_setField {known fields : HostFields} (distinct : ((known ++ fields).map Prod.fst).Nodup) :
    fields.foldl setField known = known ++ fields := by
  induction fields generalizing known with
  | nil => exact (List.append_nil known).symm
  | cons entry fields ih =>
    have fresh : entry.1 ∉ known.map Prod.fst := by
      rw [List.map_append, List.nodup_append] at distinct
      intro member
      exact distinct.2.2 _ member _ (by simp) rfl
    have step : setField known entry = known ++ [entry] := if_neg fresh
    rw [List.foldl_cons, step, ih (by simpa using distinct), List.append_assoc]
    rfl

theorem parseValue_array {fuel : Nat} {c : Char} {rest : List Char} (visible : isBlank c = false) (other : c ≠ ']') :
    parseValue (fuel + 1) ('[' :: c :: rest) = (parseItems fuel (c :: rest)).map fun read => (.array read.1, read.2) := by
  rw [parseValue, skipBlanks_cons (by rfl)]
  simp only [show ('[' = '"') = False by decide, if_false, if_true, skipBlanks_cons visible]
  split
  · rename_i same
    exact absurd (List.cons.inj same).1 other
  · rfl

theorem parseValue_object {fuel : Nat} {c : Char} {rest : List Char} (visible : isBlank c = false) (other : c ≠ '\x7d') :
    parseValue (fuel + 1) ('\x7b' :: c :: rest) =
      (parseFields fuel (c :: rest)).map fun read => (.object (read.1.foldl setField []), read.2) := by
  rw [parseValue, skipBlanks_cons (by rfl)]
  simp only [show ('\x7b' = '"') = False by decide, show ('\x7b' = '[') = False by decide, if_false, if_true,
    skipBlanks_cons visible]
  split
  · rename_i same
    exact absurd (List.cons.inj same).1 other
  · rfl

theorem reads_text {v : HostJson} (plain : v.Plain) : Reads v := by
  induction v using ind with
  | null =>
    intro fuel rest enough _
    obtain ⟨fuel, rfl⟩ := Nat.exists_eq_add_one.mpr (show 0 < fuel by simp [text] at enough; omega)
    rfl
  | bool value =>
    intro fuel rest enough _
    obtain ⟨fuel, rfl⟩ := Nat.exists_eq_add_one.mpr (show 0 < fuel by cases value <;> simp [text] at enough <;> omega)
    cases value <;> rfl
  | number value =>
    intro fuel rest enough stops
    obtain ⟨c, cs, chars, number⟩ := number_head value
    obtain ⟨visible, -, unquoted, noArray, noObject⟩ := numberChar_visible number
    obtain ⟨fuel, rfl⟩ := Nat.exists_eq_add_one.mpr (show 0 < fuel by simp [text, chars] at enough; omega)
    have parsed := parseNumber_text value stops
    rw [text, chars, List.cons_append] at *
    rw [parseValue, skipBlanks_cons visible]
    simp only [unquoted, noArray, noObject, number, if_true, if_false]
    exact parsed
  | infinity => exact plain.elim
  | string value =>
    intro fuel rest enough _
    obtain ⟨fuel, rfl⟩ := Nat.exists_eq_add_one.mpr (show 0 < fuel by simp [text, quote] at enough; omega)
    simp only [text, quote, List.cons_append, List.append_assoc, List.nil_append]
    rw [parseValue, skipBlanks_cons (by rfl)]
    simp only [if_true, parseString_quote, Option.map_some]
  | array items ih =>
    rw [plain_array] at plain
    intro fuel rest enough _
    simp only [text, itemTexts_eq, List.length_cons, List.length_append, List.length_nil] at enough
    obtain ⟨fuel, rfl⟩ := Nat.exists_eq_add_one.mpr (show 0 < fuel by omega)
    simp only [text, itemTexts_eq, List.cons_append, List.append_assoc, List.nil_append]
    cases items with
    | nil => rfl
    | cons item items =>
      have parsed := parseItems_text (fun v member => ih v member (plain v member)) fuel rest (by omega)
      obtain ⟨c, cs, chars, visible, other⟩ := text_head item
      obtain ⟨more, start⟩ : ∃ more, Json.commas ((item :: items).map text) ++ ']' :: rest = c :: more := by
        rw [List.map_cons, chars]
        exact ⟨_, rfl⟩
      rw [start] at parsed ⊢
      rw [parseValue_array visible other, parsed]
      rfl
  | object fields ih =>
    rw [plain_object] at plain
    intro fuel rest enough _
    simp only [text, entryTexts_eq, List.map_map, List.length_cons, List.length_append, List.length_nil] at enough
    obtain ⟨fuel, rfl⟩ := Nat.exists_eq_add_one.mpr (show 0 < fuel by omega)
    simp only [text, entryTexts_eq, List.map_map, List.cons_append, List.append_assoc, List.nil_append]
    cases fields with
    | nil => rfl
    | cons entry fields =>
      have parsed := parseFields_text (fun entry' member => ih entry' member (plain.2 entry' member)) fuel rest
        (Nat.le_of_succ_le_succ enough)
      change parseFields fuel (Json.commas ((entry :: fields).map (fieldText ∘ entryText)) ++ '\x7d' :: rest) = _ at parsed
      have kept : (entry :: fields).foldl setField [] = entry :: fields := foldl_setField plain.1
      obtain ⟨more, start⟩ : ∃ more,
          Json.commas ((entry :: fields).map (fieldText ∘ entryText)) ++ '\x7d' :: rest = '"' :: more := ⟨_, rfl⟩
      rw [start] at parsed ⊢
      rw [parseValue_object (by rfl) (by decide), parsed, Option.map_some, kept]

/-- A text is read back as the value that it was written for. -/
theorem parse_text {v : HostJson} (plain : v.Plain) : parse v.text = some v := by
  have read := reads_text plain v.text.length [] le_rfl (by simp [Stops])
  rw [List.append_nil] at read
  rw [parse, read]
  rfl

example : (match parse "-1e400".toList with | some (.infinity true) => true | _ => false) = true := by decide +kernel

end AgentOps.Lib.HostJson
