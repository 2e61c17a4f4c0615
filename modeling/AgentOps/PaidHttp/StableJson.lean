import AgentOps.Lib.HostJsonText
import AgentOps.PaidHttp.Destinations

namespace AgentOps.PaidHttp
open Lib

/-! # JSON bodies of paid requests -/

def maxPaidHttpBodyBytes : Nat := 256 * 1024

def bodyLimitError : PaidHttpFailure := .rangeError "Paid HTTP body exceeds the 256 KiB decoded limit"

/-- `value.length`, in code units -/
def unitsLength (text : List Char) : Nat := (text.map unitsOf).sum

def encodeInto (space : Nat) : List Char → Nat × List UInt8
  | [] => (0, [])
  | c :: cs =>
    let bytes := String.utf8EncodeChar c
    if bytes.length ≤ space then
      let rest := encodeInto (space - bytes.length) cs
      (unitsOf c + rest.1, bytes ++ rest.2)
    else (0, [])

theorem encodeInto_length {space : Nat} {text : List Char} : (encodeInto space text).2.length ≤ space := by
  induction text generalizing space with
  | nil => exact Nat.zero_le space
  | cons c cs ih =>
    rw [encodeInto]
    split
    · have rest := @ih (space - (String.utf8EncodeChar c).length)
      simp only [List.length_append]
      omega
    · exact Nat.zero_le space

structure BoundedUtf8Writer where
  bytes : List UInt8
  fits : bytes.length ≤ maxPaidHttpBodyBytes

namespace BoundedUtf8Writer

def empty : BoundedUtf8Writer := ⟨[], Nat.zero_le _⟩

def space (writer : BoundedUtf8Writer) : Nat := maxPaidHttpBodyBytes - writer.bytes.length

theorem append_fits (writer : BoundedUtf8Writer) (value : List Char) :
    (writer.bytes ++ (encodeInto writer.space value).2).length ≤ maxPaidHttpBodyBytes := by
  have written := @encodeInto_length writer.space value
  have fits := writer.fits
  rw [List.length_append]
  unfold space at written ⊢
  omega

def append (writer : BoundedUtf8Writer) (value : List Char) : Except PaidHttpFailure BoundedUtf8Writer :=
  if unitsLength value > writer.space then .error bodyLimitError
  else if (encodeInto writer.space value).1 ≠ unitsLength value then .error bodyLimitError
  else .ok ⟨writer.bytes ++ (encodeInto writer.space value).2, writer.append_fits value⟩

end BoundedUtf8Writer

abbrev Serializer := BoundedUtf8Writer → Except PaidHttpFailure BoundedUtf8Writer

/-- `padStart(4, '0')` of the hexadecimal digits -/
def paddedHex (codePoint : Nat) : List Char :=
  let digits := Nat.toDigits 16 codePoint
  List.replicate (4 - digits.length) '0' ++ digits

def appendCharacter (character : CodePoint) : Serializer := fun writer =>
  match character with
  | .scalar c =>
    if c = '"' then writer.append ['\\', '"']
    else if c = '\\' then writer.append ['\\', '\\']
    else if c = '\x08' then writer.append ['\\', 'b']
    else if c = '\x0c' then writer.append ['\\', 'f']
    else if c = '\n' then writer.append ['\\', 'n']
    else if c = '\r' then writer.append ['\\', 'r']
    else if c = '\t' then writer.append ['\\', 't']
    else if c.toNat ≤ 0x1f then writer.append ('\\' :: 'u' :: paddedHex c.toNat)
    else writer.append [c]
  | .surrogate u => writer.append ('\\' :: 'u' :: paddedHex u.toNat)

def appendCharacters : List CodePoint → Serializer
  | [], writer => .ok writer
  | character :: rest, writer => (appendCharacter character writer).bind (appendCharacters rest)

def appendJsonString (value : CodeUnits) : Serializer := fun writer =>
  ((writer.append ['"']).bind (appendCharacters (characters value))).bind (·.append ['"'])

def separate (written : Nat) : Serializer := fun writer => if written > 0 then writer.append [','] else .ok writer

def serializeItems (index : Nat) : List Serializer → Serializer
  | [], writer => .ok writer
  | item :: items, writer => ((separate index writer).bind item).bind (serializeItems (index + 1) items)

def serializeEntries (writtenProperties : Nat) : List (CodeUnits × Serializer) → Serializer
  | [], writer => .ok writer
  | (entryKey, value) :: entries, writer =>
    ((((separate writtenProperties writer).bind (appendJsonString entryKey)).bind (·.append [':'])).bind value).bind
      (serializeEntries (writtenProperties + 1) entries)

mutual

/-- A JSON value is a tree of plain data: no part of it is omitted, converts itself or contains itself. -/
def serializePrepared : HostJson → Serializer
  | .null, writer => writer.append ['n', 'u', 'l', 'l']
  | .string value, writer => appendJsonString value writer
  | .bool value, writer => writer.append (if value then ['t', 'r', 'u', 'e'] else ['f', 'a', 'l', 's', 'e'])
  | .number value, writer => writer.append value.text
  | .infinity _, writer => writer.append ['n', 'u', 'l', 'l']
  | .array items, writer =>
    ((writer.append ['[']).bind (serializeItems 0 (itemSerializers items))).bind (·.append [']'])
  | .object fields, writer =>
    ((writer.append ['\x7b']).bind
      (serializeEntries 0 ((entrySerializers fields).insertionSort HostJson.entryLe))).bind (·.append ['\x7d'])

def itemSerializers : List HostJson → List Serializer
  | [] => []
  | item :: items => serializePrepared item :: itemSerializers items

def entrySerializers : HostFields → List (CodeUnits × Serializer)
  | [] => []
  | (key, value) :: fields => (key, serializePrepared value) :: entrySerializers fields

end

/-- `none` is a value that has no JSON, such as `undefined`. -/
def stableJsonBytes : Option HostJson → Except PaidHttpFailure (List UInt8)
  | none => .error (.typeError "JSON body must be serializable")
  | some value => (serializePrepared value .empty).map BoundedUtf8Writer.bytes

theorem unitsOf_le (c : Char) : unitsOf c ≤ (String.utf8EncodeChar c).length := by
  rw [String.length_utf8EncodeChar, unitsOf, Char.utf8Size]
  simp only [UInt32.le_iff_toNat_le]
  change _ ≤ if c.toNat ≤ 0x7f then 1 else if c.toNat ≤ 0x7ff then 2 else if c.toNat ≤ 0xffff then 3 else 4
  split_ifs <;> omega

theorem unitsOf_pos (c : Char) : 0 < unitsOf c := by
  unfold unitsOf
  split <;> decide

theorem unitsLength_le (text : List Char) : unitsLength text ≤ (utf8 text).length := by
  induction text with
  | nil => exact le_rfl
  | cons c cs ih =>
    have first := unitsOf_le c
    simp only [unitsLength, utf8, List.map_cons, List.sum_cons, List.flatMap_cons, List.length_append] at ih ⊢
    omega

theorem encodeInto_whole {space : Nat} {text : List Char} (room : (utf8 text).length ≤ space) :
    encodeInto space text = (unitsLength text, utf8 text) := by
  induction text generalizing space with
  | nil => rfl
  | cons c cs ih =>
    simp only [utf8, List.flatMap_cons, List.length_append] at room ih
    rw [encodeInto, if_pos (by omega), ih (by omega)]
    rfl

theorem encodeInto_partial {space : Nat} {text : List Char} (short : space < (utf8 text).length) :
    (encodeInto space text).1 < unitsLength text := by
  induction text generalizing space with
  | nil => simp [utf8] at short
  | cons c cs ih =>
    have first := unitsOf_pos c
    simp only [utf8, List.flatMap_cons, List.length_append] at short ih
    simp only [unitsLength, List.map_cons, List.sum_cons] at ih ⊢
    rw [encodeInto]
    split
    · have rest := @ih (space - (String.utf8EncodeChar c).length) (by omega)
      change unitsOf c + _ < _
      omega
    · change 0 < _
      omega

structure Writes (serializer : Serializer) (text : List Char) : Prop where
  ok : ∀ writer writer', serializer writer = .ok writer' ↔ writer'.bytes = writer.bytes ++ utf8 text
  error : ∀ writer failure, serializer writer = .error failure → failure = bodyLimitError

theorem BoundedUtf8Writer.ext {writer writer' : BoundedUtf8Writer} (same : writer.bytes = writer'.bytes) : writer = writer' := by
  cases writer
  cases writer'
  congr

namespace Writes

theorem append (value : List Char) : Writes (·.append value) value where
  ok writer writer' := by
    have fits := writer.fits
    have fits' := writer'.fits
    have shorter := unitsLength_le value
    unfold BoundedUtf8Writer.append
    by_cases room : (utf8 value).length ≤ writer.space
    · have whole := encodeInto_whole room
      rw [if_neg (by omega), if_neg (by simp [whole])]
      constructor
      · intro same
        rw [← Except.ok.inj same]
        exact congrArg (fun written : Nat × List UInt8 => writer.bytes ++ written.2) whole
      · intro bytes
        refine congrArg Except.ok (BoundedUtf8Writer.ext ?_)
        rw [bytes]
        exact congrArg (fun written : Nat × List UInt8 => writer.bytes ++ written.2) whole
    · have partial_ := encodeInto_partial (not_le.mp room)
      have refused : writer'.bytes ≠ writer.bytes ++ utf8 value := by
        intro bytes
        rw [bytes, List.length_append] at fits'
        unfold BoundedUtf8Writer.space at room
        omega
      simp only [refused, iff_false]
      split
      · exact nofun
      · rw [if_pos (by omega)]
        exact nofun
  error writer failure failed := by
    unfold BoundedUtf8Writer.append at failed
    split_ifs at failed
    · exact (Except.error.inj failed).symm
    · exact (Except.error.inj failed).symm

theorem bind {first second : Serializer} {text text' : List Char} (writes : Writes first text) (writes' : Writes second text') :
    Writes (fun writer => (first writer).bind second) (text ++ text') where
  ok writer writer' := by
    have whole : utf8 (text ++ text') = utf8 text ++ utf8 text' := List.flatMap_append
    have middles (middle : BoundedUtf8Writer) : first writer = .ok middle → ((first writer).bind second = .ok writer' ↔
        writer'.bytes = writer.bytes ++ utf8 (text ++ text')) := by
      intro done
      rw [done, whole, ← List.append_assoc, ← (writes.ok writer middle).mp done]
      exact writes'.ok middle writer'
    cases done : first writer with
    | ok middle =>
      rw [← done]
      exact middles middle done
    | error failure =>
      refine ⟨nofun, fun bytes => ?_⟩
      have room : (writer.bytes ++ utf8 text).length ≤ maxPaidHttpBodyBytes := by
        have fits := writer'.fits
        rw [bytes, whole, ← List.append_assoc, List.length_append] at fits
        omega
      rw [(writes.ok writer ⟨_, room⟩).mpr rfl] at done
      cases done
  error writer failure failed := by
    cases done : first writer with
    | ok middle =>
      rw [done] at failed
      exact writes'.error middle failure failed
    | error failure' =>
      rw [done] at failed
      obtain rfl := Except.error.inj failed
      exact writes.error writer _ done

theorem nothing : Writes .ok [] where
  ok writer writer' := by
    rw [utf8, List.flatMap_nil, List.append_nil, Except.ok.injEq]
    exact ⟨fun same => congrArg _ same.symm, fun bytes => BoundedUtf8Writer.ext bytes.symm⟩
  error _ _ := nofun

end Writes

theorem digitChar_hexDigit {d : Nat} (bound : d < 16) : Nat.digitChar d = Json.hexDigit d := by
  interval_cases d <;> rfl

theorem paddedHex_eq {n : Nat} (bound : n < 65536) : '\\' :: 'u' :: paddedHex n = HostJson.unicodeEscape n := by
  have last (m : Nat) : Nat.digitChar (m % 16) = Json.hexDigit (m % 16) := digitChar_hexDigit (Nat.mod_lt _ (by decide))
  have digits (m : Nat) : Nat.toDigits 16 m =
      if m < 16 then [Nat.digitChar m] else Nat.toDigits 16 (m / 16) ++ [Nat.digitChar (m % 16)] :=
    Nat.toDigits_eq_if (by decide)
  have second : n / 16 / 16 = n / 256 := by omega
  have third : n / 256 / 16 = n / 4096 := by omega
  unfold paddedHex HostJson.unicodeEscape
  by_cases one : n < 16
  · rw [digits, if_pos one, digitChar_hexDigit one, show n / 4096 = 0 by omega, show n / 256 % 16 = 0 by omega,
      show n / 16 % 16 = 0 by omega, show n % 16 = n by omega]
    rfl
  by_cases two : n < 256
  · rw [digits, if_neg one, digits, if_pos (by omega), last, digitChar_hexDigit (by omega), show n / 4096 = 0 by omega,
      show n / 256 % 16 = 0 by omega, show n / 16 % 16 = n / 16 by omega]
    rfl
  by_cases three : n < 4096
  · rw [digits, if_neg one, digits, if_neg (by omega), digits, if_pos (by omega), last, last, digitChar_hexDigit (by omega),
      second, show n / 4096 = 0 by omega, show n / 256 % 16 = n / 256 by omega]
    rfl
  · rw [digits, if_neg one, digits, if_neg (by omega), digits, if_neg (by omega), digits, if_pos (by omega), last, last, last,
      digitChar_hexDigit (by omega), second, third]
    rfl

theorem appendCharacter_writes (character : CodePoint) :
    Writes (appendCharacter character) (HostJson.characterText character) := by
  unfold appendCharacter
  cases character with
  | scalar c =>
    simp only [HostJson.characterText]
    split_ifs with quote backslash b f n r t control
    all_goals try exact Writes.append _
    rw [paddedHex_eq (by omega)]
    exact Writes.append _
  | surrogate u =>
    simp only [paddedHex_eq u.toNat_lt]
    exact Writes.append _

theorem appendCharacters_writes (text : List CodePoint) :
    Writes (appendCharacters text) (text.flatMap HostJson.characterText) := by
  induction text with
  | nil => exact Writes.nothing
  | cons character rest ih => exact (appendCharacter_writes character).bind ih

theorem appendJsonString_writes (value : CodeUnits) : Writes (appendJsonString value) (HostJson.quote value) :=
  ((Writes.append ['"']).bind (appendCharacters_writes _)).bind (Writes.append ['"'])

theorem separate_writes (written : Nat) : Writes (separate written) (if written > 0 then [','] else []) := by
  unfold separate
  split
  · exact Writes.append _
  · exact Writes.nothing

def separated (written : Nat) (texts : List (List Char)) : List Char :=
  if written > 0 then Json.commasTail texts else Json.commas texts

theorem separated_cons (written : Nat) (text : List Char) (texts : List (List Char)) :
    separated written (text :: texts) = (if written > 0 then [','] else []) ++ text ++ separated (written + 1) texts := by
  unfold separated
  split <;> simp [Json.commas, Json.commasTail]

theorem serializeItems_writes {items : List Serializer} {texts : List (List Char)} (writes : List.Forall₂ Writes items texts)
    (index : Nat) : Writes (serializeItems index items) (separated index texts) := by
  induction writes generalizing index with
  | nil =>
    have none : separated index [] = [] := by
      unfold separated
      split <;> rfl
    rw [none]
    exact Writes.nothing
  | cons first rest ih =>
    rw [separated_cons]
    exact ((separate_writes index).bind first).bind (ih (index + 1))

theorem serializeEntries_writes {entries : List (CodeUnits × Serializer)} {texts : List (CodeUnits × List Char)}
    (writes : List.Forall₂ (fun entry text => entry.1 = text.1 ∧ Writes entry.2 text.2) entries texts) (written : Nat) :
    Writes (serializeEntries written entries) (separated written (texts.map HostJson.fieldText)) := by
  induction writes generalizing written with
  | nil =>
    have none : separated written [] = [] := by
      unfold separated
      split <;> rfl
    rw [List.map_nil, none]
    exact Writes.nothing
  | @cons entry text _ _ first rest ih =>
    obtain ⟨key, value⟩ := entry
    obtain ⟨key', value'⟩ := text
    obtain ⟨rfl, first⟩ := first
    have field := ((((separate_writes written).bind (appendJsonString_writes key)).bind (Writes.append [':'])).bind first).bind
      (ih (written + 1))
    rw [List.map_cons, separated_cons]
    simp only [HostJson.fieldText, List.append_assoc, List.cons_append, List.nil_append] at field ⊢
    exact field

theorem itemSerializers_eq (items : List HostJson) : itemSerializers items = items.map serializePrepared := by
  induction items with
  | nil => rfl
  | cons item items ih => rw [itemSerializers, ih, List.map_cons]

theorem entrySerializers_eq (fields : HostFields) :
    entrySerializers fields = fields.map fun entry => (entry.1, serializePrepared entry.2) := by
  induction fields with
  | nil => rfl
  | cons entry fields ih => rw [entrySerializers, ih, List.map_cons]

theorem sort_values {α β : Type} (f : α → β) (entries : List (CodeUnits × α)) :
    (entries.map fun entry => (entry.1, f entry.2)).insertionSort HostJson.entryLe =
      (entries.insertionSort HostJson.entryLe).map fun entry => (entry.1, f entry.2) :=
  (List.map_insertionSort HostJson.entryLe HostJson.entryLe (fun entry => (entry.1, f entry.2)) entries
    fun _ _ _ _ => Iff.rfl).symm

theorem serializePrepared_writes (v : HostJson) : Writes (serializePrepared v) v.sorted.text := by
  induction v using HostJson.ind with
  | null => exact Writes.append _
  | bool value => cases value <;> exact Writes.append _
  | number value => exact Writes.append _
  | infinity negative => exact Writes.append _
  | string value => exact appendJsonString_writes value
  | array items ih =>
    have inside : List.Forall₂ Writes (itemSerializers items) ((items.map HostJson.sorted).map HostJson.text) := by
      rw [itemSerializers_eq, List.map_map, List.forall₂_map_left_iff, List.forall₂_map_right_iff, List.forall₂_same]
      exact ih
    rw [HostJson.sorted_array, HostJson.text, HostJson.itemTexts_eq]
    exact ((Writes.append ['[']).bind (serializeItems_writes inside 0)).bind (Writes.append [']'])
  | object fields ih =>
    have inside : List.Forall₂ (fun entry text => entry.1 = text.1 ∧ Writes entry.2 text.2)
        ((entrySerializers fields).insertionSort HostJson.entryLe)
        (((fields.map HostJson.sortedEntry).insertionSort HostJson.entryLe).map HostJson.entryText) := by
      have sortedEntries := sort_values HostJson.sorted fields
      change (fields.map HostJson.sortedEntry).insertionSort _ = _ at sortedEntries
      rw [entrySerializers_eq, sort_values, sortedEntries, List.map_map, List.forall₂_map_left_iff,
        List.forall₂_map_right_iff, List.forall₂_same]
      exact fun entry member => ⟨rfl, ih entry ((List.mem_insertionSort _).mp member)⟩
    rw [HostJson.sorted_object, HostJson.text, HostJson.entryTexts_eq]
    exact ((Writes.append ['\x7b']).bind (serializeEntries_writes inside 0)).bind (Writes.append ['\x7d'])

structure HostValue where
  value : HostJson
  plain : value.Plain

def HostValue.canonicalText (v : HostValue) : List Char := v.value.sorted.text

/-- `JSON.parse` of the text in UTF-8 -/
def parseJsonBytes (bytes : List UInt8) : Option HostJson :=
  (bytes.toByteArray.utf8Decode?).bind fun text => HostJson.parse text.toList

theorem stableJsonBytes_eq (v : HostJson) : stableJsonBytes (some v) =
    if (utf8 v.sorted.text).length ≤ maxPaidHttpBodyBytes then .ok (utf8 v.sorted.text) else .error bodyLimitError := by
  have writes := serializePrepared_writes v
  change (serializePrepared v .empty).map BoundedUtf8Writer.bytes = _
  split
  · rename_i fits
    rw [(writes.ok .empty ⟨_, fits⟩).mpr rfl]
    rfl
  · rename_i long
    cases done : serializePrepared v .empty with
    | ok writer =>
      have fits := writer.fits
      rw [(writes.ok .empty writer).mp done] at fits
      exact absurd fits long
    | error failure => exact congrArg Except.error (writes.error .empty failure done)

theorem stableJsonBytes_ok {v : HostJson} {bytes : List UInt8} :
    stableJsonBytes (some v) = .ok bytes ↔ bytes = utf8 v.sorted.text ∧ bytes.length ≤ maxPaidHttpBodyBytes := by
  rw [stableJsonBytes_eq]
  split
  · rename_i fits
    rw [Except.ok.injEq]
    exact ⟨fun same => ⟨same.symm, same ▸ fits⟩, fun same => same.1.symm⟩
  · rename_i long
    exact ⟨nofun, fun same => absurd (same.1 ▸ same.2) long⟩

theorem parseJsonBytes_utf8 {v : HostJson} (plain : v.Plain) : parseJsonBytes (utf8 v.text) = some v := by
  rw [parseJsonBytes, utf8Decode?_utf8, Option.bind_some, List.toList_toArray, HostJson.parse_text plain]

/-- The bytes of a value are its canonical text if that fits, and name the value whatever the order of its keys. -/
theorem stableJsonBytes_canonical (v : HostValue) :
    ((∃ bytes, stableJsonBytes (some v.value) = .ok bytes) ↔ (utf8 v.canonicalText).length ≤ 256 * 1024) ∧
    (∀ bytes, stableJsonBytes (some v.value) = .ok bytes →
      bytes = utf8 v.canonicalText ∧ ∃ read, parseJsonBytes bytes = some read ∧ v.value.Same read) ∧
    (∀ v' : HostValue, v.value.Same v'.value → stableJsonBytes (some v.value) = stableJsonBytes (some v'.value)) ∧
    (∀ (v' : HostValue) (bytes : List UInt8), stableJsonBytes (some v.value) = .ok bytes →
      stableJsonBytes (some v'.value) = .ok bytes → v.value.Same v'.value) := by
  refine ⟨⟨?_, fun fits => ?_⟩, ?_, ?_, ?_⟩
  · rintro ⟨bytes, done⟩
    obtain ⟨rfl, fits⟩ := stableJsonBytes_ok.mp done
    exact fits
  · exact ⟨_, stableJsonBytes_ok.mpr ⟨rfl, fits⟩⟩
  · intro bytes done
    obtain ⟨rfl, -⟩ := stableJsonBytes_ok.mp done
    exact ⟨rfl, v.value.sorted, parseJsonBytes_utf8 (HostJson.sorted_plain v.plain), HostJson.same_sorted v.value⟩
  · intro v' same
    rw [stableJsonBytes_eq, stableJsonBytes_eq, same.sorted_eq v.plain v'.plain]
  · intro v' bytes done done'
    obtain ⟨rfl, -⟩ := stableJsonBytes_ok.mp done
    obtain ⟨same, -⟩ := stableJsonBytes_ok.mp done'
    have read := parseJsonBytes_utf8 (HostJson.sorted_plain v.plain)
    rw [same, parseJsonBytes_utf8 (HostJson.sorted_plain v'.plain), Option.some.injEq] at read
    exact HostJson.same_of_sorted read.symm

end AgentOps.PaidHttp
