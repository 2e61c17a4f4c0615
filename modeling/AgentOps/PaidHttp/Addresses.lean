import AgentOps.Lib.IpText

namespace AgentOps.PaidHttp
open Lib

/-! # Addresses that a paid request must not reach -/

def unbracketed (text : List Char) : List Char :=
  let text := match text with
    | '[' :: rest => rest
    | _ => text
  if text.getLast? = some ']' then text.dropLast else text

def parseIpv4 (address : List Char) : Option (Nat × Nat × Nat × Nat) :=
  if isIP address ≠ 4 then none
  else match (address.splitOn '.').map digitsValue with
    | first :: second :: third :: fourth :: _ => some (first, second, third, fourth)
    | _ => none

def isUnsafeOctets : Nat × Nat × Nat × Nat → Bool
  | (first, second, third, _) =>
    first = 0 || first = 10 || first = 127 || (first = 100 && 64 ≤ second && second ≤ 127) ||
      (first = 169 && second = 254) || (first = 172 && 16 ≤ second && second ≤ 31) ||
      (first = 192 && second = 0 && (third = 0 || third = 2)) || (first = 192 && second = 168) ||
      (first = 192 && second = 88 && third = 99) || (first = 198 && (second = 18 || second = 19)) ||
      (first = 198 && second = 51 && third = 100) || (first = 203 && second = 0 && third = 113) || 224 ≤ first

def isUnsafeIpv4 (address : List Char) : Bool := (parseIpv4 address).any isUnsafeOctets

/-- `Number.parseInt(group, 16)` of a group that may not have hexadecimal digits at its start -/
def parseHex (group : List Char) : Option Nat :=
  let digits := group.takeWhile fun c => (hexDigit? c).isSome
  if digits = [] then none else some (hexValue digits)

def bytesOf (groups : List Nat) : List Nat := groups.flatMap fun group => [group >>> 8, group &&& 0xFF]

/-- The part of `parseIpv6` after a dotted address has been rewritten -/
def parseGroups (normalized : List Char) : Option (List Nat) := do
  let halves := splitPair normalized
  if 2 < halves.length then none
  let leftHalf := halves.headD []
  let rightHalf := halves.tail.headD []
  let left := fields leftHalf
  let right := if halves.length = 1 then [] else fields rightHalf
  let missing : Int := 8 - left.length - right.length
  if (halves.length = 1 ∧ missing ≠ 0) ∨ missing < 0 then none
  let groups ← (left ++ List.replicate missing.toNat ['0'] ++ right).mapM parseHex
  if groups.length ≠ 8 ∨ ∃ group ∈ groups, 0xFFFF < group then none
  some (bytesOf groups)

def parseIpv6 (address : List Char) : Option (List Nat) := do
  let normalized := beforeZone (address.map Char.toLower)
  if isIP normalized ≠ 6 then none
  if '.' ∈ normalized then
    let (before, last) := splitLast normalized
    let (a, b, c, d) ← parseIpv4 last
    parseGroups (before ++ ':' :: Nat.toDigits 16 (a <<< 8 ||| b) ++ ':' :: Nat.toDigits 16 (c <<< 8 ||| d))
  else parseGroups normalized

def isUnsafeBytes (bytes : List Nat) : Bool :=
  let byte i := bytes.getD i 0
  let zero (count : Nat) := (bytes.take count).all (· = 0)
  let allZero := bytes.all (· = 0)
  let loopback := zero 15 && byte 15 = 1
  let linkLocal := byte 0 = 0xFE && byte 1 &&& 0xC0 = 0x80
  let uniqueLocal := byte 0 &&& 0xFE = 0xFC
  let multicast := byte 0 = 0xFF
  let mappedIpv4 := zero 10 && byte 10 = 0xFF && byte 11 = 0xFF
  let compatibleIpv4 := zero 12
  let embeddedIpv4 := ['.'].intercalate ((bytes.drop 12).map (Nat.toDigits 10))
  let globalUnicast := byte 0 &&& 0xE0 = 0x20
  let documentation := (byte 0 = 0x20 && byte 1 = 0x01 && byte 2 = 0x0D && byte 3 = 0xB8) ||
    (byte 0 = 0x3F && byte 1 = 0xFF && byte 2 &&& 0xF0 = 0x00)
  let benchmarking := byte 0 = 0x20 && byte 1 = 0x01 && byte 2 = 0x00 && byte 3 = 0x02 && byte 4 = 0x00 && byte 5 = 0x00
  let transitionOrOverlay := (byte 0 = 0x20 && byte 1 = 0x02) ||
    (byte 0 = 0x20 && byte 1 = 0x01 && byte 2 = 0x00 && byte 3 = 0x00) ||
    (byte 0 = 0x20 && byte 1 = 0x01 && byte 2 &&& 0xF0 = 0x10) || (byte 0 = 0x20 && byte 1 = 0x01 && byte 2 &&& 0xF0 = 0x20)
  if mappedIpv4 then isUnsafeIpv4 embeddedIpv4
  else allZero || loopback || linkLocal || uniqueLocal || multicast || compatibleIpv4 || !globalUnicast || documentation ||
    benchmarking || transitionOrOverlay

def isUnsafeIpAddress (address : List Char) : Bool :=
  let normalized := beforeZone (unbracketed address)
  isUnsafeIpv4 normalized || (parseIpv6 normalized).any isUnsafeBytes

/-- The text spells the address, in brackets and with a zone or without. -/
def Spelling (text : List Char) (ip : Ip) : Prop := Spells (beforeZone (unbracketed text)) ip

variable {text : List Char} {groups : List Nat} {ip : Ip} {address : Nat × Nat × Nat × Nat}

theorem parseIpv4_dotted (read : dotted? text = some address) : parseIpv4 text = some address := by
  have four : isIP text = 4 := by simp [isIP, read]
  obtain ⟨a, b, c, d⟩ := address
  obtain ⟨-, rfl⟩ := dotted?_iff.mp read
  rw [parseIpv4, if_neg (not_not.mpr four), splitOn_dotted]
  simp [digitsValue_toDigits]

theorem parseHex_group {n : Nat} (read : group? text = some n) : parseHex text = some n := by
  obtain ⟨some, digits⟩ := group?_digits read
  have all : text.takeWhile (fun c => (hexDigit? c).isSome) = text := List.takeWhile_eq_self_iff.mpr digits
  unfold group? at read
  split at read
  · simpa [parseHex, all, some] using read
  · cases read

theorem parseHex_groups {parts : List (List Char)} (read : Groups parts groups) : parts.mapM parseHex = some groups :=
  mapM_eq_some.mpr (List.Forall₂.imp (fun _ _ => parseHex_group) read)

theorem parseHex_zeros (missing : Nat) : (List.replicate missing ['0']).mapM parseHex = some (List.replicate missing 0) := by
  induction missing with
  | zero => rfl
  | succ missing ih =>
    rw [List.replicate_succ, List.mapM_cons, ih]
    rfl

theorem parseGroups_hex (spelled : HexSpells text groups) : parseGroups text = some (bytesOf groups) := by
  obtain ⟨eight, small⟩ := spelled.inRange
  have fits : ∀ group ∈ groups, group ≤ 0xFFFF := fun group member => Nat.le_of_lt_succ (small group member)
  unfold parseGroups
  cases spelled with
  | @full parts _ read =>
    have length : parts.length = 8 := read.length_eq.trans eight
    rw [splitPair_single read]
    simpa [fields_groups read, length, parseHex_groups read, eight] using fits
  | @compressed left right l r readLeft readRight fewer =>
    have lengthLeft : left.length = l.length := readLeft.length_eq
    have lengthRight : right.length = r.length := readRight.length_eq
    have room : (r.length : Int) ≤ 8 - l.length := by omega
    rw [(splitPair_groups readLeft).2, splitPair_single readRight]
    simp only [List.length_append, List.length_replicate] at eight
    simp [fields_groups readLeft, fields_groups readRight, lengthLeft, lengthRight, parseHex_groups readLeft,
      parseHex_groups readRight, parseHex_zeros]
    exact ⟨room, by omega, by simpa using fits⟩

theorem parseIpv6_spells (spelled : Spells text (.v6 groups)) : parseIpv6 text = some (bytesOf groups) := by
  have unzoned : '%' ∉ text.map Char.toLower := fun member => absurd (spelled.lower.chars '%' member) (by decide)
  have six : isIP (text.map Char.toLower) = 6 := (isIP_six unzoned).mpr ⟨groups, spelled.lower⟩
  have spelled := spelled.lower
  unfold parseIpv6
  rw [beforeZone_same unzoned]
  generalize text.map Char.toLower = normalized at spelled six
  cases spelled with
  | v6 spelled => simp [six, spelled.dot, parseGroups_hex spelled]
  | @dotted before last address groups read spelled =>
    have dot : '.' ∈ before ++ ':' :: last := by simp [dotted?_dot read]
    obtain ⟨a, b, c, d⟩ := address
    have octets : (Ip.v4 a b c d).InRange := (dotted?_iff.mp read).1
    have high : a <<< 8 ||| b = 256 * a + b := by
      rw [← Nat.shiftLeft_add_eq_or_of_lt octets.2.1, Nat.shiftLeft_eq, Nat.mul_comm]
    have low : c <<< 8 ||| d = 256 * c + d := by
      rw [← Nat.shiftLeft_add_eq_or_of_lt octets.2.2.2, Nat.shiftLeft_eq, Nat.mul_comm]
    rw [if_neg (not_not.mpr six), if_pos dot, splitLast_append (dotted?_colon read)]
    simp only [parseIpv4_dotted read, Option.bind_eq_bind, Option.bind_some, high, low]
    exact parseGroups_hex spelled

def isUnsafeIp : Ip → Bool
  | .v4 a b c d => isUnsafeOctets (a, b, c, d)
  | .v6 groups => isUnsafeBytes (bytesOf groups)

theorem isUnsafeIpv4_dotted (read : dotted? text = some address) : isUnsafeIpv4 text = isUnsafeOctets address := by
  simp [isUnsafeIpv4, parseIpv4_dotted read]

theorem isUnsafeIpAddress_spelling (spelling : Spelling text ip) : isUnsafeIpAddress text = isUnsafeIp ip := by
  unfold Spelling at spelling
  unfold isUnsafeIpAddress
  generalize beforeZone (unbracketed text) = normalized at spelling
  have unzoned : '%' ∉ normalized := fun member => absurd (spelling.chars '%' member) (by decide)
  cases ip with
  | v4 a b c d =>
    have four : isIP normalized = 4 := (isIP_four unzoned).mpr ⟨a, b, c, d, spelling⟩
    cases spelling with
    | v4 read =>
      have unparsed : parseIpv6 normalized = none := by
        simp [parseIpv6, dotted?_lower read, beforeZone_same unzoned, four]
      simp [isUnsafeIpv4_dotted read, unparsed, isUnsafeIp]
  | v6 groups =>
    have six : isIP normalized = 6 := (isIP_six unzoned).mpr ⟨groups, spelling⟩
    simp [isUnsafeIpv4, parseIpv4, six, parseIpv6_spells spelling, isUnsafeIp]

theorem isUnsafeIp_unmapped (inRange : ip.InRange) : isUnsafeIp ip.unmapped = isUnsafeIp ip := by
  unfold Ip.unmapped
  split
  · rename_i high low
    have range : high < 65536 ∧ low < 65536 := by simpa [Ip.InRange] using inRange.2
    have upper (n : Nat) : n >>> 8 = n / 256 := Nat.shiftRight_eq_div_pow n 8
    have lower (n : Nat) : n &&& 255 = n % 256 := Nat.and_two_pow_sub_one_eq_mod n 8
    have read : dotted? (['.'].intercalate [Nat.toDigits 10 (high / 256), Nat.toDigits 10 (high % 256),
        Nat.toDigits 10 (low / 256), Nat.toDigits 10 (low % 256)]) =
        some (high / 256, high % 256, low / 256, low % 256) :=
      dotted?_iff.mpr ⟨⟨by omega, by omega, by omega, by omega⟩, rfl⟩
    rw [isUnsafeIp, ← isUnsafeIpv4_dotted read]
    simp [isUnsafeIp, isUnsafeBytes, bytesOf, upper, lower]
  · rfl

theorem isUnsafeIpAddress_same {text' : List Char} {ip' : Ip} (spelling : Spelling text ip) (spelling' : Spelling text' ip')
    (same : ip.unmapped = ip'.unmapped) : isUnsafeIpAddress text = isUnsafeIpAddress text' := by
  rw [isUnsafeIpAddress_spelling spelling, isUnsafeIpAddress_spelling spelling', ← isUnsafeIp_unmapped spelling.inRange,
    ← isUnsafeIp_unmapped spelling'.inRange, same]

theorem beforeZone_unbracketed (opening : '[' ∉ beforeZone text) (closing : ']' ∉ beforeZone text) :
    beforeZone (unbracketed text) = beforeZone text := by
  have unopened : ∀ rest, text ≠ '[' :: rest := by
    rintro rest rfl
    exact opening (by simp [beforeZone])
  unfold unbracketed
  split
  · exact (unopened _ rfl).elim
  · simp only
    split_ifs with closed
    · obtain ⟨before, rfl⟩ := List.getLast?_eq_some_iff.mp closed
      rw [List.dropLast_concat]
      unfold beforeZone at closing ⊢
      rw [List.takeWhile_append] at closing ⊢
      split_ifs at closing ⊢ with whole
      · simp at closing
      · rfl
    · rfl

theorem spelling_of_isIP (valid : isIP (beforeZone text) ≠ 0) : ∃ ip, Spelling text ip := by
  have unzoned : '%' ∉ beforeZone text := fun member => by simpa using List.mem_takeWhile_imp member
  obtain ⟨ip, spelled⟩ := (isIP_ne_zero unzoned).mp valid
  refine ⟨ip, ?_⟩
  rw [Spelling, beforeZone_unbracketed]
  · exact spelled
  · exact fun member => absurd (spelled.chars '[' member) (by decide)
  · exact fun member => absurd (spelled.chars ']' member) (by decide)

def bytesValue (bytes : List Nat) : Nat := bytes.foldl (fun n byte => 256 * n + byte) 0

theorem bytesValue_bytesOf (small : ∀ group ∈ groups, group < 65536) : bytesValue (bytesOf groups) = groupsValue groups := by
  have from_ (start : Nat) : (bytesOf groups).foldl (fun n byte => 256 * n + byte) start =
      groups.foldl (fun n group => 65536 * n + group) start := by
    induction groups generalizing start with
    | nil => rfl
    | cons group groups ih =>
      rw [List.forall_mem_cons] at small
      have split : 256 * (256 * start + group >>> 8) + (group &&& 0xFF) = 65536 * start + group := by
        rw [Nat.shiftRight_eq_div_pow, show group &&& 0xFF = group % 256 from Nat.and_two_pow_sub_one_eq_mod group 8]
        omega
      have rest := ih small.2 (65536 * start + group)
      rw [← split] at rest
      simpa only [bytesOf, List.flatMap_cons, List.foldl_append, List.foldl_cons, List.foldl_nil, split] using rest
  exact from_ 0

theorem toLower_percent {c : Char} : c.toLower = '%' ↔ c = '%' := by
  constructor
  · intro lowered
    by_cases letter : 65 ≤ c.toNat ∧ c.toNat ≤ 90
    · have known : c = Char.ofNat c.toNat := (Char.ofNat_toNat c).symm
      generalize c.toNat = n at letter known
      obtain ⟨low, high⟩ := letter
      subst known
      interval_cases n <;> cases lowered
    · rwa [toLower_same letter] at lowered
  · rintro rfl
    rfl

theorem beforeZone_lower : beforeZone (text.map Char.toLower) = (beforeZone text).map Char.toLower := by
  have same : (fun c : Char => decide (c ≠ '%')) ∘ Char.toLower = fun c => decide (c ≠ '%') := by
    funext c
    simp only [Function.comp_apply, ne_eq, toLower_percent]
  rw [beforeZone, List.takeWhile_map, same, beforeZone]

theorem parseIpv6_zone : parseIpv6 (beforeZone text) = parseIpv6 text := by
  have unzoned : '%' ∉ beforeZone text := fun member => by simpa using List.mem_takeWhile_imp member
  have again : beforeZone (beforeZone text) = beforeZone text := beforeZone_same unzoned
  unfold parseIpv6
  rw [beforeZone_lower, beforeZone_lower, again]

def mappedGroups (a b c d : Nat) : List Nat := [0, 0, 0, 0, 0, 0xFFFF, 256 * a + b, 256 * c + d]

def compatibleGroups (a b c d : Nat) : List Nat := [0, 0, 0, 0, 0, 0, 256 * a + b, 256 * c + d]

theorem isUnsafeIp_mapped {a b c d : Nat} (inRange : (Ip.v4 a b c d).InRange) :
    isUnsafeIp (.v6 (mappedGroups a b c d)) = isUnsafeIp (.v4 a b c d) := by
  obtain ⟨ha, hb, hc, hd⟩ := inRange
  have range : (Ip.v6 (mappedGroups a b c d)).InRange := by
    refine ⟨rfl, ?_⟩
    simp only [mappedGroups, List.forall_mem_cons, List.not_mem_nil, IsEmpty.forall_iff, implies_true, and_true]
    omega
  rw [← isUnsafeIp_unmapped range]
  have octets : (256 * a + b) / 256 = a ∧ (256 * a + b) % 256 = b ∧ (256 * c + d) / 256 = c ∧ (256 * c + d) % 256 = d := by
    omega
  simp only [mappedGroups, Ip.unmapped, octets]

theorem isUnsafeIp_compatible (a b c d : Nat) : isUnsafeIp (.v6 (compatibleGroups a b c d)) = true := by
  simp [isUnsafeIp, isUnsafeBytes, bytesOf, compatibleGroups]

/-- An address is read and judged by its value, however it is spelled. -/
theorem address_by_value :
    (∀ text, isIP text = 6 → ∃ groups, Spelling text (.v6 groups) ∧ groups.length = 8 ∧
      (parseIpv6 text).map bytesValue = some (groupsValue groups) ∧ parseIpv6 text = some (bytesOf groups)) ∧
    (∀ text text' ip, Spelling text ip → Spelling text' ip → isUnsafeIpAddress text = isUnsafeIpAddress text') ∧
    (∀ text a b c d, Spelling text (.v4 a b c d) → isUnsafeIpAddress text = true → ∀ text',
      Spelling text' (.v6 (mappedGroups a b c d)) ∨ Spelling text' (.v6 (compatibleGroups a b c d)) →
        isUnsafeIpAddress text' = true) := by
  refine ⟨fun text six => ?_, fun text text' ip spelling spelling' => ?_, ?_⟩
  · obtain ⟨groups, spelled⟩ := isIP_spells six
    have opening : '[' ∉ beforeZone text := fun member => absurd (spelled.chars '[' member) (by decide)
    have closing : ']' ∉ beforeZone text := fun member => absurd (spelled.chars ']' member) (by decide)
    have parsed := parseIpv6_spells spelled
    rw [parseIpv6_zone] at parsed
    obtain ⟨eight, small⟩ := spelled.inRange
    refine ⟨groups, ?_, eight, ?_, parsed⟩
    · rw [Spelling, beforeZone_unbracketed opening closing]
      exact spelled
    · rw [parsed, Option.map_some, bytesValue_bytesOf small]
  · exact isUnsafeIpAddress_same spelling spelling' rfl
  · intro text a b c d spelling refused text' form
    rw [isUnsafeIpAddress_spelling spelling] at refused
    rcases form with mapped | compatible
    · rw [isUnsafeIpAddress_spelling mapped, isUnsafeIp_mapped spelling.inRange]
      exact refused
    · rw [isUnsafeIpAddress_spelling compatible]
      exact isUnsafeIp_compatible a b c d

theorem loopback_by_value : Spelling "127.0.0.1".toList (.v4 127 0 0 1) ∧
    Spelling "::ffff:7f00:1".toList (.v6 (mappedGroups 127 0 0 1)) ∧ isUnsafeIpAddress "::ffff:7f00:1".toList = true := by
  have dotted : Spelling "127.0.0.1".toList (.v4 127 0 0 1) := .v4 (by decide)
  have grouped : HexSpells "::ffff:7f00:1".toList (mappedGroups 127 0 0 1) :=
    @HexSpells.compressed [] ["ffff".toList, "7f00".toList, "1".toList] [] [0xFFFF, 0x7F00, 1] .nil
      (.cons rfl (.cons rfl (.cons rfl .nil))) (by decide)
  have mapped : Spelling "::ffff:7f00:1".toList (.v6 (mappedGroups 127 0 0 1)) := .v6 grouped
  exact ⟨dotted, mapped, address_by_value.2.2 _ 127 0 0 1 dotted (by decide) _ (.inl mapped)⟩

end AgentOps.PaidHttp
