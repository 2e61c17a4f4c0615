import AgentOps.Lib.Text
import Mathlib.Data.List.Forall2
import Mathlib.Data.List.Induction
import Mathlib.Data.List.TakeWhile
import Mathlib.Tactic.IntervalCases

namespace AgentOps.Lib

/-! # Internet addresses, and the texts that spell them -/

inductive Ip where
  | v4 (a b c d : Nat)
  | v6 (groups : List Nat)
  deriving DecidableEq

def Ip.unmapped : Ip → Ip
  | .v6 [0, 0, 0, 0, 0, 0xFFFF, high, low] => .v4 (high / 256) (high % 256) (low / 256) (low % 256)
  | ip => ip

/-! ## Readers -/

def hexDigit? (c : Char) : Option Nat :=
  if isDigit c then some (c.toNat - '0'.toNat)
  else if 'a' ≤ c && c ≤ 'f' then some (c.toNat - 'a'.toNat + 10)
  else if 'A' ≤ c && c ≤ 'F' then some (c.toNat - 'A'.toNat + 10)
  else none

def hexValue (text : List Char) : Nat := text.foldl (fun n c => 16 * n + (hexDigit? c).getD 0) 0

def group? (text : List Char) : Option Nat :=
  if text ≠ [] ∧ text.length ≤ 4 ∧ text.all (fun c => (hexDigit? c).isSome) then some (hexValue text) else none

def octet? (text : List Char) : Option Nat := (digits? text).filter fun n => n < 256 ∧ Nat.toDigits 10 n = text

def dotted? (text : List Char) : Option (Nat × Nat × Nat × Nat) :=
  match (text.splitOn '.').mapM octet? with
  | some [a, b, c, d] => some (a, b, c, d)
  | _ => none

/-- The text between occurrences of `::` -/
def splitPair : List Char → List (List Char)
  | ':' :: ':' :: rest => [] :: splitPair rest
  | c :: rest => (splitPair rest).modifyHead (c :: ·)
  | [] => [[]]

@[simp] theorem splitPair_ne_nil (text : List Char) : splitPair text ≠ [] := by
  fun_induction splitPair text <;> simp_all

def fields (text : List Char) : List (List Char) := if text = [] then [] else text.splitOn ':'

/-- Eight groups, or fewer with `::` in place of the zeros that are missing -/
def hexGroups? (text : List Char) : Option (List Nat) :=
  match splitPair text with
  | [whole] => ((whole.splitOn ':').mapM group?).filter fun groups => groups.length = 8
  | [left, right] => do
    let l ← (fields left).mapM group?
    let r ← (fields right).mapM group?
    if l.length + r.length < 8 then some (l ++ List.replicate (8 - l.length - r.length) 0 ++ r) else none
  | _ => none

def splitLast (text : List Char) : List Char × List Char :=
  let last := (text.reverse.takeWhile (· ≠ ':')).reverse
  (text.take (text.length - last.length - 1), last)

def undotted (before : List Char) : Nat × Nat × Nat × Nat → List Char
  | (a, b, c, d) => before ++ ':' :: Nat.toDigits 16 (256 * a + b) ++ ':' :: Nat.toDigits 16 (256 * c + d)

def ipv6? (text : List Char) : Option (List Nat) :=
  if '.' ∈ text then (dotted? (splitLast text).2).bind fun address => hexGroups? (undotted (splitLast text).1 address)
  else hexGroups? text

def ip? (text : List Char) : Option Ip :=
  match dotted? text with
  | some (a, b, c, d) => some (.v4 a b c d)
  | none => (ipv6? text).map .v6

def beforeZone (text : List Char) : List Char := text.takeWhile (· ≠ '%')

def isZone : List Char → Bool
  | [] => true
  | _ :: name => name ≠ [] && name.all fun c => c.isAlphanum || c ∈ ['-', '.', ':']

def isIP (text : List Char) : Nat :=
  if (dotted? text).isSome then 4
  else if (ipv6? (beforeZone text)).isSome && isZone (text.dropWhile (· ≠ '%')) then 6
  else 0

/-! ## Spellings -/

def Groups : List (List Char) → List Nat → Prop := List.Forall₂ fun part n => group? part = some n

inductive HexSpells : List Char → List Nat → Prop
  | full {parts : List (List Char)} {groups : List Nat} (read : Groups parts groups) (eight : groups.length = 8) :
      HexSpells ([':'].intercalate parts) groups
  | compressed {left right : List (List Char)} {l r : List Nat} (readLeft : Groups left l) (readRight : Groups right r)
      (fewer : l.length + r.length < 8) :
      HexSpells ([':'].intercalate left ++ ':' :: ':' :: [':'].intercalate right)
        (l ++ List.replicate (8 - l.length - r.length) 0 ++ r)

inductive Spells : List Char → Ip → Prop
  | v4 {text : List Char} {a b c d : Nat} (read : dotted? text = some (a, b, c, d)) : Spells text (.v4 a b c d)
  | v6 {text : List Char} {groups : List Nat} (read : HexSpells text groups) : Spells text (.v6 groups)
  | dotted {before last : List Char} {address : Nat × Nat × Nat × Nat} {groups : List Nat}
      (read : dotted? last = some address) (spelled : HexSpells (undotted before address) groups) :
      Spells (before ++ ':' :: last) (.v6 groups)

variable {text before last part rest : List Char} {parts left right : List (List Char)} {n : Nat} {groups : List Nat}
  {address : Nat × Nat × Nat × Nat} {ip : Ip}

/-! ## Groups -/

theorem mapM_eq_some {α β : Type} {f : α → Option β} {xs : List α} {ys : List β} :
    xs.mapM f = some ys ↔ List.Forall₂ (fun x y => f x = some y) xs ys := by
  induction xs generalizing ys with
  | nil => cases ys <;> simp
  | cons x xs ih =>
    rw [List.mapM_cons]
    constructor
    · intro read
      obtain ⟨y, first, read⟩ := Option.bind_eq_some_iff.mp read
      obtain ⟨others, rest, read⟩ := Option.bind_eq_some_iff.mp read
      obtain rfl := Option.some.inj read
      exact .cons first (ih.mp rest)
    · intro read
      cases read with
      | cons first rest => simp [first, ih.mpr rest]

theorem group?_digits (read : group? part = some n) : part ≠ [] ∧ ∀ c ∈ part, (hexDigit? c).isSome := by
  unfold group? at read
  split at read
  · rename_i digits
    exact ⟨digits.1, List.all_eq_true.mp digits.2.2⟩
  · cases read

theorem group?_colon (read : group? part = some n) : ':' ∉ part :=
  fun member => absurd ((group?_digits read).2 ':' member) (by decide)

theorem Groups.colon (read : Groups parts groups) : ∀ part ∈ parts, ':' ∉ part := by
  induction read with
  | nil => simp
  | cons first _ ih => simpa [group?_colon first] using ih

theorem Groups.nonempty (read : Groups parts groups) : ∀ part ∈ parts, part ≠ [] := by
  induction read with
  | nil => simp
  | cons first _ ih => simpa [(group?_digits first).1] using ih

theorem Groups.chars (read : Groups parts groups) : ∀ c ∈ [':'].intercalate parts, (hexDigit? c).isSome ∨ c = ':' := by
  induction read with
  | nil => simp
  | @cons part n parts groups first rest ih =>
    intro c member
    have digit (member : c ∈ part) := (group?_digits first).2 c member
    cases parts with
    | nil =>
      rw [List.intercalate_singleton] at member
      exact .inl (digit member)
    | cons next parts =>
      rw [List.intercalate_cons_cons, List.append_assoc, List.mem_append, List.mem_append, List.mem_singleton] at member
      rcases member with member | colon | member
      · exact .inl (digit member)
      · exact .inr colon
      · exact ih c member

/-! ## The text between double colons -/

theorem intercalate_splitPair : [':', ':'].intercalate (splitPair text) = text := by
  fun_induction splitPair text with
  | case1 rest ih =>
    obtain ⟨first, others, split⟩ := List.exists_cons_of_ne_nil (splitPair_ne_nil rest)
    rw [split] at ih ⊢
    rw [List.intercalate_cons_cons, ih]
    rfl
  | case2 c rest _ ih =>
    obtain ⟨first, others, split⟩ := List.exists_cons_of_ne_nil (splitPair_ne_nil rest)
    rw [split] at ih ⊢
    cases others with
    | nil => simpa using ih
    | cons next others => simpa using ih
  | case3 => rfl

theorem splitPair_append (free : ':' ∉ part) : splitPair (part ++ rest) = (splitPair rest).modifyHead (part ++ ·) := by
  induction part with
  | nil =>
    obtain ⟨first, others, split⟩ := List.exists_cons_of_ne_nil (splitPair_ne_nil rest)
    rw [List.nil_append, split]
    rfl
  | cons c part ih =>
    simp only [List.mem_cons, not_or] at free
    rw [List.cons_append, splitPair]
    · rw [ih free.2]
      cases splitPair rest <;> rfl
    · rintro rest rfl
      exact (free.1 rfl).elim

theorem splitPair_colon (single : rest.head? ≠ some ':') :
    splitPair (':' :: rest) = (splitPair rest).modifyHead (':' :: ·) := by
  rw [splitPair]
  rintro others - rfl
  exact single rfl

theorem head?_group (read : group? part = some n) : (part ++ rest).head? ≠ some ':' := by
  obtain ⟨c, others, rfl⟩ := List.exists_cons_of_ne_nil (group?_digits read).1
  intro colon
  obtain rfl := Option.some.inj colon
  exact group?_colon read List.mem_cons_self

theorem splitPair_groups (read : Groups left groups) :
    splitPair ([':'].intercalate left) = [[':'].intercalate left] ∧
      splitPair ([':'].intercalate left ++ ':' :: ':' :: rest) = [':'].intercalate left :: splitPair rest := by
  induction read with
  | nil => simp [splitPair]
  | @cons part n parts groups first others ih =>
    have free := group?_colon first
    cases others with
    | nil =>
      rw [List.intercalate_singleton]
      constructor
      · simpa [splitPair] using @splitPair_append _ [] free
      · rw [splitPair_append free]
        simp [splitPair]
    | @cons next m parts groups second others =>
      have single (tail : List Char) : ([':'].intercalate (next :: parts) ++ tail).head? ≠ some ':' := by
        cases parts with
        | nil =>
          rw [List.intercalate_singleton]
          exact head?_group second
        | cons other parts =>
          rw [List.intercalate_cons_cons, List.append_assoc, List.append_assoc]
          exact head?_group second
      rw [List.intercalate_cons_cons]
      simp only [List.append_assoc, List.cons_append, List.nil_append]
      rw [splitPair_append free, splitPair_append free]
      constructor
      · rw [splitPair_colon (by simpa using single []), ih.1]
        rfl
      · rw [splitPair_colon (single _), ih.2]
        rfl

theorem splitPair_single (read : Groups left groups) : splitPair ([':'].intercalate left) = [[':'].intercalate left] :=
  (@splitPair_groups [] left groups read).1

/-! ## Eight groups -/

theorem intercalate_fields : [':'].intercalate (fields text) = text := by
  unfold fields
  split_ifs with empty
  · rw [empty, List.intercalate_nil]
  · exact List.intercalate_splitOn ':'

theorem fields_groups (read : Groups parts groups) : fields ([':'].intercalate parts) = parts := by
  cases read with
  | nil => rfl
  | @cons part n parts groups first others =>
    have filled : [':'].intercalate (part :: parts) ≠ [] := by
      have := (group?_digits first).1
      cases parts <;> simp [this]
    rw [fields, if_neg filled]
    exact List.splitOn_intercalate ':' (Groups.colon (.cons first others)) (List.cons_ne_nil _ _)

theorem hexGroups?_iff : hexGroups? text = some groups ↔ HexSpells text groups := by
  constructor
  · intro read
    have whole := @intercalate_splitPair text
    unfold hexGroups? at read
    split at read
    · rename_i single split
      rw [split, List.intercalate_singleton] at whole
      obtain ⟨read, eight⟩ := Option.filter_eq_some_iff.mp read
      rw [← whole, ← @List.intercalate_splitOn _ single _ _ ':']
      exact .full (mapM_eq_some.mp read) (of_decide_eq_true eight)
    · rename_i left right split
      rw [split, List.intercalate_cons_cons, List.intercalate_singleton] at whole
      obtain ⟨l, readLeft, read⟩ := Option.bind_eq_some_iff.mp read
      obtain ⟨r, readRight, read⟩ := Option.bind_eq_some_iff.mp read
      split_ifs at read with fewer
      obtain rfl := Option.some.inj read
      have spelled := HexSpells.compressed (mapM_eq_some.mp readLeft) (mapM_eq_some.mp readRight) fewer
      rw [intercalate_fields, intercalate_fields] at spelled
      rw [← whole]
      simpa using spelled
    · cases read
  · intro spelled
    cases spelled with
    | @full parts _ read eight =>
      have some : parts ≠ [] := by
        rintro rfl
        cases read
        cases eight
      unfold hexGroups?
      rw [splitPair_single read]
      simp only
      rw [List.splitOn_intercalate ':' read.colon some, Iff.mpr mapM_eq_some read]
      simp [eight]
    | compressed readLeft readRight fewer =>
      unfold hexGroups?
      rw [(splitPair_groups readLeft).2, splitPair_single readRight]
      simp only
      rw [fields_groups readLeft, fields_groups readRight, Iff.mpr mapM_eq_some readLeft, Iff.mpr mapM_eq_some readRight]
      simp [fewer]

theorem HexSpells.chars (spelled : HexSpells text groups) : ∀ c ∈ text, (hexDigit? c).isSome ∨ c = ':' := by
  cases spelled with
  | full read => exact read.chars
  | compressed readLeft readRight =>
    intro c member
    simp only [List.mem_append, List.mem_cons] at member
    rcases member with member | colon | colon | member
    · exact readLeft.chars c member
    · exact .inr colon
    · exact .inr colon
    · exact readRight.chars c member

theorem HexSpells.dot (spelled : HexSpells text groups) : '.' ∉ text :=
  fun member => absurd (spelled.chars '.' member) (by decide)

theorem HexSpells.colon (spelled : HexSpells text groups) : ':' ∈ text := by
  cases spelled with
  | @full parts _ read eight =>
    rcases parts with - | ⟨first, - | ⟨second, parts⟩⟩
    · cases read
      cases eight
    · cases read with
      | cons _ others =>
        cases others
        cases eight
    · simp
  | compressed => simp

/-! ## Dotted addresses -/

theorem octet?_iff : octet? text = some n ↔ n < 256 ∧ Nat.toDigits 10 n = text := by
  constructor
  · intro read
    obtain ⟨-, octet⟩ := Option.filter_eq_some_iff.mp read
    exact of_decide_eq_true octet
  · rintro ⟨small, rfl⟩
    simp [octet?, digits?_toDigits, small]

theorem not_mem_toDigits {c : Char} (other : isDigit c = false) : c ∉ Nat.toDigits 10 n := by
  intro member
  rw [isDigit_toDigits member] at other
  cases other

theorem splitOn_dotted (a b c d : Nat) : List.splitOn '.'
    (['.'].intercalate [Nat.toDigits 10 a, Nat.toDigits 10 b, Nat.toDigits 10 c, Nat.toDigits 10 d]) =
    [Nat.toDigits 10 a, Nat.toDigits 10 b, Nat.toDigits 10 c, Nat.toDigits 10 d] := by
  refine List.splitOn_intercalate '.' ?_ (List.cons_ne_nil _ _)
  have none (n : Nat) : '.' ∉ Nat.toDigits 10 n := not_mem_toDigits rfl
  simp [none]

theorem dotted?_iff {a b c d : Nat} : dotted? text = some (a, b, c, d) ↔ (a < 256 ∧ b < 256 ∧ c < 256 ∧ d < 256) ∧
    text = ['.'].intercalate [Nat.toDigits 10 a, Nat.toDigits 10 b, Nat.toDigits 10 c, Nat.toDigits 10 d] := by
  constructor
  · intro read
    have whole := @List.intercalate_splitOn _ text _ _ '.'
    unfold dotted? at read
    split at read
    · rename_i split
      obtain ⟨rfl, rfl, rfl, rfl⟩ : _ = a ∧ _ = b ∧ _ = c ∧ _ = d := by simpa using read
      generalize text.splitOn '.' = parts at whole split
      rcases Iff.mp mapM_eq_some split with - | ⟨ra, - | ⟨rb, - | ⟨rc, - | ⟨rd, - | -⟩⟩⟩⟩
      obtain ⟨ha, rfl⟩ := Iff.mp octet?_iff ra
      obtain ⟨hb, rfl⟩ := Iff.mp octet?_iff rb
      obtain ⟨hc, rfl⟩ := Iff.mp octet?_iff rc
      obtain ⟨hd, rfl⟩ := Iff.mp octet?_iff rd
      exact ⟨⟨ha, hb, hc, hd⟩, whole.symm⟩
    · cases read
  · rintro ⟨⟨ha, hb, hc, hd⟩, rfl⟩
    unfold dotted?
    rw [splitOn_dotted]
    simp [Iff.mpr octet?_iff ⟨ha, rfl⟩, Iff.mpr octet?_iff ⟨hb, rfl⟩, Iff.mpr octet?_iff ⟨hc, rfl⟩, Iff.mpr octet?_iff ⟨hd, rfl⟩]

theorem dotted?_colon (read : dotted? text = some address) : ':' ∉ text := by
  obtain ⟨a, b, c, d⟩ := address
  obtain ⟨-, rfl⟩ := Iff.mp dotted?_iff read
  have none (n : Nat) : ':' ∉ Nat.toDigits 10 n := not_mem_toDigits rfl
  simp [none]

theorem dotted?_dot (read : dotted? text = some address) : '.' ∈ text := by
  obtain ⟨a, b, c, d⟩ := address
  obtain ⟨-, rfl⟩ := Iff.mp dotted?_iff read
  simp

theorem splitLast_append (free : ':' ∉ last) : splitLast (before ++ ':' :: last) = (before, last) := by
  have tail : (before ++ ':' :: last).reverse.takeWhile (· ≠ ':') = last.reverse := by
    rw [List.reverse_append, List.reverse_cons, List.append_assoc, List.takeWhile_append_of_pos]
    · simp
    · simpa using fun c member => ne_of_mem_of_not_mem member free
  have length : (before ++ ':' :: last).length - last.length - 1 = before.length := by
    simp only [List.length_append, List.length_cons]
    omega
  rw [splitLast, tail]
  simp only [List.reverse_reverse, length, List.take_left]

theorem splitLast_free (free : ':' ∉ text) : (splitLast text).2 = text := by
  have all : text.reverse.takeWhile (· ≠ ':') = text.reverse :=
    List.takeWhile_eq_self_iff.mpr fun c member => by simpa using ne_of_mem_of_not_mem (List.mem_reverse.mp member) free
  rw [splitLast, all, List.reverse_reverse]

theorem eq_splitLast (colon : ':' ∈ text) : ∃ before last, text = before ++ ':' :: last ∧ ':' ∉ last := by
  obtain ⟨last, before, reversed, free⟩ := List.eq_append_cons_of_mem (List.mem_reverse.mpr colon)
  refine ⟨before.reverse, last.reverse, ?_, by simpa using free⟩
  rw [← List.reverse_reverse text, reversed]
  simp

/-! ## The reader reads the spellings -/

theorem HexSpells.undotted (spelled : HexSpells text groups) : dotted? text = none := by
  cases read : dotted? text with
  | none => rfl
  | some => exact (dotted?_colon read spelled.colon).elim

theorem ip?_iff : ip? text = some ip ↔ Spells text ip := by
  constructor
  · intro read
    unfold ip? at read
    split at read
    · rename_i dotted
      obtain rfl := Option.some.inj read
      exact .v4 dotted
    · rename_i undotted
      obtain ⟨groups, grouped, rfl⟩ := Option.map_eq_some_iff.mp read
      unfold ipv6? at grouped
      split_ifs at grouped with dot
      · obtain ⟨address, dotted, grouped⟩ := Option.bind_eq_some_iff.mp grouped
        by_cases colon : ':' ∈ text
        · obtain ⟨before, last, rfl, free⟩ := eq_splitLast colon
          rw [splitLast_append free] at dotted grouped
          exact .dotted dotted (hexGroups?_iff.mp grouped)
        · rw [splitLast_free colon, undotted] at dotted
          cases dotted
      · exact .v6 (hexGroups?_iff.mp grouped)
  · intro spelled
    cases spelled with
    | v4 read => simp [ip?, read]
    | v6 spelled => simp [ip?, spelled.undotted, ipv6?, spelled.dot, Iff.mpr hexGroups?_iff spelled]
    | @dotted before last address groups read spelled =>
      have undotted : dotted? (before ++ ':' :: last) = none := by
        cases whole : dotted? (before ++ ':' :: last) with
        | none => rfl
        | some => exact (dotted?_colon whole (by simp)).elim
      have dot : '.' ∈ before ++ ':' :: last := by simp [dotted?_dot read]
      simp only [ip?, undotted, ipv6?, if_pos dot, splitLast_append (dotted?_colon read), read, Option.bind_some,
        Iff.mpr hexGroups?_iff spelled, Option.map_some]

theorem Spells.chars (spelled : Spells text ip) : ∀ c ∈ text, (hexDigit? c).isSome ∨ c = ':' ∨ c = '.' := by
  have dotted {last : List Char} {address : Nat × Nat × Nat × Nat} (read : dotted? last = some address) :
      ∀ c ∈ last, (hexDigit? c).isSome ∨ c = ':' ∨ c = '.' := by
    obtain ⟨a, b, c, d⟩ := address
    obtain ⟨-, rfl⟩ := Iff.mp dotted?_iff read
    have digit (n : Nat) (c : Char) (member : c ∈ Nat.toDigits 10 n) : (hexDigit? c).isSome := by
      simp [hexDigit?, isDigit_toDigits member]
    intro char member
    simp only [List.intercalate_cons_cons, List.intercalate_singleton, List.mem_append, List.mem_singleton] at member
    rcases member with (member | dot) | (member | dot) | (member | dot) | member
    all_goals first
      | exact .inr (.inr dot)
      | exact .inl (digit _ _ member)
  cases spelled with
  | v4 read => exact dotted read
  | v6 spelled =>
    intro c member
    exact (spelled.chars c member).imp id Or.inl
  | @dotted before last address groups read spelled =>
    intro c member
    rcases List.mem_append.mp member with member | member
    · obtain ⟨a, b, c', d⟩ := address
      have among : c ∈ undotted before (a, b, c', d) := by simp [undotted, member]
      exact (spelled.chars c among).imp id Or.inl
    · rcases List.mem_cons.mp member with colon | member
      · exact .inr (.inl colon)
      · exact dotted read c member

theorem beforeZone_same (unzoned : '%' ∉ text) : beforeZone text = text :=
  List.takeWhile_eq_self_iff.mpr fun c member => by simpa using ne_of_mem_of_not_mem member unzoned

theorem isIP_eq (unzoned : '%' ∉ text) : isIP text = match ip? text with
    | none => 0
    | some (.v4 _ _ _ _) => 4
    | some (.v6 _) => 6 := by
  have zone : text.dropWhile (· ≠ '%') = [] := by
    simpa using fun c member => ne_of_mem_of_not_mem member unzoned
  rw [isIP, ip?, beforeZone_same unzoned, zone]
  cases dotted? text with
  | some => rfl
  | none => cases ipv6? text <;> rfl

theorem isIP_four (unzoned : '%' ∉ text) : isIP text = 4 ↔ ∃ a b c d, Spells text (.v4 a b c d) := by
  simp only [isIP_eq unzoned, ← ip?_iff]
  cases ip? text with
  | none => simp
  | some ip => cases ip <;> simp

theorem isIP_six (unzoned : '%' ∉ text) : isIP text = 6 ↔ ∃ groups, Spells text (.v6 groups) := by
  simp only [isIP_eq unzoned, ← ip?_iff]
  cases ip? text with
  | none => simp
  | some ip => cases ip <;> simp

theorem isIP_ne_zero (unzoned : '%' ∉ text) : isIP text ≠ 0 ↔ ∃ ip, Spells text ip := by
  simp only [isIP_eq unzoned, ← ip?_iff]
  cases ip? text with
  | none => simp
  | some ip => cases ip <;> simp

/-! ## Letters and numbers -/

theorem toLower_same {c : Char} (other : ¬(65 ≤ c.toNat ∧ c.toNat ≤ 90)) : c.toLower = c := by
  unfold Char.toLower
  split
  · rename_i letter
    exact (other ⟨UInt32.le_iff_toNat_le.mp letter.1, UInt32.le_iff_toNat_le.mp letter.2⟩).elim
  · rfl

theorem hexDigit?_toLower (c : Char) : hexDigit? c.toLower = hexDigit? c := by
  by_cases upper : 65 ≤ c.toNat ∧ c.toNat ≤ 90
  · rw [← Char.ofNat_toNat c]
    obtain ⟨least, most⟩ := upper
    generalize c.toNat = n at least most
    interval_cases n <;> rfl
  · rw [toLower_same upper]

theorem group?_lower : group? (text.map Char.toLower) = group? text := by
  have value (n : Nat) : (text.map Char.toLower).foldl (fun n c => 16 * n + (hexDigit? c).getD 0) n =
      text.foldl (fun n c => 16 * n + (hexDigit? c).getD 0) n := by
    simp [List.foldl_map, hexDigit?_toLower]
  simp [group?, hexValue, value, hexDigit?_toLower]

theorem Groups.lower (read : Groups parts groups) : Groups (parts.map (List.map Char.toLower)) groups := by
  induction read with
  | nil => exact .nil
  | cons first _ ih => exact .cons (group?_lower.trans first) ih

theorem lower_intercalate : ([':'].intercalate parts).map Char.toLower =
    [':'].intercalate (parts.map (List.map Char.toLower)) := by
  induction parts with
  | nil => rfl
  | cons part parts ih =>
    cases parts with
    | nil => simp
    | cons next parts =>
      simp only [List.map_cons] at ih ⊢
      rw [List.intercalate_cons_cons, List.intercalate_cons_cons, ← ih]
      simp

theorem HexSpells.lower (spelled : HexSpells text groups) : HexSpells (text.map Char.toLower) groups := by
  cases spelled with
  | full read eight =>
    rw [lower_intercalate]
    exact .full read.lower eight
  | compressed readLeft readRight fewer =>
    have spelled := HexSpells.compressed readLeft.lower readRight.lower fewer
    rw [← lower_intercalate, ← lower_intercalate] at spelled
    simpa using spelled

theorem digitChar_toLower (small : n < 16) : (Nat.digitChar n).toLower = Nat.digitChar n := by
  interval_cases n <;> rfl

theorem toDigits_toLower (n : Nat) : ∀ c ∈ Nat.toDigits 16 n, c.toLower = c := by
  induction n using Nat.strongRecOn with
  | ind n ih =>
    rw [Nat.toDigits_eq_if (by decide)]
    split_ifs with small
    · simp [digitChar_toLower small]
    · intro c member
      rcases List.mem_append.mp member with member | member
      · exact ih (n / 16) (by omega) c member
      · obtain rfl := List.mem_singleton.mp member
        exact digitChar_toLower (Nat.mod_lt n (by decide))

/-! ## Addresses in lower case, and their bounds -/

theorem toNat_le {c c' : Char} (le : c ≤ c') : c.toNat ≤ c'.toNat := UInt32.le_iff_toNat_le.mp le

theorem isDigit_le {c : Char} (digit : isDigit c = true) : c.toNat ≤ 57 := by
  rw [isDigit, Bool.and_eq_true, decide_eq_true_eq, decide_eq_true_eq] at digit
  exact toNat_le digit.2

theorem dotted?_lower (read : dotted? text = some address) : text.map Char.toLower = text := by
  obtain ⟨a, b, c, d⟩ := address
  obtain ⟨-, rfl⟩ := Iff.mp dotted?_iff read
  have digits (n : Nat) : (Nat.toDigits 10 n).map Char.toLower = Nat.toDigits 10 n := by
    rw [List.map_congr_left (g := id), List.map_id]
    intro c member
    have digit := isDigit_le (isDigit_toDigits member)
    exact toLower_same fun letter => by omega
  simp [digits]

theorem undotted_lower : (undotted before address).map Char.toLower = undotted (before.map Char.toLower) address := by
  obtain ⟨a, b, c, d⟩ := address
  have digits (n : Nat) : (Nat.toDigits 16 n).map Char.toLower = Nat.toDigits 16 n := by
    rw [List.map_congr_left (toDigits_toLower n), List.map_id']
  simp [undotted, digits]

theorem Spells.lower (spelled : Spells text ip) : Spells (text.map Char.toLower) ip := by
  cases spelled with
  | v4 read =>
    rw [dotted?_lower read]
    exact .v4 read
  | v6 spelled => exact .v6 spelled.lower
  | dotted read spelled =>
    rw [List.map_append, List.map_cons, dotted?_lower read]
    exact .dotted read (undotted_lower ▸ spelled.lower)

def Ip.InRange : Ip → Prop
  | .v4 a b c d => a < 256 ∧ b < 256 ∧ c < 256 ∧ d < 256
  | .v6 groups => groups.length = 8 ∧ ∀ group ∈ groups, group < 65536

theorem hexDigit?_small (c : Char) : (hexDigit? c).getD 0 < 16 := by
  unfold hexDigit?
  split_ifs with digit lower upper
  · have := isDigit_le digit
    simp
    omega
  · rw [Bool.and_eq_true, decide_eq_true_eq, decide_eq_true_eq] at lower
    have : c.toNat ≤ 102 := toNat_le lower.2
    simp
    omega
  · rw [Bool.and_eq_true, decide_eq_true_eq, decide_eq_true_eq] at upper
    have : c.toNat ≤ 70 := toNat_le upper.2
    simp
    omega
  · decide

theorem hexValue_small : hexValue text < 16 ^ text.length := by
  induction text using List.reverseRecOn with
  | nil => simp [hexValue]
  | append_singleton text c ih =>
    have digit := hexDigit?_small c
    rw [hexValue] at ih
    rw [hexValue, List.foldl_append, List.length_append, List.length_singleton, pow_succ]
    simp only [List.foldl_cons, List.foldl_nil]
    omega

theorem group?_small (read : group? text = some n) : n < 65536 := by
  unfold group? at read
  split at read
  · rename_i digits
    obtain rfl := Option.some.inj read
    calc hexValue text < 16 ^ text.length := hexValue_small
      _ ≤ 16 ^ 4 := Nat.pow_le_pow_right (by decide) digits.2.1
  · cases read

theorem Groups.small (read : Groups parts groups) : ∀ n ∈ groups, n < 65536 := by
  induction read with
  | nil => simp
  | cons first _ ih => simpa [group?_small first] using ih

theorem HexSpells.inRange (spelled : HexSpells text groups) : (Ip.v6 groups).InRange := by
  cases spelled with
  | full read eight => exact ⟨eight, read.small⟩
  | @compressed left right l r readLeft readRight fewer =>
    constructor
    · simp
      omega
    · intro n member
      simp only [List.mem_append, List.mem_replicate] at member
      rcases member with (member | ⟨-, rfl⟩) | member
      · exact readLeft.small n member
      · decide
      · exact readRight.small n member

theorem Spells.inRange (spelled : Spells text ip) : ip.InRange := by
  cases spelled with
  | v4 read => exact (dotted?_iff.mp read).1
  | v6 spelled => exact spelled.inRange
  | dotted _ spelled => exact spelled.inRange

/-! ## Versions, with a zone or without -/

theorem colon_toDigits (n : Nat) : ':' ∉ Nat.toDigits 16 n := by
  induction n using Nat.strongRecOn with
  | ind n ih =>
    have digit {m : Nat} (small : m < 16) : ':' ≠ Nat.digitChar m := by
      interval_cases m <;> decide
    rw [Nat.toDigits_eq_if (by decide)]
    split_ifs with small
    · simp [digit small]
    · rw [List.mem_append, List.mem_singleton]
      rintro (member | last)
      · exact ih (n / 16) (by omega) member
      · exact digit (Nat.mod_lt n (by decide)) last

theorem head?_groups (read : group? part = some n) (parts : List (List Char)) (rest : List Char) :
    ([':'].intercalate (part :: parts) ++ rest).head? ≠ some ':' := by
  cases parts with
  | nil =>
    rw [List.intercalate_singleton]
    exact head?_group read
  | cons =>
    rw [List.intercalate_cons_cons, List.append_assoc, List.append_assoc]
    exact head?_group read

theorem not_hexSpells_undotted : ¬HexSpells (undotted [] address) groups := by
  obtain ⟨a, b, c, d⟩ := address
  intro spelled
  generalize same : undotted [] (a, b, c, d) = text at spelled
  cases spelled with
  | @full parts _ read eight =>
    cases read with
    | nil => cases eight
    | @cons part n parts _ first others =>
      have head := head?_groups first parts []
      rw [List.append_nil, ← same] at head
      exact head rfl
  | @compressed left right l r readLeft readRight fewer =>
    cases readLeft with
    | nil =>
      have second := (List.cons.inj same).2
      cases digits : Nat.toDigits 16 (256 * a + b) with
      | nil => exact Nat.toDigits_ne_nil digits
      | cons digit more =>
        rw [digits] at second
        obtain rfl : digit = ':' := (List.cons.inj second).1
        exact colon_toDigits (256 * a + b) (by simp [digits])
    | @cons part n parts _ first others =>
      have head := head?_groups first parts (':' :: ':' :: [':'].intercalate right)
      rw [← same] at head
      exact head rfl

theorem ipv6?_spells (read : ipv6? text = some groups) : Spells text (.v6 groups) := by
  unfold ipv6? at read
  split_ifs at read with dot
  · obtain ⟨address, dotted, grouped⟩ := Option.bind_eq_some_iff.mp read
    by_cases colon : ':' ∈ text
    · obtain ⟨before, last, rfl, free⟩ := eq_splitLast colon
      rw [splitLast_append free] at dotted grouped
      exact .dotted dotted (hexGroups?_iff.mp grouped)
    · have before : (splitLast text).1 = [] := by
        have last := splitLast_free colon
        unfold splitLast at last ⊢
        simp only at last ⊢
        rw [last]
        simp
      rw [before] at grouped
      exact (not_hexSpells_undotted (hexGroups?_iff.mp grouped)).elim
  · exact .v6 (hexGroups?_iff.mp read)

theorem isIP_spells (six : isIP text = 6) : ∃ groups, Spells (beforeZone text) (.v6 groups) := by
  unfold isIP at six
  split_ifs at six with dotted zoned
  · cases six
  · obtain ⟨groups, read⟩ := Option.isSome_iff_exists.mp (Bool.and_eq_true_iff.mp zoned).1
    exact ⟨groups, ipv6?_spells read⟩

def groupsValue (groups : List Nat) : Nat := groups.foldl (fun n group => 65536 * n + group) 0

end AgentOps.Lib
