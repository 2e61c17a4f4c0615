import AgentOps.Lib.CodeUnits

namespace AgentOps.Lib

/-! # Strings of the host language as the characters that UTF-8 has for them -/

def CodePoint.encoded : CodePoint → Char
  | scalar c => c
  | surrogate _ => '\uFFFD'

def encoded (text : CodeUnits) : List Char := (characters text).map CodePoint.encoded

def unitsOfText (text : List Char) : CodeUnits := text.flatMap fun c => (CodePoint.scalar c).units

variable {text text' : CodeUnits} {c : Char} {u : UInt16} {points : List CodePoint}

theorem isHighSurrogate_iff : isHighSurrogate u = true ↔ 0xD800 ≤ u.toNat ∧ u.toNat < 0xDC00 := by
  simp [isHighSurrogate, UInt16.le_iff_toNat_le, UInt16.lt_iff_toNat_lt]

theorem isLowSurrogate_iff : isLowSurrogate u = true ↔ 0xDC00 ≤ u.toNat ∧ u.toNat < 0xE000 := by
  simp [isLowSurrogate, UInt16.le_iff_toNat_le, UInt16.lt_iff_toNat_lt]

def CodePoint.Leads : CodePoint → Prop
  | scalar _ => True
  | surrogate u => isHighSurrogate u = true

theorem char_bounds (c : Char) : c.toNat < 0xD800 ∨ 0xDFFF < c.toNat ∧ c.toNat < 0x110000 := c.valid

theorem toNat_ofNat16 {n : Nat} (small : n < 65536) : (UInt16.ofNat n).toNat = n := UInt16.toNat_ofNat_of_lt' small

theorem characters_units_append (point : CodePoint) (leads : point.Leads)
    (rest : CodeUnits) (follows : ∀ v after, rest = v :: after → isLowSurrogate v = false) :
    characters (point.units ++ rest) = point :: characters rest := by
  have alone {u : UInt16} (stands : CodePoint.single u = point) : characters (u :: rest) = point :: characters rest := by
    cases rest with
    | nil => rw [← stands]; rfl
    | cons v after => rw [characters, if_neg (by simp [follows v after rfl]), stands]
  cases point with
  | surrogate u =>
    have high : isHighSurrogate u = true := leads
    exact alone (by simp [CodePoint.single, high])
  | scalar c =>
    have bounds := char_bounds c
    rw [CodePoint.units]
    split
    · rename_i small
      have value := toNat_ofNat16 small
      refine alone ?_
      rw [CodePoint.single, if_neg, value, Char.ofNat_toNat]
      rw [Bool.or_eq_true, isHighSurrogate_iff, isLowSurrogate_iff, value]
      omega
    · rename_i large
      have high := toNat_ofNat16 (show 0xD800 + (c.toNat - 0x10000) / 0x400 < 65536 by omega)
      have low := toNat_ofNat16 (show 0xDC00 + (c.toNat - 0x10000) % 0x400 < 65536 by omega)
      have pairs : (isHighSurrogate (UInt16.ofNat (0xD800 + (c.toNat - 0x10000) / 0x400)) &&
          isLowSurrogate (UInt16.ofNat (0xDC00 + (c.toNat - 0x10000) % 0x400))) = true := by
        rw [Bool.and_eq_true, isHighSurrogate_iff, isLowSurrogate_iff, high, low]
        omega
      rw [List.cons_append, List.cons_append, List.nil_append, characters, if_pos pairs, CodePoint.pair, high, low]
      have value : 0x10000 + (0xD800 + (c.toNat - 0x10000) / 0x400 - 0xD800) * 0x400 +
          (0xDC00 + (c.toNat - 0x10000) % 0x400 - 0xDC00) = c.toNat := by omega
      rw [value, Char.ofNat_toNat]

theorem leads_units {point : CodePoint} (leads : point.Leads) {v : UInt16} {after : CodeUnits}
    (first : point.units = v :: after) :
    isLowSurrogate v = false := by
  rw [Bool.eq_false_iff, ne_eq, isLowSurrogate_iff]
  cases point with
  | surrogate u =>
    obtain ⟨rfl, -⟩ := List.cons.inj first
    have high := isHighSurrogate_iff.mp leads
    omega
  | scalar c =>
    have bounds := char_bounds c
    rw [CodePoint.units] at first
    split at first
    · rename_i small
      rw [← (List.cons.inj first).1, toNat_ofNat16 small]
      omega
    · rw [← (List.cons.inj first).1, toNat_ofNat16 (by omega)]
      omega

theorem characters_flatMap_units (lead : ∀ point ∈ points, point.Leads) :
    characters (points.flatMap CodePoint.units) = points := by
  induction points with
  | nil => rfl
  | cons point points ih =>
    rw [List.forall_mem_cons] at lead
    rw [List.flatMap_cons, characters_units_append point lead.1 _ ?_, ih lead.2]
    intro v after first
    cases points with
    | nil => cases first
    | cons next points =>
      obtain ⟨w, rest, units⟩ : ∃ w rest, next.units = w :: rest := by
        cases next with
        | surrogate u => exact ⟨u, [], rfl⟩
        | scalar c => rw [CodePoint.units]; split <;> exact ⟨_, _, rfl⟩
      have leads := (List.forall_mem_cons.mp lead.2).1
      rw [List.flatMap_cons, units, List.cons_append] at first
      rw [← (List.cons.inj first).1]
      exact leads_units leads units

theorem unitsOfText_eq (cs : List Char) : unitsOfText cs = (cs.map CodePoint.scalar).flatMap CodePoint.units := by
  rw [unitsOfText, List.flatMap_map]

theorem characters_unitsOfText (cs : List Char) : characters (unitsOfText cs) = cs.map CodePoint.scalar := by
  rw [unitsOfText_eq, characters_flatMap_units]
  intro point member
  obtain ⟨c, -, rfl⟩ := List.mem_map.mp member
  trivial

theorem encoded_unitsOfText (cs : List Char) : encoded (unitsOfText cs) = cs := by
  rw [encoded, characters_unitsOfText, List.map_map]
  exact List.map_id cs

theorem characters_append_cons (single : isHighSurrogate u = false ∧ isLowSurrogate u = false) (text rest : CodeUnits) :
    characters (text ++ u :: rest) = characters text ++ CodePoint.single u :: characters rest := by
  have alone (rest : CodeUnits) : characters (u :: rest) = CodePoint.single u :: characters rest := by
    cases rest with
    | nil => rfl
    | cons v after => rw [characters, if_neg (by simp [single.1])]
  induction text using characters.induct with
  | case1 => exact alone rest
  | case2 w =>
    change characters (w :: u :: rest) = CodePoint.single w :: CodePoint.single u :: characters rest
    rw [characters, if_neg (by simp [single.2]), alone]
  | case3 w v text pairs ih =>
    rw [List.cons_append, List.cons_append, characters, if_pos pairs, ih, characters, if_pos pairs]
    rfl
  | case4 w v text other ih =>
    rw [List.cons_append] at ih
    rw [List.cons_append, List.cons_append, characters, if_neg other, ih, characters, if_neg other]
    rfl

theorem encoded_intercalate (single : isHighSurrogate u = false ∧ isLowSurrogate u = false) (parts : List CodeUnits) :
    encoded ([u].intercalate parts) = [Char.ofNat u.toNat].intercalate (parts.map encoded) := by
  have point : CodePoint.single u = .scalar (Char.ofNat u.toNat) := by simp [CodePoint.single, single.1, single.2]
  induction parts with
  | nil => rfl
  | cons part parts ih =>
    cases parts with
    | nil => simp
    | cons next parts =>
      have first (rest : CodeUnits) : encoded (part ++ u :: rest) = encoded part ++ Char.ofNat u.toNat :: encoded rest := by
        rw [encoded, characters_append_cons single, List.map_append, List.map_cons, point]
        rfl
      rw [List.map_cons, List.map_cons, List.intercalate_cons_cons, List.intercalate_cons_cons, ← List.map_cons, ← ih, List.append_assoc,
        List.append_assoc, List.singleton_append, List.singleton_append, first]

theorem eq_unitsOfText (unreplaced : '\uFFFD' ∉ encoded text) : text = unitsOfText (encoded text) := by
  have scalars : characters text = (encoded text).map CodePoint.scalar := by
    rw [encoded, List.map_map]
    refine ((List.map_congr_left ?_).trans (List.map_id _)).symm
    intro point member
    cases point with
    | scalar c => rfl
    | surrogate u => exact absurd (List.mem_map_of_mem member) unreplaced
  rw [unitsOfText_eq, ← scalars, units_characters]

theorem encoded_unique (unreplaced : '\uFFFD' ∉ encoded text) (same : encoded text' = encoded text) : text' = text := by
  rw [eq_unitsOfText unreplaced, ← same]
  exact eq_unitsOfText (same ▸ unreplaced)

theorem encoded_ambiguous (replaced : '\uFFFD' ∈ encoded text) : ∃ text', text' ≠ text ∧ encoded text' = encoded text := by
  have lead : ∀ point ∈ (encoded text).map (fun c => if c = '\uFFFD' then CodePoint.surrogate 0xD800 else .scalar c), point.Leads := by
    intro point member
    obtain ⟨c, -, rfl⟩ := List.mem_map.mp member
    split
    · exact rfl
    · trivial
  have halves := characters_flatMap_units lead
  generalize written : ((encoded text).map fun c => if c = '\uFFFD' then CodePoint.surrogate 0xD800 else .scalar c).flatMap
    CodePoint.units = other at halves
  by_cases same : unitsOfText (encoded text) = text
  · refine ⟨other, ?_, ?_⟩
    · intro equal
      rw [equal, ← same, characters_unitsOfText, encoded_unitsOfText, List.map_inj_left] at halves
      have point := halves _ replaced
      cases point
    · rw [encoded, halves, List.map_map]
      refine (List.map_congr_left fun c _ => ?_).trans (List.map_id _)
      rw [Function.comp_apply]
      split
      · rename_i here
        exact here.symm
      · rfl
  · exact ⟨_, same, encoded_unitsOfText _⟩

end AgentOps.Lib
