import Mathlib.Data.List.Basic
import Mathlib.Tactic.Push

namespace AgentOps.Lib

/-! # Records of texts that a separator joins -/

variable {α : Type} [DecidableEq α] {separator : α}

theorem splitOn_joined {parts : List (List α)} (some : parts ≠ []) :
    ([separator].intercalate parts).splitOn separator = parts.flatMap (List.splitOn separator) := by
  induction parts with
  | nil => exact absurd rfl some
  | cons part parts ih =>
    cases parts with
    | nil => simp
    | cons next parts =>
      rw [List.intercalate_cons_cons, List.append_assoc, List.singleton_append, List.splitOn_append_cons_self, ih (List.cons_ne_nil _ _)]
      simp only [List.flatMap_cons]

theorem splitOn_injective : Function.Injective (List.splitOn separator) := by
  intro text text' same
  have joined : [separator].intercalate (text.splitOn separator) = text := List.intercalate_splitOn separator
  rw [← joined, same, List.intercalate_splitOn]

theorem notMem_of_mem_splitOn {text part : List α} (member : part ∈ text.splitOn separator) : separator ∉ part := by
  induction text generalizing part with
  | nil => simp_all
  | cons first text ih =>
    rw [List.splitOn_cons_eq_if_modifyHead] at member
    split at member
    · rcases List.mem_cons.mp member with rfl | behind
      · exact List.not_mem_nil
      · exact ih behind
    · rename_i other
      obtain ⟨head, tail, split⟩ := List.exists_cons_of_ne_nil (List.splitOn_ne_nil separator text)
      rw [split, List.modifyHead_cons] at member
      have apart : ∀ part ∈ head :: tail, separator ∉ part := fun part member => ih (split ▸ member)
      rw [List.forall_mem_cons] at apart
      rcases List.mem_cons.mp member with rfl | behind
      · rw [List.mem_cons, not_or]
        exact ⟨fun same => other (by simp [same]), apart.1⟩
      · exact apart.2 part behind

@[ext] structure Layout (β : Type) where
  first : List β
  second : β
  third : List β
  fourth : β
  fifth : List β
  sixth : List β

namespace Layout

variable {β : Type} {P Q : β → Prop} {l l' : Layout β}

def flat (l : Layout β) : List β := l.first ++ l.second :: (l.third ++ l.fourth :: (l.fifth ++ l.sixth))

structure Proper (P Q : β → Prop) (l : Layout β) : Prop where
  first : l.first ≠ []
  second : P l.second
  third : l.third ≠ []
  fourth : Q l.fourth
  fifth : l.fifth ≠ []
  sixth : l.sixth ≠ []

structure Unambiguous (P Q : β → Prop) (l : Layout β) : Prop where
  first : ∀ part ∈ l.first.tail, ¬P part
  third : ∀ part ∈ l.third.tail, ¬Q part
  head : ∀ part next rest, l.third = part :: next :: rest → ¬P part
  fifth : l.fifth.length = 1
  sixth : l.sixth.length = 1

theorem mem_tail {before after : List β} {part : β} (some : before ≠ []) (l : List β)
    (split : l = before ++ part :: after) : part ∈ l.tail := by
  obtain ⟨head, tail, rfl⟩ := List.exists_cons_of_ne_nil some
  simp [split]

theorem fields_of_tail (proper' : l'.Proper P Q) (single : l.Unambiguous P Q)
    (same : l.third ++ l.fourth :: (l.fifth ++ l.sixth) = l'.third ++ l'.fourth :: (l'.fifth ++ l'.sixth)) :
    l.third = l'.third ∧ l.fourth = l'.fourth ∧ l.fifth = l'.fifth ∧ l.sixth = l'.sixth := by
  have fifth' := List.length_pos_of_ne_nil proper'.fifth
  have sixth' := List.length_pos_of_ne_nil proper'.sixth
  have fifth := single.fifth
  have sixth := single.sixth
  rcases List.append_eq_append_iff.mp same with ⟨more, third, rest⟩ | ⟨more, third, rest⟩
  · have lengths := congrArg List.length rest
    simp only [List.length_cons, List.length_append] at lengths
    obtain rfl : more = [] := List.length_eq_zero_iff.mp (by omega)
    obtain ⟨fourth, ends⟩ := List.cons.inj rest
    obtain ⟨fifths, sixths⟩ := List.append_inj ends (by simp at lengths; omega)
    exact ⟨by rw [third, List.append_nil], fourth, fifths, sixths⟩
  · cases more with
    | nil =>
      obtain ⟨fourth, ends⟩ := List.cons.inj rest
      have lengths := congrArg List.length ends
      simp only [List.length_append] at lengths
      obtain ⟨fifths, sixths⟩ := List.append_inj' ends (by omega)
      exact ⟨by rw [third, List.append_nil], fourth.symm, fifths.symm, sixths.symm⟩
    | cons part more =>
      obtain ⟨fourth, -⟩ := List.cons.inj rest
      exact absurd (fourth ▸ proper'.fourth) (single.third part (mem_tail proper'.third _ third))

/-- An unambiguous layout is the only one of its parts. -/
theorem eq_of_flat (included : ∀ part, P part → Q part) (proper' : l'.Proper P Q) (single : l.Unambiguous P Q)
    (same : l.flat = l'.flat) : l = l' := by
  have close (first : l.first = l'.first) (rest : l.second :: (l.third ++ l.fourth :: (l.fifth ++ l.sixth)) =
      l'.second :: (l'.third ++ l'.fourth :: (l'.fifth ++ l'.sixth))) : l = l' := by
    obtain ⟨second, tail⟩ := List.cons.inj rest
    obtain ⟨third, fourth, fifth, sixth⟩ := fields_of_tail proper' single tail
    exact Layout.ext first second third fourth fifth sixth
  unfold flat at same
  rcases List.append_eq_append_iff.mp same with ⟨more, first, rest⟩ | ⟨more, first, rest⟩
  · cases more with
    | nil => exact close (by rw [first, List.append_nil]) rest
    | cons _ more =>
      -- the second single part stands within the third field, and at least one part of that field comes after it
      have third' := List.length_pos_of_ne_nil proper'.third
      have fifth' := List.length_pos_of_ne_nil proper'.fifth
      have sixth' := List.length_pos_of_ne_nil proper'.sixth
      have fifth := single.fifth
      have sixth := single.sixth
      have rest : l.third ++ l.fourth :: (l.fifth ++ l.sixth) = more ++ l'.second :: (l'.third ++ l'.fourth :: (l'.fifth ++ l'.sixth)) :=
        (List.cons.inj rest).2
      have lengths := congrArg List.length rest
      simp only [List.length_cons, List.length_append] at lengths
      rcases List.append_eq_append_iff.mp rest with ⟨beyond, third, -⟩ | ⟨within, third, tail⟩
      · have longer := congrArg List.length third
        rw [List.length_append] at longer
        omega
      · have longer := congrArg List.length third
        rw [List.length_append] at longer
        match within, third, tail, longer with
        | [], _, _, longer | [_], _, _, longer => simp at longer; omega
        | part :: next :: after, third, tail, _ =>
          have second := (List.cons.inj tail).1
          cases more with
          | nil => exact absurd (second ▸ proper'.second) (single.head part next after third)
          | cons head more =>
            exact absurd (included _ (second ▸ proper'.second)) (single.third part (mem_tail (List.cons_ne_nil _ _) _ third))
  · cases more with
    | nil => exact close (by rw [first, List.append_nil]) rest.symm
    | cons part more =>
      obtain ⟨second, -⟩ := List.cons.inj rest
      exact absurd (second ▸ proper'.second) (single.first part (mem_tail proper'.first _ first))

theorem exists_split_of_mem_tail {list : List β} {part : β} (member : part ∈ list.tail) :
    ∃ before after, before ≠ [] ∧ list = before ++ part :: after := by
  cases list with
  | nil => cases member
  | cons head tail =>
    obtain ⟨before, after, rfl⟩ := List.append_of_mem member
    exact ⟨head :: before, after, List.cons_ne_nil _ _, rfl⟩

/-- An ambiguous one is not. -/
theorem exists_other (proper : l.Proper P Q) (ambiguous : ¬l.Unambiguous P Q) :
    ∃ l' : Layout β, l'.Proper P Q ∧ l' ≠ l ∧ l'.flat = l.flat := by
  by_cases first : ∀ part ∈ l.first.tail, ¬P part
  · by_cases third : ∀ part ∈ l.third.tail, ¬Q part
    · by_cases head : ∀ part next rest, l.third = part :: next :: rest → ¬P part
      · obtain ⟨a, fifth, isFifth⟩ := List.exists_cons_of_ne_nil proper.fifth
        obtain ⟨p, sixth, isSixth⟩ := List.exists_cons_of_ne_nil proper.sixth
        cases fifth with
        | cons b fifth =>
          refine ⟨{ l with fifth := [a], sixth := b :: fifth ++ l.sixth },
            ⟨proper.1, proper.2, proper.3, proper.4, by simp, by simp⟩, ?_, ?_⟩
          · intro same
            have shorter := congrArg Layout.fifth same
            simp [isFifth] at shorter
          · simp [flat, isFifth]
        | nil =>
          cases sixth with
          | cons q sixth =>
            refine ⟨{ l with fifth := [a, p], sixth := q :: sixth }, ⟨proper.1, proper.2, proper.3, proper.4, by simp, by simp⟩, ?_, ?_⟩
            · intro same
              have longer := congrArg Layout.fifth same
              simp [isFifth] at longer
            · simp [flat, isFifth, isSixth]
          | nil => exact absurd ⟨first, third, head, by simp [isFifth], by simp [isSixth]⟩ ambiguous
      · push Not at head
        obtain ⟨part, next, rest, isThird, kind⟩ := head
        refine ⟨{ l with first := l.first ++ [l.second], second := part, third := next :: rest },
          ⟨by simp, kind, by simp, proper.4, proper.5, proper.6⟩, ?_, ?_⟩
        · intro same
          have longer := congrArg (fun l => l.first.length) same
          simp at longer
        · simp [flat, isThird]
    · push Not at third
      obtain ⟨part, member, kind⟩ := third
      obtain ⟨before, after, some, isThird⟩ := exists_split_of_mem_tail member
      refine ⟨{ l with third := before, fourth := part, fifth := after ++ l.fourth :: l.fifth },
        ⟨proper.1, proper.2, some, kind, by simp, proper.6⟩, ?_, ?_⟩
      · intro same
        have shorter := congrArg (fun l => l.third.length) same
        simp [isThird] at shorter
      · simp [flat, isThird]
  · push Not at first
    obtain ⟨part, member, kind⟩ := first
    obtain ⟨before, after, some, isFirst⟩ := exists_split_of_mem_tail member
    refine ⟨{ l with first := before, second := part, third := after ++ l.second :: l.third },
      ⟨some, kind, by simp, proper.4, proper.5, proper.6⟩, ?_, ?_⟩
    · intro same
      have shorter := congrArg (fun l => l.first.length) same
      simp [isFirst] at shorter
    · simp [flat, isFirst]

end Layout

end AgentOps.Lib
