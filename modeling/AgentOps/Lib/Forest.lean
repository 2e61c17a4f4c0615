import Mathlib.Data.List.Nodup
import Mathlib.Logic.Function.Basic

namespace AgentOps.Lib

/-! # Forests given by parent references -/

variable {α : Type} {parent parent' : α → Option α} {a b p target : α} {path path' : List α}

inductive Ascent (parent : α → Option α) : α → List α → Prop where
  | root {a : α} (top : parent a = none) : Ascent parent a [a]
  | child {a b : α} {path : List α} (up : parent a = some b) (rest : Ascent parent b path) : Ascent parent a (a :: path)

def Forest (parent : α → Option α) : Prop := ∀ a, ∃ path, Ascent parent a path

theorem Ascent.unique (ascent : Ascent parent a path) (other : Ascent parent a path') : path = path' := by
  induction ascent generalizing path' with
  | root top =>
    cases other with
    | root => rfl
    | child up => exact nomatch top.symm.trans up
  | child up rest ih =>
    cases other with
    | root top => exact nomatch top.symm.trans up
    | child up' rest' =>
      obtain rfl := Option.some.inj (up.symm.trans up')
      rw [ih rest']

theorem Ascent.of_mem (ascent : Ascent parent a path) (member : b ∈ path) :
    ∃ rest, Ascent parent b rest ∧ rest.length ≤ path.length := by
  induction ascent with
  | root top =>
    obtain rfl := List.mem_singleton.mp member
    exact ⟨_, .root top, Nat.le_refl _⟩
  | child up rest ih =>
    rcases List.mem_cons.mp member with rfl | member
    · exact ⟨_, .child up rest, Nat.le_refl _⟩
    · obtain ⟨path, ascent, shorter⟩ := ih member
      exact ⟨path, ascent, Nat.le_trans shorter (Nat.le_succ _)⟩

theorem Ascent.not_mem (ascent : Ascent parent b path) (up : parent a = some b) : a ∉ path := by
  intro member
  obtain ⟨rest, again, shorter⟩ := ascent.of_mem member
  obtain rfl := (Ascent.child up ascent).unique again
  simp only [List.length_cons] at shorter
  omega

theorem Ascent.nodup (ascent : Ascent parent a path) : path.Nodup := by
  induction ascent with
  | root => simp
  | child up rest ih => exact List.nodup_cons.mpr ⟨rest.not_mem up, ih⟩

theorem Ascent.congr (ascent : Ascent parent a path) (same : ∀ b ∈ path, parent' b = parent b) :
    Ascent parent' a path := by
  induction ascent with
  | root top => exact .root ((same _ (List.mem_singleton_self _)).trans top)
  | child up rest ih =>
    exact .child ((same _ (List.mem_cons_self ..)).trans up) (ih fun b member => same b (List.mem_cons_of_mem _ member))

section Update

variable [DecidableEq α]

theorem Ascent.update (ascent : Ascent parent a path) (away : b ∉ path) (above : Option α) :
    Ascent (Function.update parent b above) a path := by
  refine ascent.congr fun c member => Function.update_of_ne ?_ ..
  rintro rfl
  exact away member

theorem Forest.update_of_ascent (forest : Forest parent) {above : Option α}
    (moved : Ascent (Function.update parent b above) b path) : Forest (Function.update parent b above) := by
  intro a
  obtain ⟨_, ascent⟩ := forest a
  induction ascent with
  | @root a top =>
    by_cases same : a = b
    · exact ⟨path, same ▸ moved⟩
    · exact ⟨_, .root ((Function.update_of_ne same ..).trans top)⟩
  | @child a c _ up rest ih =>
    by_cases same : a = b
    · exact ⟨path, same ▸ moved⟩
    · obtain ⟨path', ascent⟩ := ih
      exact ⟨_, .child ((Function.update_of_ne same ..).trans up) ascent⟩

/-- A forest stays one exactly where an element is moved under one that is not below it. -/
theorem Forest.update_iff (forest : Forest parent) (ascent : Ascent parent p path) :
    Forest (Function.update parent b (some p)) ↔ b ∉ path := by
  constructor
  · intro forest'
    obtain ⟨path', ascent'⟩ := forest' p
    have away : b ∉ path' := ascent'.not_mem (Function.update_self ..)
    have back := ascent'.update away (parent b)
    rw [Function.update_idem, Function.update_eq_self] at back
    rw [ascent.unique back]
    exact away
  · intro away
    exact forest.update_of_ascent (.child (Function.update_self ..) (ascent.update away _))

theorem Forest.detach (forest : Forest parent) : Forest (Function.update parent b none) :=
  forest.update_of_ascent (.root (Function.update_self ..))

end Update

end AgentOps.Lib
