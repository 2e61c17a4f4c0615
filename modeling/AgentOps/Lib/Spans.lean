import AgentOps.Lib.Query
import Mathlib.Algebra.Order.BigOperators.Group.List
import Mathlib.Algebra.Order.Ring.Nat

namespace AgentOps.Lib

/-! # Spans of numbers that follow each other in time -/

variable {α τ : Type} [LinearOrder τ] (time : α → τ) (low width : α → Nat)

def Consecutive (x y : α) : Prop :=
  (time x ≤ time y → low x + width x ≤ low y) ∧ (time y ≤ time x → low y + width y ≤ low x)

variable {time low width} {x y : α} {xs : List α} {top : Nat}

theorem Consecutive.symm (consecutive : Consecutive time low width x y) : Consecutive time low width y x :=
  ⟨consecutive.2, consecutive.1⟩

theorem sum_ascending (ascending : (x :: xs).Pairwise fun y z => low y + width y ≤ low z)
    (bounded : ∀ y ∈ x :: xs, low y + width y ≤ top) : low x + ((x :: xs).map width).sum ≤ top := by
  induction xs generalizing x with
  | nil => simpa using bounded x List.mem_cons_self
  | cons y xs ih =>
    obtain ⟨first, rest⟩ := List.pairwise_cons.mp ascending
    have next := first y List.mem_cons_self
    have later := ih rest fun z member => bounded z (List.mem_cons_of_mem _ member)
    rw [List.map_cons, List.sum_cons]
    omega

theorem sum_sorted (sorted : xs.Pairwise fun y z => time y ≤ time z) (consecutive : xs.Pairwise (Consecutive time low width))
    (bounded : ∀ y ∈ xs, low y + width y ≤ top) (member : x ∈ xs) (earliest : ∀ y ∈ xs, time x ≤ time y) :
    low x + (xs.map width).sum ≤ top := by
  have ascending := (sorted.and consecutive).imp fun {y z} both => both.2.1 both.1
  cases xs with
  | nil => cases member
  | cons y xs =>
    have whole := sum_ascending ascending bounded
    rcases List.mem_cons.mp member with rfl | later
    · exact whole
    · -- an earliest span that does not come first is as early as the first
      have begins := ((List.pairwise_cons.mp consecutive).1 x later).2 (earliest y List.mem_cons_self)
      omega

/-- Consecutive spans fit between the beginning of an earliest one and what is above all of them. -/
theorem sum_consecutive (consecutive : xs.Pairwise (Consecutive time low width)) (bounded : ∀ y ∈ xs, low y + width y ≤ top)
    (member : x ∈ xs) (earliest : ∀ y ∈ xs, time x ≤ time y) : low x + (xs.map width).sum ≤ top := by
  have : Std.Total fun y z : α => time y ≤ time z := ⟨fun _ _ => le_total _ _⟩
  have : IsTrans α fun y z => time y ≤ time z := ⟨fun _ _ _ => le_trans⟩
  have same := List.perm_insertionSort (fun y z => time y ≤ time z) xs
  rw [← (same.map width).sum_nat]
  exact sum_sorted (List.pairwise_insertionSort _ xs) (same.symm.pairwise consecutive Consecutive.symm)
    (fun y among => bounded y (same.mem_iff.mp among)) (same.mem_iff.mpr member) fun y among => earliest y (same.mem_iff.mp among)

end AgentOps.Lib
