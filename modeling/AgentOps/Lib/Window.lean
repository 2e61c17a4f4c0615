import Mathlib.Data.List.Perm.Subperm
import Mathlib.Tactic.Common

namespace AgentOps.Lib

/-! # Limits over a sliding window of time -/

section

variable {α : Type} (time : α → Nat) (counted : α → Bool) (interval : Nat)

def inWindow (start : Nat) (xs : List α) : List α :=
  xs.filter fun x => counted x && start ≤ time x && time x < start + interval

def recent (now : Nat) (xs : List α) : List α := xs.filter fun x => counted x && now < time x + interval

variable {time counted interval} {x : α} {xs : List α} {limit : Nat}

theorem inWindow_cons (bounded : ∀ start, (inWindow time counted interval start xs).length ≤ limit)
    (room : counted x → (recent time counted interval (time x) xs).length < limit) (start : Nat) :
    (inWindow time counted interval start (x :: xs)).length ≤ limit := by
  by_cases inside : counted x ∧ start ≤ time x ∧ time x < start + interval
  · have among : inWindow time counted interval start xs = (recent time counted interval (time x) xs).filter
        fun y => start ≤ time y && time y < start + interval := by
      simp only [inWindow, recent, List.filter_filter]
      apply List.filter_congr
      intro y _
      by_cases from_start : start ≤ time y
      · have new : time x < time y + interval := by omega
        simp [from_start, new, Bool.and_comm]
      · simp [from_start]
    have fewer : (inWindow time counted interval start xs).length < limit := by
      rw [among]
      exact Nat.lt_of_le_of_lt (List.length_filter_le _ _) (room inside.1)
    rw [inWindow, List.filter_cons_of_pos (by simp [inside])]
    exact fewer
  · rw [inWindow, List.filter_cons_of_neg (by simpa [and_assoc] using inside)]
    exact bounded start

end

theorem length_le_of_named {α β κ : Type} {xs : List α} {ys : List β} (key : α → κ) (name : β → κ)
    (nodup : (xs.map key).Nodup) (named : ∀ x ∈ xs, ∃ y ∈ ys, name y = key x) : xs.length ≤ ys.length := by
  have among : xs.map key ⊆ ys.map name := by
    intro k member
    obtain ⟨x, listed, rfl⟩ := List.mem_map.mp member
    obtain ⟨y, found, same⟩ := named x listed
    exact List.mem_map.mpr ⟨y, found, same⟩
  simpa using (List.subperm_of_subset nodup among).length_le

end AgentOps.Lib
