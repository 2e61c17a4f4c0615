import Mathlib.Data.List.Basic
import Mathlib.Tactic.Common

namespace AgentOps.Lib

def Exclusive {ς κ : Type} (grants : List (ς × κ)) : Prop := ∀ g ∈ grants, ∀ g' ∈ grants, g.2 = g'.2 → g.1 = g'.1

/-- Advisory locks of database sessions: a session is granted a key as often as it has taken it. -/
structure SessionLocks (ς κ : Type) where
  grants : List (ς × κ)
  exclusive : Exclusive grants

variable {ς κ : Type} {grants grants' : List (ς × κ)}

theorem Exclusive.nil : Exclusive ([] : List (ς × κ)) := by
  intro g member
  cases member

theorem Exclusive.mono (exclusive : Exclusive grants) (fewer : ∀ g ∈ grants', g ∈ grants) : Exclusive grants' :=
  fun g member g' member' => exclusive g (fewer g member) g' (fewer g' member')

theorem Exclusive.cons {s : ς} {k : κ} (exclusive : Exclusive grants) (free : ∀ g ∈ grants, g.2 = k → g.1 = s) :
    Exclusive ((s, k) :: grants) := by
  intro g member g' member' same
  rcases List.mem_cons.mp member with rfl | before <;> rcases List.mem_cons.mp member' with rfl | before'
  · rfl
  · exact (free g' before' same.symm).symm
  · exact free g before same
  · exact exclusive g before g' before' same

namespace SessionLocks

variable {locks locks' : SessionLocks ς κ} {s s' : ς} {k k' : κ}

def empty : SessionLocks ς κ := ⟨[], .nil⟩

def Holds (locks : SessionLocks ς κ) (s : ς) (k : κ) : Prop := (s, k) ∈ locks.grants

@[simp] theorem not_holds_empty : ¬(empty : SessionLocks ς κ).Holds s k := by simp [Holds, empty]

/-- Mutual exclusion: a key has one holder. -/
theorem Holds.unique (holds : locks.Holds s k) (holds' : locks.Holds s' k) : s = s' :=
  locks.exclusive _ holds _ holds' rfl

variable [DecidableEq ς] [DecidableEq κ]

instance : Decidable (locks.Holds s k) := by
  unfold Holds
  infer_instance

def tryLock (locks : SessionLocks ς κ) (s : ς) (k : κ) : Option (SessionLocks ς κ) :=
  if free : ∀ g ∈ locks.grants, g.2 = k → g.1 = s then some ⟨(s, k) :: locks.grants, locks.exclusive.cons free⟩ else none

def unlock (locks : SessionLocks ς κ) (s : ς) (k : κ) : SessionLocks ς κ :=
  ⟨locks.grants.erase (s, k), locks.exclusive.mono fun _ => List.mem_of_mem_erase⟩

def drop (locks : SessionLocks ς κ) (s : ς) : SessionLocks ς κ :=
  ⟨locks.grants.filter fun g => g.1 ≠ s, locks.exclusive.mono fun _ => List.mem_of_mem_filter⟩

theorem grants_tryLock (taken : locks.tryLock s k = some locks') : locks'.grants = (s, k) :: locks.grants := by
  unfold tryLock at taken
  split at taken
  · obtain rfl := Option.some.inj taken
    rfl
  · cases taken

theorem holds_tryLock (taken : locks.tryLock s k = some locks') :
    locks'.Holds s' k' ↔ s' = s ∧ k' = k ∨ locks.Holds s' k' := by
  simp [Holds, grants_tryLock taken]

theorem tryLock_eq_none : locks.tryLock s k = none ↔ ∃ s', s' ≠ s ∧ locks.Holds s' k := by
  unfold tryLock
  split <;> rename_i free
  · constructor
    · intro refused
      cases refused
    rintro ⟨s', other, holds⟩
    exact absurd (free _ holds rfl) other
  · refine ⟨fun _ => ?_, fun _ => rfl⟩
    push Not at free
    obtain ⟨⟨s', k'⟩, member, rfl, other⟩ := free
    exact ⟨s', other, member⟩

theorem Holds.of_unlock (holds : (locks.unlock s k).Holds s' k') : locks.Holds s' k' := List.mem_of_mem_erase holds

theorem Holds.unlock (holds : locks.Holds s' k') (other : s' ≠ s) : (locks.unlock s k).Holds s' k' :=
  (List.mem_erase_of_ne fun same => other (congrArg Prod.fst same)).mpr holds

omit [DecidableEq κ] in
theorem holds_drop : (locks.drop s).Holds s' k ↔ s' ≠ s ∧ locks.Holds s' k := by
  simp [Holds, drop, and_comm]

end SessionLocks

end AgentOps.Lib
