import Mathlib.Tactic.Common

namespace AgentOps.Lib

/-! # Computations over a store, any of whose operations can fail

What an operation has written stays written when a later one fails. -/

def Fallible (σ α : Type) := σ → Nat → σ × Option (α × Nat)

namespace Fallible

variable {σ α β : Type}

def throw : Fallible σ α := fun s _ => (s, none)

def operation (f : σ → σ × α) : Fallible σ α := fun s left =>
  match left with
  | 0 => (s, none)
  | left + 1 => ((f s).1, some ((f s).2, left))

def query (f : σ → α) : Fallible σ α := operation fun s => (s, f s)

def write (f : σ → σ) : Fallible σ Unit := operation fun s => (f s, ())

instance : Monad (Fallible σ) where
  pure a := fun s left => (s, some (a, left))
  bind m f := fun s left =>
    match m s left with
    | (s', none) => (s', none)
    | (s', some (a, left')) => f a s' left'

/-- Where `pre` holds, `post` holds after a computation that succeeds, and `fail` after one that fails. -/
def Triple (pre : σ → Prop) (m : Fallible σ α) (post : α → σ → Prop) (fail : σ → Prop) : Prop :=
  ∀ s left, pre s → match m s left with
    | (s', some (a, _)) => post a s'
    | (s', none) => fail s'

namespace Triple

variable {pre pre' : σ → Prop} {m : Fallible σ α} {post post' : α → σ → Prop} {fail fail' : σ → Prop}

theorem throw (failed : ∀ s, pre s → fail s) : Triple pre (Fallible.throw : Fallible σ α) post fail :=
  fun s _ holds => failed s holds

theorem pure {a : α} (holds : ∀ s, pre s → post a s) : Triple pre (Pure.pure a : Fallible σ α) post fail :=
  fun s _ before => holds s before

theorem operation {f : σ → σ × α} (holds : ∀ s, pre s → post (f s).2 (f s).1) (failed : ∀ s, pre s → fail s) :
    Triple pre (Fallible.operation f) post fail := by
  intro s left before
  cases left with
  | zero => exact failed s before
  | succ left => exact holds s before

theorem query {f : σ → α} (holds : ∀ s, pre s → post (f s) s) (failed : ∀ s, pre s → fail s) :
    Triple pre (Fallible.query f) post fail := operation holds failed

theorem write {f : σ → σ} {post : Unit → σ → Prop} (holds : ∀ s, pre s → post () (f s)) (failed : ∀ s, pre s → fail s) :
    Triple pre (Fallible.write f) post fail := operation holds failed

theorem bind {f : α → Fallible σ β} {mid : α → σ → Prop} {post : β → σ → Prop} (first : Triple pre m mid fail)
    (rest : ∀ a, Triple (mid a) (f a) post fail) : Triple pre (m >>= f) post fail := by
  intro s left before
  have here := first s left before
  change match (match m s left with
    | (s', none) => (s', none)
    | (s', some (a, left')) => f a s' left') with
    | (s', some (a, _)) => post a s'
    | (s', none) => fail s'
  revert here
  cases m s left with
  | mk s' result =>
    cases result with
    | none => exact id
    | some answer => exact rest answer.1 s' answer.2

theorem weaken (triple : Triple pre m post fail) (stronger : ∀ s, pre' s → pre s) (weaker : ∀ a s, post a s → post' a s)
    (failed : ∀ s, fail s → fail' s) : Triple pre' m post' fail' := by
  intro s left before
  have here := triple s left (stronger s before)
  revert here
  cases m s left with
  | mk s' result =>
    cases result with
    | none => exact failed s'
    | some answer => exact weaker _ s'

theorem forM {xs : List α} {f : α → Fallible σ PUnit} {inv : σ → Prop} (round : ∀ x ∈ xs, Triple inv (f x) (fun _ => inv) inv) :
    Triple inv (xs.forM f) (fun _ => inv) inv := by
  induction xs with
  | nil => exact pure fun _ => id
  | cons x xs ih =>
    exact bind (round x List.mem_cons_self) fun _ => ih fun y member => round y (List.mem_cons_of_mem _ member)

theorem forM_each {xs : List α} {f : α → Fallible σ PUnit} {inv : σ → Prop} {done : α → σ → Prop}
    (round : ∀ x ∈ xs, Triple inv (f x) (fun _ s => inv s ∧ done x s) fail) (failed : ∀ s, inv s → fail s)
    (kept : ∀ x y, Triple (done x) (f y) (fun _ => done x) (done x)) :
    Triple inv (xs.forM f) (fun _ s => inv s ∧ ∀ x ∈ xs, done x s) fail := by
  induction xs with
  | nil => exact weaken (pure fun _ => id) (fun _ => id) (fun _ _ holds => ⟨holds, nofun⟩) failed
  | cons x xs ih =>
    have rest := ih fun y member => round y (List.mem_cons_of_mem _ member)
    refine bind (round x List.mem_cons_self) fun _ s left before => ?_
    have here := rest s left before.1
    have same := forM (fun y (_ : y ∈ xs) => kept x y) s left before.2
    revert here same
    cases xs.forM f s left with
    | mk s' result =>
      cases result with
      | none => exact fun here _ => here
      | some answer =>
        refine fun here same => ⟨here.1, fun y member => ?_⟩
        rcases List.mem_cons.mp member with rfl | member
        · exact same
        · exact here.2 y member

end Triple

/-- Whether the computation succeeds or fails, `p` stays. -/
def Keeps (p : σ → Prop) (m : Fallible σ α) : Prop := Triple p m (fun _ => p) p

namespace Keeps

variable {p : σ → Prop} {m : Fallible σ α}

theorem throw : Keeps p (Fallible.throw : Fallible σ α) := Triple.throw fun _ => id

theorem query {f : σ → α} : Keeps p (Fallible.query f) := Triple.query (fun _ => id) fun _ => id

theorem write {f : σ → σ} (kept : ∀ s, p s → p (f s)) : Keeps p (Fallible.write f) := Triple.write kept fun _ => id

theorem bind {f : α → Fallible σ β} (first : Keeps p m) (rest : ∀ a, Keeps p (f a)) : Keeps p (m >>= f) :=
  Triple.bind first rest

theorem forM {xs : List α} {f : α → Fallible σ PUnit} (round : ∀ x ∈ xs, Keeps p (f x)) : Keeps p (xs.forM f) :=
  Triple.forM round

theorem state (keeps : Keeps p m) {s : σ} (holds : p s) (left : Nat) : p (m s left).1 := by
  have here := keeps s left holds
  revert here
  cases m s left with
  | mk s' result =>
    cases result with
    | none => exact id
    | some answer => exact id

end Keeps

end Fallible

end AgentOps.Lib
