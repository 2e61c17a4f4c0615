import Mathlib.Data.List.Count
import Mathlib.Data.List.Basic
import Mathlib.Tactic.Common

namespace AgentOps.Lib

variable {σ ι : Type} {step : σ → ι → Option σ} {ok : σ → ι → Prop}

/-- A run from `s₀`: the labels taken, each with the state it was taken in, and the last state. -/
inductive Run (step : σ → ι → Option σ) (s₀ : σ) : List (σ × ι) → σ → Prop where
  | start : Run step s₀ [] s₀
  | next {events : List (σ × ι)} {s s' : σ} {label : ι} (before : Run step s₀ events s)
      (taken : step s label = some s') : Run step s₀ (events ++ [(s, label)]) s'

/-- Every step of the run meets the condition `ok`. -/
def Conforms (ok : σ → ι → Prop) (events : List (σ × ι)) : Prop := ∀ e ∈ events, ok e.1 e.2

@[simp] theorem conforms_nil : Conforms ok ([] : List (σ × ι)) := by simp [Conforms]

@[simp] theorem conforms_append {events events' : List (σ × ι)} :
    Conforms ok (events ++ events') ↔ Conforms ok events ∧ Conforms ok events' := by
  simp [Conforms, or_imp, forall_and]

@[simp] theorem conforms_singleton {e : σ × ι} : Conforms ok [e] ↔ ok e.1 e.2 := by
  simp [Conforms]

theorem Conforms.mono {ok ok' : σ → ι → Prop} {events : List (σ × ι)} (weaker : ∀ s label, ok s label → ok' s label)
    (conforms : Conforms ok events) : Conforms ok' events :=
  fun e member => weaker _ _ (conforms e member)

namespace Run

/-- A property of the initial state that conforming steps preserve holds in every state reached. -/
theorem invariant {s₀ s : σ} {events : List (σ × ι)} (inv : σ → Prop) (run : Run step s₀ events s)
    (conforms : Conforms ok events) (initial : inv s₀)
    (preserved : ∀ s label s', inv s → ok s label → step s label = some s' → inv s') : inv s := by
  induction run with
  | start => exact initial
  | next before taken ih =>
    simp only [conforms_append, conforms_singleton] at conforms
    exact preserved _ _ _ (ih conforms.1) conforms.2 taken

theorem always {s₀ s : σ} {events : List (σ × ι)} (inv : σ → Prop) (run : Run step s₀ events s) (initial : inv s₀)
    (preserved : ∀ s label s', inv s → step s label = some s' → inv s') : inv s := by
  induction run with
  | start => exact initial
  | next before taken ih => exact preserved _ _ _ ih taken

theorem history {s₀ s : σ} {events : List (σ × ι)} (inv : List (σ × ι) → σ → Prop) (run : Run step s₀ events s)
    (conforms : Conforms ok events) (initial : inv [] s₀)
    (preserved : ∀ events s label s', Run step s₀ events s → Conforms ok events → inv events s → ok s label →
      step s label = some s' → inv (events ++ [(s, label)]) s') : inv events s := by
  induction run with
  | start => exact initial
  | next before taken ih =>
    simp only [conforms_append, conforms_singleton] at conforms
    exact preserved _ _ _ _ before conforms.1 (ih conforms.1) conforms.2 taken

theorem append {s₀ s₁ s₂ : σ} {events events' : List (σ × ι)} (first : Run step s₀ events s₁)
    (second : Run step s₁ events' s₂) : Run step s₀ (events ++ events') s₂ := by
  induction second with
  | start => simpa using first
  | next _ taken ih =>
    rw [← List.append_assoc]
    exact ih.next taken

theorem last {s₀ s s' : σ} {events : List (σ × ι)} {label : ι} (run : Run step s₀ (events ++ [(s, label)]) s') :
    Run step s₀ events s ∧ step s label = some s' := by
  generalize located : events ++ [(s, label)] = whole at run
  cases run with
  | start => simp at located
  | next before taken =>
    obtain ⟨rfl, same⟩ := List.append_inj' located rfl
    obtain ⟨rfl, rfl⟩ := Prod.mk.inj (List.singleton_inj.mp same)
    exact ⟨before, taken⟩

theorem split {s₀ s : σ} {before after : List (σ × ι)} {e : σ × ι} (run : Run step s₀ (before ++ e :: after) s) :
    ∃ s', Run step s₀ before e.1 ∧ step e.1 e.2 = some s' ∧ Run step s' after s := by
  generalize located : before ++ e :: after = events at run
  induction run generalizing after with
  | start => simp at located
  | @next events s s' label first taken ih =>
    rcases List.eq_nil_or_concat after with rfl | ⟨rest, last, rfl⟩
    · obtain ⟨rfl, same⟩ := List.append_inj' located rfl
      obtain rfl : e = (s, label) := by simpa using same
      exact ⟨s', first, taken, .start⟩
    · rw [List.concat_eq_append, ← List.cons_append, ← List.append_assoc] at located
      obtain ⟨rfl, same⟩ := List.append_inj' located rfl
      obtain ⟨middle, prefixRun, taken', suffixRun⟩ := ih rfl
      obtain rfl : last = (s, label) := by simpa using same
      rw [List.concat_eq_append]
      exact ⟨middle, prefixRun, taken', suffixRun.next taken⟩

theorem of_mem {s₀ s : σ} {events : List (σ × ι)} {e : σ × ι} (run : Run step s₀ events s) (member : e ∈ events) :
    ∃ before after s', events = before ++ e :: after ∧ Run step s₀ before e.1 ∧ step e.1 e.2 = some s' ∧
      Run step s' after s := by
  obtain ⟨before, after, rfl⟩ := List.append_of_mem member
  obtain ⟨s', first, taken, rest⟩ := run.split
  exact ⟨before, after, s', rfl, first, taken, rest⟩

theorem pairwise {s₀ s : σ} {events : List (σ × ι)} (run : Run step s₀ events s) (rel : σ × ι → σ × ι → Prop)
    (after : σ × ι → σ → Prop) (established : ∀ s label s', step s label = some s' → after (s, label) s')
    (kept : ∀ e s label s', after e s → step s label = some s' → after e s')
    (related : ∀ e s label, after e s → rel e (s, label)) : events.Pairwise rel := by
  have whole : events.Pairwise rel ∧ ∀ e ∈ events, after e s := by
    induction run with
    | start => exact ⟨.nil, by simp⟩
    | @next events s s' label before taken ih =>
      obtain ⟨apart, since⟩ := ih
      refine ⟨List.pairwise_append.mpr ⟨apart, List.pairwise_singleton _ _, fun e member e' last => ?_⟩, fun e member => ?_⟩
      · obtain rfl := List.mem_singleton.mp last
        exact related e s label (since e member)
      · rcases List.mem_append.mp member with earlier | last
        · exact kept e s label s' (since e earlier) taken
        · obtain rfl := List.mem_singleton.mp last
          exact established s label s' taken
  exact whole.1

theorem countP_le {s₀ s : σ} {events : List (σ × ι)} (run : Run step s₀ events s) (counted : σ → ι → Bool)
    (pending bound : σ → Nat) (initial : pending s₀ ≤ bound s₀)
    (preserved : ∀ events s label s', Run step s₀ events s → step s label = some s' →
      (if counted s label = true then 1 else 0) + pending s' + bound s ≤ pending s + bound s') :
    events.countP (fun e => counted e.1 e.2) + pending s ≤ bound s := by
  induction run with
  | start => simpa using initial
  | @next events s s' label before taken ih =>
    have kept := preserved events s label s' before taken
    rw [List.countP_append, List.countP_singleton]
    simp only
    omega

end Run

def exec (step : σ → ι → Option σ) (s : σ) : List ι → Option (List (σ × ι) × σ)
  | [] => some ([], s)
  | label :: labels =>
    match step s label with
    | none => none
    | some s' => (exec step s' labels).map fun (events, last) => ((s, label) :: events, last)

theorem Run.cons {s s' last : σ} {label : ι} {events : List (σ × ι)} (taken : step s label = some s')
    (rest : Run step s' events last) : Run step s ((s, label) :: events) last :=
  append (.next .start taken) rest

theorem run_of_exec {s last : σ} {labels : List ι} {events : List (σ × ι)}
    (executed : exec step s labels = some (events, last)) : Run step s events last := by
  induction labels generalizing s events with
  | nil =>
    obtain ⟨rfl, rfl⟩ : events = [] ∧ last = s := by simpa [exec, eq_comm] using executed
    exact .start
  | cons label labels ih =>
    cases taken : step s label with
    | none => simp [exec, taken] at executed
    | some s' =>
      simp only [exec, taken, Option.map_eq_some_iff] at executed
      obtain ⟨⟨rest, last'⟩, tail, same⟩ := executed
      obtain ⟨rfl, rfl⟩ : (s, label) :: rest = events ∧ last' = last := by simpa using same
      exact (ih tail).cons taken

/-- The labels can be taken one after the other, and lead from `s` to `s'`. -/
def Performs (step : σ → ι → Option σ) (s : σ) (labels : List ι) (s' : σ) : Prop :=
  ∃ events, exec step s labels = some (events, s')

theorem Performs.nil (s : σ) : Performs step s [] s := ⟨[], rfl⟩

theorem Performs.cons {s s' last : σ} {label : ι} {labels : List ι} (taken : step s label = some s')
    (rest : Performs step s' labels last) : Performs step s (label :: labels) last := by
  obtain ⟨events, executed⟩ := rest
  exact ⟨(s, label) :: events, by simp [exec, taken, executed]⟩

theorem Performs.uncons {s last : σ} {label : ι} {labels : List ι} (performs : Performs step s (label :: labels) last) :
    ∃ s', step s label = some s' ∧ Performs step s' labels last := by
  obtain ⟨events, executed⟩ := performs
  unfold exec at executed
  split at executed
  · cases executed
  · rename_i s' taken
    obtain ⟨⟨rest, last'⟩, tail, same⟩ := Option.map_eq_some_iff.mp executed
    obtain rfl := congrArg Prod.snd same
    exact ⟨s', taken, rest, tail⟩

theorem Performs.invariant {s s' : σ} {labels : List ι} (inv : σ → Prop) (performs : Performs step s labels s')
    (initial : inv s) (preserved : ∀ label ∈ labels, ∀ s s', inv s → step s label = some s' → inv s') : inv s' := by
  induction labels generalizing s with
  | nil =>
    obtain ⟨events, executed⟩ := performs
    obtain ⟨-, rfl⟩ := Prod.mk.inj (Option.some.inj executed)
    exact initial
  | cons label labels ih =>
    obtain ⟨s₁, taken, rest⟩ := performs.uncons
    exact ih rest (preserved label (List.mem_cons_self ..) _ _ initial taken)
      fun label' member => preserved label' (List.mem_cons_of_mem _ member)

theorem exists_run_with {s : σ} (labels : List ι) (p : List (σ × ι) → σ → Prop)
    [∀ events last, Decidable (p events last)]
    (found : ((exec step s labels).any fun result => decide (p result.1 result.2)) = true) :
    ∃ events last, Run step s events last ∧ p events last := by
  cases executed : exec step s labels with
  | none => simp [executed] at found
  | some result =>
    obtain ⟨events, last⟩ := result
    exact ⟨events, last, run_of_exec executed, by simpa [executed] using found⟩

theorem exists_run {s : σ} (labels : List ι) (p : σ → Prop) [DecidablePred p]
    (found : ((exec step s labels).any fun result => decide (p result.2)) = true) :
    ∃ events last, Run step s events last ∧ p last :=
  exists_run_with labels (fun _ last => p last) found

theorem exists_conforming_run {s : σ} (labels : List ι) (check : σ → ι → Bool) (p : σ → Prop) [DecidablePred p]
    (checked : ∀ s label, check s label = true → ok s label)
    (found : ((exec step s labels).any fun result =>
      (result.1.all fun e => check e.1 e.2) && decide (p result.2)) = true) :
    ∃ events last, Run step s events last ∧ Conforms ok events ∧ p last := by
  obtain ⟨events, last, run, conforming, holds⟩ : ∃ events last, Run step s events last ∧
      (events.all fun e => check e.1 e.2) = true ∧ p last :=
    exists_run_with labels (fun events last => (events.all fun e => check e.1 e.2) = true ∧ p last)
      (by simpa using found)
  exact ⟨events, last, run, fun e member => checked _ _ (List.all_eq_true.mp conforming e member), holds⟩

def states (events : List (σ × ι)) (last : σ) : List σ := events.map Prod.fst ++ [last]

theorem states_append (events : List (σ × ι)) (s last : σ) (label : ι) :
    states (events ++ [(s, label)]) last = states events s ++ [last] := by simp [states]

theorem Run.start_mem {s₀ s : σ} {events : List (σ × ι)} (run : Run step s₀ events s) : s₀ ∈ states events s := by
  induction run with
  | start => exact List.mem_singleton.mpr rfl
  | next _ _ ih =>
    rw [states_append]
    exact List.mem_append_left _ ih

/-- What conforming steps preserve holds in every state passed. -/
theorem Run.throughout {s₀ s : σ} {events : List (σ × ι)} (inv : σ → Prop) (run : Run step s₀ events s)
    (conforms : Conforms ok events) (initial : inv s₀)
    (preserved : ∀ s label s', inv s → ok s label → step s label = some s' → inv s') : ∀ t ∈ states events s, inv t := by
  induction run with
  | start =>
    intro t member
    rwa [List.mem_singleton.mp member]
  | next before taken ih =>
    simp only [conforms_append, conforms_singleton] at conforms
    rw [states_append]
    intro t member
    rcases List.mem_append.mp member with earlier | now
    · exact ih conforms.1 t earlier
    · rw [List.mem_singleton.mp now]
      exact preserved _ _ _ (before.invariant inv conforms.1 initial preserved) conforms.2 taken

def Occurred (opens : ι → Prop) (events : List (σ × ι)) : Prop := ∃ opening e since, events = opening ++ e :: since ∧ opens e.2

/-- Since an event of the kind `opens`, the run has passed a state where `p` holds. -/
def PassedSince (opens : ι → Prop) (p : σ → Prop) (events : List (σ × ι)) : Prop :=
  ∃ opening e since, events = opening ++ e :: since ∧ opens e.2 ∧ ∃ t ∈ since, p t.1

/-- `p` holds in a state that the run passes after an event of the kind `opens` and before one of the kind `closes`. -/
def HeldBetween (opens closes : ι → Prop) (p : σ → Prop) (events : List (σ × ι)) : Prop :=
  ∃ opening e between e' later, events = opening ++ e :: (between ++ e' :: later) ∧ opens e.2 ∧ closes e'.2 ∧
    ∃ t ∈ states between e'.1, p t

section Between

variable {opens closes : ι → Prop} {p : σ → Prop} {events : List (σ × ι)} {s : σ} {label : ι}

theorem Occurred.of_opens (now : opens label) : Occurred opens (events ++ [(s, label)]) :=
  ⟨events, (s, label), [], rfl, now⟩

theorem Occurred.append (occurred : Occurred opens events) (later : List (σ × ι)) : Occurred opens (events ++ later) := by
  obtain ⟨opening, e, since, rfl, opened⟩ := occurred
  exact ⟨opening, e, since ++ later, by simp, opened⟩

theorem PassedSince.append (passed : PassedSince opens p events) (later : List (σ × ι)) :
    PassedSince opens p (events ++ later) := by
  obtain ⟨opening, e, since, rfl, opened, t, member, holds⟩ := passed
  exact ⟨opening, e, since ++ later, by simp, opened, t, List.mem_append_left _ member, holds⟩

theorem Occurred.passed (occurred : Occurred opens events) (holds : p s) :
    PassedSince opens p (events ++ [(s, label)]) := by
  obtain ⟨opening, e, since, rfl, opened⟩ := occurred
  exact ⟨opening, e, since ++ [(s, label)], by simp, opened, (s, label), by simp, holds⟩

theorem HeldBetween.append (held : HeldBetween opens closes p events) (later : List (σ × ι)) :
    HeldBetween opens closes p (events ++ later) := by
  obtain ⟨opening, e, between, e', rest, rfl, opened, closed, holds⟩ := held
  exact ⟨opening, e, between, e', rest ++ later, by simp, opened, closed, holds⟩

theorem PassedSince.close (passed : PassedSince opens p events) (now : closes label) :
    HeldBetween opens closes p (events ++ [(s, label)]) := by
  obtain ⟨opening, e, since, rfl, opened, t, member, holds⟩ := passed
  refine ⟨opening, e, since, (s, label), [], by simp, opened, now, t.1, ?_, holds⟩
  exact List.mem_append_left _ (List.mem_map_of_mem member)

theorem not_heldBetween (apart : events.Pairwise fun e e' => ¬(opens e.2 ∧ p e'.1)) :
    ¬HeldBetween opens closes p events := by
  rintro ⟨opening, e, between, e', later, rfl, opened, -, t, member, holds⟩
  have after := (List.pairwise_cons.mp (List.pairwise_append.mp apart).2.1).1
  rcases List.mem_append.mp member with passed | last
  · obtain ⟨x, inside, rfl⟩ := List.mem_map.mp passed
    exact after x (List.mem_append_left _ inside) ⟨opened, holds⟩
  · obtain rfl := List.mem_singleton.mp last
    exact after e' (by simp) ⟨opened, holds⟩

end Between

end AgentOps.Lib
