import Mathlib.Data.List.Sort

namespace AgentOps.Lib

/-! # Rows as a query returns them -/

section

variable {ρ κ : Type} [DecidableEq κ] (key : ρ → κ)

/-- `DISTINCT ON (key)`: the first row of each key -/
def distinctOn : List ρ → List ρ
  | [] => []
  | row :: rows => row :: (distinctOn rows).filter fun other => key other ≠ key row

theorem mem_of_mem_distinctOn {rows : List ρ} {row : ρ} (member : row ∈ distinctOn key rows) : row ∈ rows := by
  induction rows with
  | nil => exact member
  | cons first rows ih =>
    obtain rfl | member := List.mem_cons.1 member
    · exact List.mem_cons_self
    · exact List.mem_cons_of_mem _ (ih (List.mem_of_mem_filter member))

theorem exists_mem_distinctOn {rows : List ρ} {row : ρ} (member : row ∈ rows) :
    ∃ kept ∈ distinctOn key rows, key kept = key row := by
  induction rows with
  | nil => cases member
  | cons first rows ih =>
    by_cases same : key first = key row
    · exact ⟨first, List.mem_cons_self, same⟩
    · have later : row ∈ rows := by
        obtain rfl | later := List.mem_cons.1 member
        · exact absurd rfl same
        · exact later
      obtain ⟨kept, found, keyed⟩ := ih later
      have other : key kept ≠ key first := fun equal => same (equal.symm.trans keyed)
      exact ⟨kept, List.mem_cons_of_mem _ (List.mem_filter.2 ⟨found, by simpa using other⟩), keyed⟩

theorem distinctOn_injective {rows : List ρ} {row row' : ρ} (member : row ∈ distinctOn key rows)
    (member' : row' ∈ distinctOn key rows)
    (same : key row = key row') : row = row' := by
  induction rows with
  | nil => cases member
  | cons first rows ih =>
    simp only [distinctOn, List.mem_cons, List.mem_filter, decide_eq_true_eq] at member member'
    rcases member with rfl | ⟨member, other⟩ <;> rcases member' with rfl | ⟨member', other'⟩
    · rfl
    · exact absurd same.symm other'
    · exact absurd same other
    · exact ih member member'

end

section

variable {ρ σ : Type}

def join (rows : List ρ) (others : List σ) (on : ρ → σ → Bool) : List (ρ × σ) :=
  rows.flatMap fun row => (others.filter (on row)).map fun other => (row, other)

@[simp] theorem mem_join {rows : List ρ} {others : List σ} {on : ρ → σ → Bool} {row : ρ} {other : σ} :
    (row, other) ∈ join rows others on ↔ row ∈ rows ∧ other ∈ others ∧ on row other = true := by
  simp [join, List.mem_flatMap, List.mem_map, List.mem_filter]

/-- `ORDER BY`, in the order of the rows where the order given ties -/
def orderBy (before : ρ → ρ → Bool) (rows : List ρ) : List ρ :=
  rows.insertionSort fun row other => before row other = true

@[simp] theorem mem_orderBy {before : ρ → ρ → Bool} {rows : List ρ} {row : ρ} :
    row ∈ orderBy before rows ↔ row ∈ rows := by
  simp [orderBy]

theorem head_orderBy {before : ρ → ρ → Bool} (total : ∀ row other, before row other = true ∨ before other row = true)
    (trans : ∀ row other last, before row other = true → before other last = true → before row last = true) {rows : List ρ}
    {row : ρ} (read : (orderBy before rows).head? = some row) : row ∈ rows ∧ ∀ other ∈ rows, before row other = true := by
  have : Std.Total fun row other => before row other = true := ⟨total⟩
  have : IsTrans ρ fun row other => before row other = true := ⟨trans⟩
  have sorted := List.pairwise_insertionSort (fun row other => before row other = true) rows
  obtain ⟨rest, split⟩ := List.head?_eq_some_iff.mp read
  rw [orderBy] at split
  rw [split, List.pairwise_cons] at sorted
  refine ⟨mem_orderBy.mp (split ▸ List.mem_cons_self), fun other member => ?_⟩
  have listed : other ∈ row :: rest := split ▸ mem_orderBy.mpr member
  rcases List.mem_cons.mp listed with rfl | later
  · exact (total other other).elim id id
  · exact sorted.1 other later

theorem filter_orderedInsert {r : ρ → ρ → Prop} [DecidableRel r] [IsTrans ρ r] {p : ρ → Bool} {row : ρ} {rows : List ρ}
    (sorted : rows.Pairwise r) :
    (rows.orderedInsert r row).filter p = if p row then (rows.filter p).orderedInsert r row else rows.filter p := by
  induction rows with
  | nil => cases here : p row <;> simp [here]
  | cons first rows ih =>
    obtain ⟨least, sorted⟩ := List.pairwise_cons.mp sorted
    by_cases before : r row first
    · rw [List.orderedInsert_cons_of_le r rows before, List.filter_cons]
      cases here : p row with
      | false => simp
      | true =>
        -- Each row that is left comes after the first one.
        have ahead : ∀ other ∈ (first :: rows).filter p, r row other := by
          intro other member
          rcases List.mem_cons.mp (List.mem_of_mem_filter member) with rfl | later
          · exact before
          · exact IsTrans.trans _ _ _ before (least other later)
        cases left : (first :: rows).filter p with
        | nil => simp
        | cons other others =>
          rw [if_pos rfl, if_pos rfl, List.orderedInsert_cons_of_le r others (ahead other (left ▸ List.mem_cons_self))]
    · rw [List.orderedInsert_of_not_le r rows before, List.filter_cons, ih sorted]
      cases here : p row with
      | false => simp [List.filter_cons]
      | true =>
        cases kept : p first with
        | false => simp [kept]
        | true => simp [kept, List.orderedInsert_of_not_le r _ before]

theorem filter_orderBy {before : ρ → ρ → Bool} (total : ∀ row other, before row other = true ∨ before other row = true)
    (trans : ∀ row other last, before row other = true → before other last = true → before row last = true) (p : ρ → Bool)
    (rows : List ρ) : orderBy before (rows.filter p) = (orderBy before rows).filter p := by
  have : Std.Total fun row other => before row other = true := ⟨total⟩
  have : IsTrans ρ fun row other => before row other = true := ⟨trans⟩
  unfold orderBy
  induction rows with
  | nil => rfl
  | cons row rows ih =>
    rw [List.insertionSort_cons, filter_orderedInsert (List.pairwise_insertionSort _ _), ← ih]
    cases here : p row <;> simp [here]

end

/-- `LIKE`, for a pattern without an escape -/
def like : List Char → List Char → Bool
  | [], text => text.isEmpty
  | '%' :: pattern, text => text.tails.any (like pattern)
  | _ :: _, [] => false
  | p :: pattern, c :: text => (p = '_' || p = c) && like pattern text

end AgentOps.Lib
