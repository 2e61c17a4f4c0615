import Mathlib.Data.List.Nodup
import Mathlib.Algebra.Order.BigOperators.Group.List
import Mathlib.Algebra.Order.Ring.Nat
import Mathlib.Tactic.Common

namespace AgentOps.Lib

structure Table {κ ρ : Type} (key : ρ → κ) where
  rows : List ρ
  distinct : (rows.map key).Nodup

namespace Table

variable {κ ρ : Type} {key : ρ → κ}

instance : Membership ρ (Table key) := ⟨fun t r => r ∈ t.rows⟩

theorem mem_def (t : Table key) (r : ρ) : r ∈ t ↔ r ∈ t.rows := Iff.rfl

def empty : Table key := ⟨[], List.nodup_nil⟩

def singleton (r : ρ) : Table key := ⟨[r], List.nodup_singleton _⟩

@[simp] theorem not_mem_empty (r : ρ) : r ∉ (empty : Table key) := by simp [mem_def, empty]

theorem eq_of_key {t : Table key} {r r' : ρ} (member : r ∈ t) (member' : r' ∈ t)
    (same : key r = key r') : r = r' :=
  List.inj_on_of_nodup_map t.distinct member member' same

def rewrite (t : Table key) (f : ρ → ρ) (keyed : ∀ r, key (f r) = key r) : Table key where
  rows := t.rows.map f
  distinct := by
    have keys : key ∘ f = key := funext keyed
    rw [List.map_map, keys]
    exact t.distinct

def sum (t : Table key) (w : ρ → Nat) : Nat := (t.rows.map w).sum

@[simp] theorem sum_empty (w : ρ → Nat) : (empty : Table key).sum w = 0 := rfl

theorem sum_congr {t : Table key} {w w' : ρ → Nat} (agree : ∀ r ∈ t, w r = w' r) : t.sum w = t.sum w' := by
  unfold sum
  rw [List.map_congr_left agree]

theorem sum_mono {t : Table key} {w w' : ρ → Nat} (le : ∀ r ∈ t, w r ≤ w' r) : t.sum w ≤ t.sum w' :=
  List.sum_le_sum le

theorem sum_indicator (t : Table key) (p : ρ → Prop) [DecidablePred p] :
    (t.sum fun r => if p r then 1 else 0) = (t.rows.filter p).length := by
  unfold sum
  induction t.rows with
  | nil => rfl
  | cons r rows ih => by_cases holds : p r <;> simp [holds, ih, Nat.add_comm]

theorem weight_le_sum {t : Table key} {r : ρ} (w : ρ → Nat) (member : r ∈ t) : w r ≤ t.sum w :=
  List.single_le_sum (fun _ _ => Nat.zero_le _) _ (List.mem_map_of_mem member)

variable [DecidableEq κ]

def find? (t : Table key) (k : κ) : Option ρ := t.rows.find? fun r => key r = k

theorem find?_eq_some {t : Table key} {k : κ} {r : ρ} : t.find? k = some r ↔ r ∈ t ∧ key r = k := by
  constructor
  · intro found
    exact ⟨List.mem_of_find?_eq_some found, by simpa using List.find?_some found⟩
  · rintro ⟨member, rfl⟩
    cases found : t.find? (key r) with
    | none =>
      have missing := List.find?_eq_none.mp found r member
      simp at missing
    | some r' =>
      have located : key r' = key r := by simpa using List.find?_some found
      rw [eq_of_key (List.mem_of_find?_eq_some found) member located]

theorem find?_eq_none {t : Table key} {k : κ} : t.find? k = none ↔ ∀ r ∈ t, key r ≠ k := by
  simp [find?, List.find?_eq_none, mem_def]

theorem mem_of_find? {t : Table key} {k : κ} {r : ρ} (found : t.find? k = some r) : r ∈ t :=
  (find?_eq_some.mp found).1

theorem key_of_find? {t : Table key} {k : κ} {r : ρ} (found : t.find? k = some r) : key r = k :=
  (find?_eq_some.mp found).2

theorem find?_of_mem {t : Table key} {r : ρ} (member : r ∈ t) : t.find? (key r) = some r :=
  find?_eq_some.mpr ⟨member, rfl⟩

omit [DecidableEq κ] in
theorem mem_rewrite {t : Table key} {f : ρ → ρ} {keyed : ∀ r, key (f r) = key r} {r : ρ} :
    r ∈ t.rewrite f keyed ↔ ∃ old ∈ t, f old = r := List.mem_map

theorem find?_rewrite {t : Table key} {f : ρ → ρ} (keyed : ∀ r, key (f r) = key r) (k : κ) :
    (t.rewrite f keyed).find? k = (t.find? k).map f := by
  cases found : t.find? k with
  | none =>
    rw [find?_eq_none] at found
    rw [Option.map_none, find?_eq_none]
    intro r member
    obtain ⟨old, before, rfl⟩ := mem_rewrite.mp member
    rw [keyed]
    exact found old before
  | some r =>
    obtain ⟨member, rfl⟩ := find?_eq_some.mp found
    exact find?_eq_some.mpr ⟨mem_rewrite.mpr ⟨r, member, rfl⟩, keyed r⟩

@[simp] theorem find?_empty (k : κ) : (empty : Table key).find? k = none := rfl

theorem map_key_put (rows : List ρ) (r : ρ) :
    (rows.map fun r' => if key r' = key r then r else r').map key = rows.map key := by
  rw [List.map_map]
  apply List.map_congr_left
  intro r' _
  by_cases same : key r' = key r <;> simp [same]

/-- Replace the row that has the key of `r`. -/
def put (t : Table key) (r : ρ) : Table key where
  rows := t.rows.map fun r' => if key r' = key r then r else r'
  distinct := by rw [map_key_put]; exact t.distinct

theorem mem_put {t : Table key} {r r' : ρ} :
    r' ∈ t.put r ↔ (r' ∈ t ∧ key r' ≠ key r) ∨ (r' = r ∧ ∃ old ∈ t, key old = key r) := by
  simp only [mem_def, put, List.mem_map]
  constructor
  · rintro ⟨old, member, rfl⟩
    by_cases same : key old = key r
    · exact .inr ⟨if_pos same, old, member, same⟩
    · exact .inl (by simpa [same] using member)
  · rintro (⟨member, other⟩ | ⟨rfl, old, member, same⟩)
    · exact ⟨r', member, if_neg other⟩
    · exact ⟨old, member, if_pos same⟩

@[simp] theorem find?_put_ne {t : Table key} {r : ρ} {k : κ} (other : key r ≠ k) :
    (t.put r).find? k = t.find? k := by
  cases found : t.find? k with
  | none =>
    rw [find?_eq_none] at found ⊢
    intro r' member
    rcases mem_put.mp member with ⟨member, -⟩ | ⟨rfl, -⟩
    · exact found r' member
    · exact other
  | some r' =>
    obtain ⟨member, rfl⟩ := find?_eq_some.mp found
    exact find?_eq_some.mpr ⟨mem_put.mpr (.inl ⟨member, Ne.symm other⟩), rfl⟩

theorem find?_put_self {t : Table key} {r old : ρ} (found : t.find? (key r) = some old) :
    (t.put r).find? (key r) = some r :=
  find?_eq_some.mpr ⟨mem_put.mpr (.inr ⟨rfl, old, find?_eq_some.mp found⟩), rfl⟩

theorem find?_put_none {t : Table key} {k : κ} (missing : t.find? k = none) (r : ρ) : (t.put r).find? k = none := by
  rw [find?_eq_none] at missing ⊢
  intro r' member
  rcases mem_put.mp member with ⟨member, -⟩ | ⟨rfl, old, member, same⟩
  · exact missing r' member
  · rw [← same]
    exact missing old member

theorem find?_put {t : Table key} {r old : ρ} {k : κ} (found : t.find? k = some old) :
    (t.put r).find? k = some (if key r = k then r else old) := by
  by_cases same : key r = k
  · subst same
    rw [if_pos rfl]
    exact find?_put_self found
  · rw [if_neg same, find?_put_ne same, found]

theorem rows_put {t : Table key} {r old : ρ} (found : t.find? (key r) = some old) :
    ∃ before after, t.rows = before ++ old :: after ∧ (t.put r).rows = before ++ r :: after := by
  obtain ⟨member, same⟩ := find?_eq_some.mp found
  have unique := t.distinct
  obtain ⟨before, after, split⟩ := List.append_of_mem member
  rw [split] at unique
  have others : ∀ r' ∈ before ++ after, key r' ≠ key r := by
    intro r' member' clash
    simp only [List.map_append, List.map_cons] at unique
    have apart := List.nodup_middle.mp unique
    rw [List.nodup_cons] at apart
    apply apart.1
    rw [← List.map_append, same, ← clash]
    exact List.mem_map_of_mem member'
  have unchanged (rows : List ρ) (sub : ∀ r' ∈ rows, r' ∈ before ++ after) :
      (rows.map fun r' => if key r' = key r then r else r') = rows := by
    conv_rhs => rw [← List.map_id rows]
    exact List.map_congr_left fun r' member' => if_neg (others r' (sub r' member'))
  refine ⟨before, after, split, ?_⟩
  simp only [put, split, List.map_append, List.map_cons, if_pos same]
  rw [unchanged before (fun r' => List.mem_append_left after),
    unchanged after (fun r' => List.mem_append_right before)]

theorem sum_put {t : Table key} {r old : ρ} (w : ρ → Nat) (found : t.find? (key r) = some old) :
    (t.put r).sum w + w old = t.sum w + w r := by
  obtain ⟨before, after, split, replaced⟩ := rows_put found
  simp only [sum, replaced, split, List.map_append, List.map_cons, List.sum_append, List.sum_cons]
  omega

theorem filter_put_joins {t : Table key} {r old : ρ} {p : ρ → Bool} (found : t.find? (key r) = some old)
    (without : p old = false) (now : p r = true) : ((t.put r).rows.filter p).Perm (r :: t.rows.filter p) := by
  obtain ⟨before, after, split, replaced⟩ := rows_put found
  rw [replaced, split]
  simp only [List.filter_append, List.filter_cons, without, now, if_true]
  exact List.perm_middle

theorem filter_put_stays {t : Table key} {r old : ρ} {p : ρ → Bool} (found : t.find? (key r) = some old)
    (without : p old = false) (still : p r = false) : (t.put r).rows.filter p = t.rows.filter p := by
  obtain ⟨before, after, split, replaced⟩ := rows_put found
  rw [replaced, split]
  simp [List.filter_append, without, still]

def modify (t : Table key) (k : κ) (f : ρ → ρ) : Table key :=
  match t.find? k with
  | none => t
  | some r => t.put (f r)

theorem modify_of_find? {t : Table key} {k : κ} {r : ρ} (found : t.find? k = some r) (f : ρ → ρ) :
    t.modify k f = t.put (f r) := by rw [modify, found]

theorem find?_modify_self {t : Table key} {k : κ} {r : ρ} {f : ρ → ρ} (keyed : ∀ r, key (f r) = key r)
    (found : t.find? k = some r) : (t.modify k f).find? k = some (f r) := by
  obtain rfl := key_of_find? found
  rw [modify_of_find? found, ← keyed r]
  exact find?_put_self (by rw [keyed r]; exact found)

theorem find?_modify_ne {t : Table key} {k k' : κ} {f : ρ → ρ} (keyed : ∀ r, key (f r) = key r) (other : k ≠ k') :
    (t.modify k f).find? k' = t.find? k' := by
  unfold modify
  split
  · rfl
  · rename_i r found
    rw [find?_put_ne]
    rw [keyed, key_of_find? found]
    exact other

theorem find?_modify {t : Table key} {k k' : κ} {f : ρ → ρ} (keyed : ∀ r, key (f r) = key r) :
    (t.modify k f).find? k' = (t.find? k').map fun r => if k = k' then f r else r := by
  by_cases same : k = k'
  · subst same
    cases found : t.find? k with
    | none => simp [modify, found]
    | some r => simp [find?_modify_self keyed found]
  · simp [find?_modify_ne keyed same, if_neg same]

theorem mem_modify {t : Table key} {k : κ} {f : ρ → ρ} {r' : ρ} (keyed : ∀ r, key (f r) = key r)
    (member : r' ∈ t.modify k f) : ∃ r ∈ t, key r' = key r ∧ r' = if k = key r then f r else r := by
  have found := find?_of_mem member
  rw [find?_modify keyed] at found
  obtain ⟨r, located, same⟩ := Option.map_eq_some_iff.mp found
  have keys := key_of_find? located
  exact ⟨r, mem_of_find? located, keys.symm, by rw [keys]; exact same.symm⟩

def insert? (t : Table key) (r : ρ) : Option (Table key) :=
  if fresh : ∀ r' ∈ t.rows, key r' ≠ key r then
    some ⟨r :: t.rows, by
      rw [List.map_cons, List.nodup_cons]
      refine ⟨fun taken => ?_, t.distinct⟩
      obtain ⟨r', member, same⟩ := List.mem_map.mp taken
      exact fresh r' member same⟩
  else none

theorem insert?_eq_some {t t' : Table key} {r : ρ} (inserted : t.insert? r = some t') :
    t'.rows = r :: t.rows ∧ t.find? (key r) = none := by
  unfold insert? at inserted
  split at inserted
  · rename_i fresh
    obtain rfl := Option.some.inj inserted
    exact ⟨rfl, find?_eq_none.mpr fresh⟩
  · cases inserted

theorem insert?_isSome {t : Table key} {r : ρ} (fresh : t.find? (key r) = none) : (t.insert? r).isSome := by
  have unused : ∀ r' ∈ t.rows, key r' ≠ key r := find?_eq_none.mp fresh
  simp only [insert?, dif_pos unused, Option.isSome_some]

theorem mem_insert? {t t' : Table key} {r r' : ρ} (inserted : t.insert? r = some t') :
    r' ∈ t' ↔ r' = r ∨ r' ∈ t := by
  simp [mem_def, (insert?_eq_some inserted).1]

theorem find?_insert?_self {t t' : Table key} {r : ρ} (inserted : t.insert? r = some t') :
    t'.find? (key r) = some r :=
  find?_eq_some.mpr ⟨(mem_insert? inserted).mpr (.inl rfl), rfl⟩

theorem find?_insert?_ne {t t' : Table key} {r : ρ} {k : κ} (inserted : t.insert? r = some t')
    (other : key r ≠ k) : t'.find? k = t.find? k := by
  simp [find?, (insert?_eq_some inserted).1, other]

theorem find?_insert?_of_find? {t t' : Table key} {r r' : ρ} {k : κ} (inserted : t.insert? r = some t')
    (found : t.find? k = some r') : t'.find? k = some r' := by
  by_cases same : key r = k
  · have fresh := (insert?_eq_some inserted).2
    rw [same, found] at fresh
    cases fresh
  · rw [find?_insert?_ne inserted same, found]

theorem sum_insert? {t t' : Table key} {r : ρ} (w : ρ → Nat) (inserted : t.insert? r = some t') :
    t'.sum w = w r + t.sum w := by
  simp [sum, (insert?_eq_some inserted).1]

def insertAll? (t : Table key) : List ρ → Option (Table key)
  | [] => some t
  | r :: rows => (t.insert? r).bind fun t' => t'.insertAll? rows

theorem rows_insertAll? {t t' : Table key} {rows : List ρ} (inserted : t.insertAll? rows = some t') :
    t'.rows = rows.reverse ++ t.rows := by
  induction rows generalizing t with
  | nil =>
    obtain rfl := Option.some.inj inserted
    rfl
  | cons r rows ih =>
    obtain ⟨middle, one, rest⟩ := Option.bind_eq_some_iff.mp inserted
    rw [ih rest, (insert?_eq_some one).1, List.reverse_cons, List.append_assoc, List.singleton_append]

theorem mem_insertAll? {t t' : Table key} {rows : List ρ} {r : ρ} (inserted : t.insertAll? rows = some t') :
    r ∈ t' ↔ r ∈ rows ∨ r ∈ t := by
  induction rows generalizing t with
  | nil =>
    obtain rfl := Option.some.inj inserted
    simp
  | cons first rows ih =>
    obtain ⟨middle, one, rest⟩ := Option.bind_eq_some_iff.mp inserted
    rw [ih rest, mem_insert? one, List.mem_cons]
    tauto

omit [DecidableEq κ] in
theorem ext_rows {t t' : Table key} (same : t.rows = t'.rows) : t = t' := by
  cases t
  cases t'
  simp only at same
  subst same
  rfl

def remove (t : Table key) (k : κ) : Table key where
  rows := t.rows.filter fun r => key r ≠ k
  distinct := (List.filter_sublist.map key).nodup t.distinct

theorem mem_remove {t : Table key} {k : κ} {r : ρ} : r ∈ t.remove k ↔ r ∈ t ∧ key r ≠ k := by
  simp [mem_def, remove]

@[simp] theorem find?_remove_self (t : Table key) (k : κ) : (t.remove k).find? k = none := by
  rw [find?_eq_none]
  intro r member
  exact (mem_remove.mp member).2

@[simp] theorem find?_remove_ne {t : Table key} {k k' : κ} (other : k ≠ k') : (t.remove k).find? k' = t.find? k' := by
  refine Option.ext fun r => ?_
  rw [find?_eq_some, find?_eq_some, mem_remove]
  constructor
  · rintro ⟨⟨member, -⟩, same⟩
    exact ⟨member, same⟩
  · rintro ⟨member, rfl⟩
    exact ⟨⟨member, Ne.symm other⟩, rfl⟩

theorem rows_remove {t : Table key} {k : κ} (missing : t.find? k = none) : (t.remove k).rows = t.rows :=
  List.filter_eq_self.mpr fun r member => by simpa using find?_eq_none.mp missing r member

def upsert (t : Table key) (r : ρ) : Table key where
  rows := r :: (t.remove (key r)).rows
  distinct := by
    rw [List.map_cons, List.nodup_cons]
    refine ⟨fun taken => ?_, (t.remove (key r)).distinct⟩
    obtain ⟨r', member, same⟩ := List.mem_map.mp taken
    exact (mem_remove.mp member).2 same

theorem mem_upsert {t : Table key} {r r' : ρ} : r' ∈ t.upsert r ↔ r' = r ∨ r' ∈ t ∧ key r' ≠ key r := by
  rw [mem_def, upsert, List.mem_cons, ← mem_def, mem_remove]

theorem rows_upsert {t : Table key} {r : ρ} (fresh : t.find? (key r) = none) : (t.upsert r).rows = r :: t.rows :=
  congrArg (r :: ·) (rows_remove fresh)

@[simp] theorem find?_upsert_ne {t : Table key} {r : ρ} {k : κ} (other : key r ≠ k) :
    (t.upsert r).find? k = t.find? k := by
  have passed : (t.upsert r).find? k = (t.remove (key r)).find? k := by simp [find?, upsert, other]
  rw [passed, find?_remove_ne other]

theorem sum_remove {t : Table key} {k : κ} {r : ρ} (w : ρ → Nat) (found : t.find? k = some r) :
    (t.remove k).sum w + w r = t.sum w := by
  obtain ⟨member, rfl⟩ := find?_eq_some.mp found
  have unique := t.distinct
  obtain ⟨before, after, split⟩ := List.append_of_mem member
  rw [split] at unique
  simp only [List.map_append, List.map_cons] at unique
  have apart := (List.nodup_cons.mp (List.nodup_middle.mp unique)).1
  have kept (rows : List ρ) (sub : ∀ r' ∈ rows, r' ∈ before ++ after) :
      (rows.filter fun r' => key r' ≠ key r) = rows := by
    refine List.filter_eq_self.mpr fun r' member' => ?_
    rw [decide_eq_true_eq]
    intro clash
    apply apart
    rw [← List.map_append, ← clash]
    exact List.mem_map_of_mem (sub r' member')
  have removed : (t.remove (key r)).rows = before ++ after := by
    have without : (r :: after).filter (fun r' => key r' ≠ key r) = after.filter fun r' => key r' ≠ key r := by simp
    show t.rows.filter (fun r' => key r' ≠ key r) = before ++ after
    rw [split, List.filter_append, without, kept before fun r' => List.mem_append_left after,
      kept after fun r' => List.mem_append_right before]
  simp only [sum, removed, split, List.map_append, List.map_cons, List.sum_append, List.sum_cons]
  omega

theorem sum_remove_eq (t : Table key) (k : κ) (w : ρ → Nat) :
    (t.remove k).sum w = t.sum fun r => if key r ≠ k then w r else 0 := by
  simp only [sum, remove]
  induction t.rows with
  | nil => rfl
  | cons r rows ih => by_cases same : key r = k <;> simp_all

theorem sum_upsert (t : Table key) (r : ρ) (w : ρ → Nat) :
    (t.upsert r).sum w = w r + t.sum fun r' => if key r' ≠ key r then w r' else 0 := by
  rw [← sum_remove_eq]
  simp [sum, upsert]

theorem sum_modify_le {t : Table key} {k : κ} {f : ρ → ρ} {w : ρ → Nat} (keyed : ∀ r, key (f r) = key r)
    (less : ∀ r, w (f r) ≤ w r) : (t.modify k f).sum w ≤ t.sum w := by
  cases found : t.find? k with
  | none => simp [modify, found]
  | some r =>
    obtain rfl := key_of_find? found
    rw [modify_of_find? found]
    rw [← keyed r] at found
    have total := sum_put (r := f r) w found
    have smaller := less r
    omega

theorem find?_upsert_self (t : Table key) (r : ρ) : (t.upsert r).find? (key r) = some r :=
  find?_eq_some.mpr ⟨mem_upsert.mpr (.inl rfl), rfl⟩

theorem sum_change {t : Table key} {k : κ} {r : ρ} {w v : ρ → Nat} (found : t.find? k = some r)
    (elsewhere : ∀ r' ∈ t, key r' ≠ k → v r' = w r') : t.sum v + w r = t.sum w + v r := by
  have before := sum_remove w found
  have after := sum_remove v found
  have rest : (t.remove k).sum v = (t.remove k).sum w := by
    refine sum_congr fun r' member => ?_
    obtain ⟨member, other⟩ := mem_remove.mp member
    exact elsewhere r' member other
  omega

theorem sum_le_of_find? {ρ' : Type} {key' : ρ' → κ} {t : Table key} {t' : Table key'} {w : ρ → Nat} {w' : ρ' → Nat}
    (covered : ∀ r ∈ t, w r = 0 ∨ ∃ r', t'.find? (key r) = some r' ∧ w r ≤ w' r') : t.sum w ≤ t'.sum w' := by
  obtain ⟨rows, distinct⟩ := t
  induction rows generalizing t' with
  | nil => exact Nat.zero_le _
  | cons r rows ih =>
    rw [List.map_cons, List.nodup_cons] at distinct
    obtain ⟨apart, distinct⟩ := distinct
    have others (r₂ : ρ) (member : r₂ ∈ rows) : key r₂ ≠ key r := by
      intro same
      exact apart (same ▸ List.mem_map_of_mem member)
    show w r + (⟨rows, distinct⟩ : Table key).sum w ≤ t'.sum w'
    rcases covered r (List.mem_cons_self ..) with zero | ⟨r', found, le⟩
    · rw [zero, Nat.zero_add]
      exact ih distinct fun r₂ member => covered r₂ (List.mem_cons_of_mem _ member)
    · have rest : (⟨rows, distinct⟩ : Table key).sum w ≤ (t'.remove (key r)).sum w' := by
        refine ih distinct fun r₂ member => ?_
        refine (covered r₂ (List.mem_cons_of_mem _ member)).imp_right fun ⟨r₂', found', le'⟩ => ⟨r₂', ?_, le'⟩
        refine find?_eq_some.mpr ⟨mem_remove.mpr ⟨mem_of_find? found', ?_⟩, key_of_find? found'⟩
        rw [key_of_find? found']
        exact others r₂ member
      have total := sum_remove w' found
      omega

theorem put_of_find? {t : Table key} {r : ρ} (found : t.find? (key r) = some r) : t.put r = t := by
  refine ext_rows ?_
  rw [put]
  conv_rhs => rw [← List.map_id t.rows]
  refine List.map_congr_left fun other member => ?_
  split
  · rename_i same
    exact eq_of_key (find?_eq_some.mp found).1 member same.symm
  · rfl

theorem insert?_put {t t' : Table key} {r r' : ρ} (inserted : t.insert? r = some t') (same : key r' = key r) :
    t.insert? r' = some (t'.put r') := by
  obtain ⟨rows, fresh⟩ := insert?_eq_some inserted
  have unused : ∀ old ∈ t.rows, key old ≠ key r' := by
    rw [same]
    exact find?_eq_none.mp fresh
  have kept : t.rows.map (fun old => if key old = key r' then r' else old) = t.rows := by
    conv_rhs => rw [← List.map_id t.rows]
    exact List.map_congr_left fun old member => if_neg (unused old member)
  simp only [insert?, dif_pos unused, Option.some.injEq]
  apply ext_rows
  simp only [put, rows, List.map_cons, if_pos same.symm, kept]

/-- Every row of `t` is still in `t'`, changed as `rel` allows. -/
def Grows (rel : ρ → ρ → Prop) (t t' : Table key) : Prop :=
  ∀ k r, t.find? k = some r → ∃ r', t'.find? k = some r' ∧ rel r r'

def Revised (rel : ρ → ρ → Prop) (t t' : Table key) : Prop := ∀ k, Option.Rel rel (t.find? k) (t'.find? k)

section Change

variable {rel : ρ → ρ → Prop} {t t' t'' : Table key} {r r' : ρ} {k : κ}

theorem Grows.refl (reflexive : ∀ r, rel r r) (t : Table key) : Grows rel t t :=
  fun _ r found => ⟨r, found, reflexive r⟩

theorem Grows.trans (transitive : ∀ a b c, rel a b → rel b c → rel a c) (first : Grows rel t t')
    (second : Grows rel t' t'') : Grows rel t t'' := by
  intro k r found
  obtain ⟨r', found', related⟩ := first k r found
  obtain ⟨r'', found'', related'⟩ := second k r' found'
  exact ⟨r'', found'', transitive _ _ _ related related'⟩

theorem Grows.mem (grows : Grows rel t t') (member : r ∈ t) : ∃ r' ∈ t', key r' = key r ∧ rel r r' := by
  obtain ⟨r', found, related⟩ := grows _ r (find?_of_mem member)
  exact ⟨r', mem_of_find? found, key_of_find? found, related⟩

theorem grows_insert? (reflexive : ∀ r, rel r r) (inserted : t.insert? r = some t') : Grows rel t t' :=
  fun _ r' found => ⟨r', find?_insert?_of_find? inserted found, reflexive r'⟩

theorem grows_modify {f : ρ → ρ} (reflexive : ∀ r, rel r r) (keyed : ∀ r, key (f r) = key r)
    (related : ∀ r, rel r (f r)) : Grows rel t (t.modify k f) := by
  intro k' r found
  rw [find?_modify keyed, found]
  refine ⟨_, rfl, ?_⟩
  split
  · exact related r
  · exact reflexive r

theorem Revised.refl (reflexive : ∀ r, rel r r) (t : Table key) : Revised rel t t := by
  intro k
  cases t.find? k with
  | none => exact .none
  | some r => exact .some (reflexive r)

theorem Revised.trans (transitive : ∀ a b c, rel a b → rel b c → rel a c) (first : Revised rel t t')
    (second : Revised rel t' t'') : Revised rel t t'' := by
  intro k
  have here := first k
  have there := second k
  cases found : t.find? k with
  | none =>
    rw [found] at here
    cases found' : t'.find? k with
    | none =>
      rw [found'] at there
      exact there
    | some r' => simp [found'] at here
  | some r =>
    rw [found] at here
    cases found' : t'.find? k with
    | none => simp [found'] at here
    | some r' =>
      rw [found'] at here there
      cases found'' : t''.find? k with
      | none => simp [found''] at there
      | some r'' =>
        rw [found''] at there
        exact .some (transitive _ _ _ (Option.rel_some_some.mp here) (Option.rel_some_some.mp there))

theorem Revised.grows (revised : Revised rel t t') : Grows rel t t' := by
  intro k r found
  have here := revised k
  rw [found] at here
  cases found' : t'.find? k with
  | none => simp [found'] at here
  | some r' => exact ⟨r', rfl, by simpa [found'] using here⟩

theorem Revised.source (revised : Revised rel t t') (found : t'.find? k = some r') :
    ∃ r, t.find? k = some r ∧ rel r r' := by
  have here := revised k
  rw [found] at here
  cases found' : t.find? k with
  | none => simp [found'] at here
  | some r => exact ⟨r, rfl, by simpa [found'] using here⟩

theorem revised_put {old : ρ} (reflexive : ∀ r, rel r r) (found : t.find? (key r) = some old) (related : rel old r) :
    Revised rel t (t.put r) := by
  intro k
  by_cases same : key r = k
  · subst same
    rw [found, find?_put_self found]
    exact .some related
  · rw [find?_put_ne same]
    exact Revised.refl reflexive t k

theorem revised_rewrite {f : ρ → ρ} (keyed : ∀ r, key (f r) = key r) (related : ∀ r ∈ t, rel r (f r)) :
    Revised rel t (t.rewrite f keyed) := by
  intro k
  rw [find?_rewrite keyed]
  cases found : t.find? k with
  | none => exact .none
  | some r => exact .some (related r (mem_of_find? found))

end Change

end Table

end AgentOps.Lib
