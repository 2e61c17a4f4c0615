import AgentOps.Lib.Json
import Mathlib.Data.List.Sort
import Mathlib.Data.List.Nodup
import Mathlib.Data.List.Pairwise

namespace AgentOps.Lib

/-! # JSON values up to the order of their keys -/

structure KeyOrder where
  le : String → String → Bool
  total : ∀ a b, le a b = true ∨ le b a = true
  trans : ∀ a b c, le a b = true → le b c = true → le a c = true

namespace KeyOrder

variable (order : KeyOrder)

def Ties (a b : String) : Prop := order.le a b = true ∧ order.le b a = true

instance (a b : String) : Decidable (order.Ties a b) := by
  unfold Ties
  infer_instance

theorem Ties.symm {order : KeyOrder} {a b : String} (ties : order.Ties a b) : order.Ties b a := ⟨ties.2, ties.1⟩

def entryLe {α : Type} (e e' : String × α) : Prop := order.le e.1 e'.1 = true

instance {α : Type} : DecidableRel (order.entryLe (α := α)) := fun e e' =>
  inferInstanceAs (Decidable (order.le e.1 e'.1 = true))

instance {α : Type} : Std.Total (order.entryLe (α := α)) := ⟨fun e e' => order.total e.1 e'.1⟩

instance {α : Type} : IsTrans (String × α) order.entryLe := ⟨fun e e' e'' => order.trans e.1 e'.1 e''.1⟩

def TieFree (keys : List String) : Prop := keys.Pairwise fun a b => ¬order.Ties a b

instance (keys : List String) : Decidable (order.TieFree keys) := by
  unfold TieFree
  infer_instance

theorem TieFree.perm {order : KeyOrder} {keys keys' : List String} (perm : keys.Perm keys') :
    order.TieFree keys ↔ order.TieFree keys' :=
  perm.pairwise_iff fun ties ties' => ties ties'.symm

theorem sort_eq_of_perm {α : Type} {entries entries' : List (String × α)} (perm : entries.Perm entries')
    (free : order.TieFree (entries.map Prod.fst)) :
    entries.insertionSort order.entryLe = entries'.insertionSort order.entryLe := by
  have sorted := List.pairwise_insertionSort order.entryLe entries
  have sorted' := List.pairwise_insertionSort order.entryLe entries'
  refine List.Perm.eq_of_pairwise ?_ sorted sorted'
    ((List.perm_insertionSort _ _).trans (perm.trans (List.perm_insertionSort _ _).symm))
  intro e e' member member' le le'
  rw [List.mem_insertionSort] at member member'
  have apart : entries.Pairwise fun e e' => ¬order.Ties e.1 e'.1 := List.pairwise_map.mp free
  by_contra different
  have : Std.Symm fun e e' : String × α => ¬order.Ties e.1 e'.1 := ⟨fun _ _ apart ties => apart ties.symm⟩
  exact apart.forall member (perm.mem_iff.mpr member') different ⟨le, le'⟩

theorem keys_sort {α : Type} (entries : List (String × α)) : (entries.insertionSort order.entryLe).map Prod.fst =
    (entries.map Prod.fst).insertionSort fun a b => order.le a b = true :=
  List.map_insertionSort _ _ _ _ fun _ _ _ _ => Iff.rfl

theorem sort_values {α β : Type} (f : α → β) (entries : List (String × α)) :
    (entries.map fun entry => (entry.1, f entry.2)).insertionSort order.entryLe =
      (entries.insertionSort order.entryLe).map fun entry => (entry.1, f entry.2) :=
  (List.map_insertionSort order.entryLe order.entryLe (fun entry => (entry.1, f entry.2)) entries
    fun _ _ _ _ => Iff.rfl).symm

def lexLe : List Nat → List Nat → Bool
  | [], _ => true
  | _ :: _, [] => false
  | a :: as, b :: bs => a < b || a = b && lexLe as bs

theorem lexLe_total (as bs : List Nat) : lexLe as bs = true ∨ lexLe bs as = true := by
  induction as generalizing bs with
  | nil => exact .inl rfl
  | cons a as ih =>
    cases bs with
    | nil => exact .inr rfl
    | cons b bs =>
      simp only [lexLe, Bool.or_eq_true, Bool.and_eq_true, decide_eq_true_eq]
      rcases Nat.lt_trichotomy a b with less | same | greater
      · exact .inl (.inl less)
      · rcases ih bs with le | le
        · exact .inl (.inr ⟨same, le⟩)
        · exact .inr (.inr ⟨same.symm, le⟩)
      · exact .inr (.inl greater)

theorem lexLe_trans (as bs cs : List Nat) (first : lexLe as bs = true) (second : lexLe bs cs = true) :
    lexLe as cs = true := by
  induction as generalizing bs cs with
  | nil => rfl
  | cons a as ih =>
    cases bs with
    | nil => cases first
    | cons b bs =>
      cases cs with
      | nil => cases second
      | cons c cs =>
        simp only [lexLe, Bool.or_eq_true, Bool.and_eq_true, decide_eq_true_eq] at first second ⊢
        rcases first with less | ⟨rfl, first⟩
        · rcases second with less' | ⟨rfl, -⟩
          · exact .inl (less.trans less')
          · exact .inl less
        · rcases second with less' | ⟨rfl, second⟩
          · exact .inl less'
          · exact .inr ⟨rfl, ih bs cs first second⟩

theorem lexLe_antisymm (as bs : List Nat) (first : lexLe as bs = true) (second : lexLe bs as = true) : as = bs := by
  induction as generalizing bs with
  | nil =>
    cases bs with
    | nil => rfl
    | cons b bs => cases second
  | cons a as ih =>
    cases bs with
    | nil => cases first
    | cons b bs =>
      simp only [lexLe, Bool.or_eq_true, Bool.and_eq_true, decide_eq_true_eq] at first second
      rcases first with less | ⟨rfl, first⟩
      · omega
      · rcases second with less | ⟨-, second⟩
        · omega
        · rw [ih bs first second]

def codePoints : KeyOrder where
  le a b := lexLe (a.toList.map Char.toNat) (b.toList.map Char.toNat)
  total _ _ := lexLe_total _ _
  trans _ _ _ := lexLe_trans _ _ _

theorem codePoints_ties {a b : String} : codePoints.Ties a b ↔ a = b := by
  constructor
  · rintro ⟨first, second⟩
    have same := lexLe_antisymm _ _ first second
    have injective : Function.Injective Char.toNat := fun c c' same => Char.ext (UInt32.toNat_inj.mp same)
    exact String.toList_injective (injective.list_map same)
  · rintro rfl
    simp only [Ties, and_self]
    exact (codePoints.total a a).elim id id

theorem codePoints_tieFree {keys : List String} : codePoints.TieFree keys ↔ keys.Nodup := by
  unfold TieFree List.Nodup
  simp only [codePoints_ties]

end KeyOrder

namespace Json

theorem ind {motive : Json → Prop} (null : motive .null) (bool : ∀ value, motive (.bool value))
    (number : ∀ rendered, motive (.number rendered)) (string : ∀ value, motive (.string value))
    (array : ∀ items, (∀ item ∈ items, motive item) → motive (.array items))
    (object : ∀ fields, (∀ entry ∈ fields, motive entry.2) → motive (.object fields)) (v : Json) : motive v :=
  @Json.rec motive (fun items => ∀ item ∈ items, motive item) (fun fields => ∀ entry ∈ fields, motive entry.2)
    (fun entry => motive entry.2) null bool number string array object (by simp)
    (fun _ _ first rest => List.forall_mem_cons.mpr ⟨first, rest⟩) (by simp)
    (fun _ _ first rest => List.forall_mem_cons.mpr ⟨first, rest⟩) (fun _ _ known => known) v

mutual

def rearrange (arrange : JsonObject → JsonObject) : Json → Json
  | .array items => .array (rearrangeItems arrange items)
  | .object fields => .object (arrange (rearrangeFields arrange fields))
  | v => v

def rearrangeItems (arrange : JsonObject → JsonObject) : List Json → List Json
  | [] => []
  | item :: items => item.rearrange arrange :: rearrangeItems arrange items

def rearrangeFields (arrange : JsonObject → JsonObject) : JsonObject → JsonObject
  | [] => []
  | (name, value) :: fields => (name, value.rearrange arrange) :: rearrangeFields arrange fields

end

variable {arrange : JsonObject → JsonObject}

theorem rearrange_array (items : List Json) :
    rearrange arrange (.array items) = .array (items.map (rearrange arrange)) := by
  have same : rearrangeItems arrange items = items.map (rearrange arrange) := by
    induction items with
    | nil => rfl
    | cons item items ih => rw [rearrangeItems, ih, List.map_cons]
  rw [rearrange, same]

theorem rearrange_object (fields : JsonObject) : rearrange arrange (.object fields) =
    .object (arrange (fields.map fun entry => (entry.1, entry.2.rearrange arrange))) := by
  have same : rearrangeFields arrange fields = fields.map fun entry => (entry.1, entry.2.rearrange arrange) := by
    induction fields with
    | nil => rfl
    | cons entry fields ih => rw [rearrangeFields, ih, List.map_cons]
  rw [rearrange, same]

def Permutes (arrange : JsonObject → JsonObject) : Prop := ∀ fields, (arrange fields).Perm fields

theorem Permutes.keys (permutes : Permutes arrange) (fields : JsonObject) :
    ((arrange (fields.map fun entry => (entry.1, entry.2.rearrange arrange))).map Prod.fst).Perm
      (fields.map Prod.fst) := by
  have perm := (permutes (fields.map fun entry => (entry.1, entry.2.rearrange arrange))).map Prod.fst
  rwa [List.map_map] at perm

def sortKeys (order : KeyOrder) : Json → Json := rearrange fun fields => fields.insertionSort order.entryLe

theorem sort_permutes (order : KeyOrder) : Permutes fun fields => fields.insertionSort order.entryLe :=
  fun _ => List.perm_insertionSort _ _

theorem sortKeys_object (order : KeyOrder) (fields : JsonObject) : sortKeys order (.object fields) =
    .object ((fields.map fun entry => (entry.1, entry.2.sortKeys order)).insertionSort order.entryLe) :=
  rearrange_object fields

theorem sortKeys_array (order : KeyOrder) (items : List Json) :
    sortKeys order (.array items) = .array (items.map (sortKeys order)) := rearrange_array items

theorem sortKeys_of_sorted {order : KeyOrder} {fields : JsonObject}
    (sorted : (fields.map Prod.fst).Pairwise fun a b => order.le a b = true)
    (inside : ∀ entry ∈ fields, entry.2.sortKeys order = entry.2) : sortKeys order (.object fields) = .object fields := by
  have unchanged : (fields.map fun entry => (entry.1, entry.2.sortKeys order)) = fields := by
    conv_rhs => rw [← List.map_id fields]
    exact List.map_congr_left fun entry member => Prod.ext rfl (inside entry member)
  rw [sortKeys_object, unchanged]
  congr 1
  have inOrder : fields.Pairwise order.entryLe := (List.pairwise_map (f := Prod.fst)).mp sorted
  exact inOrder.insertionSort_eq

mutual

def all (p : Json → Bool) : Json → Bool
  | .array items => p (.array items) && allItems p items
  | .object fields => p (.object fields) && allFields p fields
  | v => p v

def allItems (p : Json → Bool) : List Json → Bool
  | [] => true
  | item :: items => item.all p && allItems p items

def allFields (p : Json → Bool) : JsonObject → Bool
  | [] => true
  | (_, value) :: fields => value.all p && allFields p fields

end

variable {p q : Json → Bool}

theorem all_array (items : List Json) : all p (.array items) = (p (.array items) && items.all (all p)) := by
  have same : allItems p items = items.all (all p) := by
    induction items with
    | nil => rfl
    | cons item items ih => rw [allItems, ih, List.all_cons]
  rw [all, same]

theorem all_object (fields : JsonObject) :
    all p (.object fields) = (p (.object fields) && fields.all fun entry => entry.2.all p) := by
  have same : allFields p fields = fields.all fun entry => entry.2.all p := by
    induction fields with
    | nil => rfl
    | cons entry fields ih => rw [allFields, ih, List.all_cons]
  rw [all, same]

theorem all_array_iff {items : List Json} :
    all p (.array items) = true ↔ p (.array items) = true ∧ ∀ item ∈ items, item.all p = true := by
  rw [all_array, Bool.and_eq_true, List.all_eq_true]

theorem all_object_iff {fields : JsonObject} :
    all p (.object fields) = true ↔ p (.object fields) = true ∧ ∀ entry ∈ fields, entry.2.all p = true := by
  rw [all_object, Bool.and_eq_true, List.all_eq_true]

structure OfKeys (p : Json → Bool) : Prop where
  array : ∀ items items', p (.array items) = p (.array items')
  object : ∀ fields fields' : JsonObject, (fields.map Prod.fst).Perm (fields'.map Prod.fst) →
    p (.object fields) = p (.object fields')

theorem all_map_congr {α : Type} {items : List α} {f : α → α} {p : α → Bool} (same : ∀ a ∈ items, p (f a) = p a) :
    (items.map f).all p = items.all p := by
  rw [Bool.eq_iff_iff, List.all_eq_true, List.all_eq_true, List.forall_mem_map]
  exact forall₂_congr fun a member => by rw [same a member]

theorem OfKeys.rearrange (keys : OfKeys p) (permutes : Permutes arrange) (v : Json) :
    (v.rearrange arrange).all p = v.all p := by
  induction v using ind with
  | array items ih =>
    rw [rearrange_array, all_array, all_array, keys.array _ items, all_map_congr ih]
  | object fields ih =>
    rw [rearrange_object, all_object, all_object, keys.object _ fields (permutes.keys fields)]
    have inside := all_map_congr (f := fun entry : String × Json => (entry.1, entry.2.rearrange arrange))
      (p := fun entry => entry.2.all p) ih
    rw [(permutes _).all_eq, inside]
  | null | bool | number | string => rfl

def distinctKeys : Json → Bool
  | .object fields => (fields.map Prod.fst).Nodup
  | _ => true

def Distinct (v : Json) : Prop := v.all distinctKeys = true

def tieFreeKeys (order : KeyOrder) : Json → Bool
  | .object fields => order.TieFree (fields.map Prod.fst)
  | _ => true

def TieFree (order : KeyOrder) (v : Json) : Prop := v.all (tieFreeKeys order) = true

instance (v : Json) : Decidable v.Distinct := inferInstanceAs (Decidable (_ = true))

instance (order : KeyOrder) (v : Json) : Decidable (v.TieFree order) := inferInstanceAs (Decidable (_ = true))

theorem distinctKeys_ofKeys : OfKeys distinctKeys where
  array _ _ := rfl
  object _ _ perm := by simp [distinctKeys, perm.nodup_iff]

theorem tieFreeKeys_ofKeys (order : KeyOrder) : OfKeys (tieFreeKeys order) where
  array _ _ := rfl
  object _ _ perm := by simp [tieFreeKeys, KeyOrder.TieFree.perm perm]

theorem distinct_array {items : List Json} : Distinct (.array items) ↔ ∀ item ∈ items, item.Distinct := by
  simp [Distinct, all_array_iff, distinctKeys]

theorem distinct_object {fields : JsonObject} :
    Distinct (.object fields) ↔ (fields.map Prod.fst).Nodup ∧ ∀ entry ∈ fields, entry.2.Distinct := by
  simp [Distinct, all_object_iff, distinctKeys]

theorem tieFree_array {order : KeyOrder} {items : List Json} :
    TieFree order (.array items) ↔ ∀ item ∈ items, item.TieFree order := by
  simp [TieFree, all_array_iff, tieFreeKeys]

theorem tieFree_object {order : KeyOrder} {fields : JsonObject} :
    TieFree order (.object fields) ↔
      order.TieFree (fields.map Prod.fst) ∧ ∀ entry ∈ fields, entry.2.TieFree order := by
  simp [TieFree, all_object_iff, tieFreeKeys]

theorem tieFree_codePoints {v : Json} : v.TieFree .codePoints ↔ v.Distinct := by
  have same : tieFreeKeys .codePoints = distinctKeys := by
    funext v
    cases v <;> simp [tieFreeKeys, distinctKeys, KeyOrder.codePoints_tieFree]
  rw [TieFree, same, Distinct]

theorem sortKeys_rearrange {order : KeyOrder} (permutes : Permutes arrange) {v : Json} (free : v.TieFree order) :
    (v.rearrange arrange).sortKeys order = v.sortKeys order := by
  induction v using ind with
  | array items ih =>
    rw [tieFree_array] at free
    rw [rearrange_array, sortKeys_array, sortKeys_array, List.map_map]
    congr 1
    exact List.map_congr_left fun item member => ih item member (free item member)
  | object fields ih =>
    rw [tieFree_object] at free
    rw [rearrange_object, sortKeys_object, sortKeys_object]
    congr 1
    have again : (fields.map fun entry => (entry.1, entry.2.sortKeys order)) =
        (fields.map fun entry => (entry.1, entry.2.rearrange arrange)).map
          fun entry => (entry.1, entry.2.sortKeys order) := by
      rw [List.map_map]
      refine List.map_congr_left fun entry member => ?_
      simp only [Function.comp_apply, ih entry member (free.2 entry member)]
    rw [again]
    refine (order.sort_eq_of_perm ((permutes _).symm.map _) ?_).symm
    rw [List.map_map, List.map_map]
    exact free.1
  | null | bool | number | string => rfl

/-- The values differ at most in the order of their keys. -/
def Same (v v' : Json) : Prop := v.sortKeys .codePoints = v'.sortKeys .codePoints

theorem Same.refl (v : Json) : v.Same v := rfl

theorem Same.symm {v v' : Json} (same : v.Same v') : v'.Same v := Eq.symm same

theorem Same.trans {v v' v'' : Json} (first : v.Same v') (second : v'.Same v'') : v.Same v'' := Eq.trans first second

theorem Same.all {v v' : Json} (same : v.Same v') (keys : OfKeys p) : v.all p = v'.all p := by
  rw [← keys.rearrange (sort_permutes .codePoints) v, ← keys.rearrange (sort_permutes .codePoints) v']
  exact congrArg _ same

theorem Same.distinct {v v' : Json} (same : v.Same v') : v.Distinct ↔ v'.Distinct := by
  rw [Distinct, Distinct, same.all distinctKeys_ofKeys]

theorem Same.tieFree {order : KeyOrder} {v v' : Json} (same : v.Same v') : v.TieFree order ↔ v'.TieFree order := by
  rw [TieFree, TieFree, same.all (tieFreeKeys_ofKeys order)]

theorem same_rearrange (permutes : Permutes arrange) {v : Json} (distinct : v.Distinct) : (v.rearrange arrange).Same v :=
  sortKeys_rearrange permutes (tieFree_codePoints.mpr distinct)

theorem same_sortKeys (order : KeyOrder) {v : Json} (distinct : v.Distinct) : (v.sortKeys order).Same v :=
  same_rearrange (sort_permutes order) distinct

theorem same_of_sortKeys {order : KeyOrder} {v v' : Json} (distinct : v.Distinct) (distinct' : v'.Distinct)
    (sorted : v.sortKeys order = v'.sortKeys order) : v.Same v' := by
  have first := same_sortKeys order distinct
  rw [sorted] at first
  exact first.symm.trans (same_sortKeys order distinct')

/-- Without ties, the sorted form depends on the value only. -/
theorem Same.sortKeys_eq {order : KeyOrder} {v v' : Json} (same : v.Same v') (free : v.TieFree order) :
    v.sortKeys order = v'.sortKeys order := by
  have first := sortKeys_rearrange (sort_permutes .codePoints) free
  have second := sortKeys_rearrange (sort_permutes .codePoints) (same.tieFree.mp free)
  rw [← first, ← second]
  exact congrArg _ same

def reverseKeys : Json → Json := rearrange List.reverse

theorem reverse_permutes : Permutes List.reverse := List.reverse_perm

theorem same_reverseKeys {v : Json} (distinct : v.Distinct) : v.reverseKeys.Same v :=
  same_rearrange reverse_permutes distinct

theorem not_both_sublist {keys : List String} (distinct : keys.Nodup) {a b : String} (first : [a, b].Sublist keys)
    (second : [b, a].Sublist keys) : False := by
  have apart {a b : String} (sub : [a, b].Sublist keys) : keys.idxOf a < keys.idxOf b := by
    have increasing : keys.Pairwise fun x y => keys.idxOf x < keys.idxOf y := by
      rw [List.pairwise_iff_getElem]
      intro i j hi hj less
      rwa [distinct.idxOf_getElem, distinct.idxOf_getElem]
    exact increasing.forall_sublist sub
  exact (apart first).asymm (apart second)

theorem tieFree_of_reverse {order : KeyOrder} {keys : List String} (distinct : keys.Nodup)
    (sorted : (keys.reverse.insertionSort fun a b => order.le a b = true) =
      keys.insertionSort fun a b => order.le a b = true) : order.TieFree keys := by
  unfold KeyOrder.TieFree
  rw [List.pairwise_iff_forall_sublist]
  intro a b sub ties
  have : Std.Total fun a b => order.le a b = true := ⟨order.total⟩
  have : IsTrans String fun a b => order.le a b = true := ⟨order.trans⟩
  have forward := List.pair_sublist_insertionSort (r := fun a b => order.le a b = true) ties.1 sub
  have backward := List.pair_sublist_insertionSort (r := fun a b => order.le a b = true) ties.2
    (List.reverse_sublist.mpr sub)
  rw [sorted] at backward
  have unique := (List.perm_insertionSort (fun a b => order.le a b = true) keys).nodup_iff.mpr distinct
  exact not_both_sublist unique forward backward

theorem tieFree_of_reverseKeys {order : KeyOrder} {v : Json} (distinct : v.Distinct)
    (sorted : v.reverseKeys.sortKeys order = v.sortKeys order) : v.TieFree order := by
  induction v using ind with
  | array items ih =>
    rw [distinct_array] at distinct
    rw [tieFree_array]
    intro item member
    rw [reverseKeys, rearrange_array, sortKeys_array, sortKeys_array, List.map_map] at sorted
    exact ih item member (distinct item member) (List.map_inj_left.mp (Json.array.inj sorted) item member)
  | object fields ih =>
    rw [distinct_object] at distinct
    rw [tieFree_object]
    rw [reverseKeys, rearrange_object, sortKeys_object, sortKeys_object] at sorted
    have sorted := Json.object.inj sorted
    constructor
    · have keys := congrArg (List.map Prod.fst) sorted
      rw [order.keys_sort, order.keys_sort] at keys
      refine tieFree_of_reverse distinct.1 ?_
      simpa [List.map_map, List.map_reverse, Function.comp_def] using keys
    · intro entry member
      apply ih entry member (distinct.2 entry member)
      have located : (entry.1, entry.2.sortKeys order) ∈
          (fields.map fun entry => (entry.1, entry.2.sortKeys order)).insertionSort order.entryLe :=
        (List.mem_insertionSort _).mpr (List.mem_map_of_mem member)
      rw [← sorted, List.mem_insertionSort] at located
      simp only [List.mem_map, List.mem_reverse] at located
      obtain ⟨-, ⟨entry', member', rfl⟩, same⟩ := located
      simp only [Prod.mk.injEq] at same
      obtain rfl := List.inj_on_of_nodup_map distinct.1 member' member same.1
      exact same.2
  | null | bool | number | string => rfl

end Json

end AgentOps.Lib
