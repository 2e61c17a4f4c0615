import AgentOps.Lib.CodeUnits
import AgentOps.Lib.Double
import AgentOps.Lib.JsonText

namespace AgentOps.Lib

/-! # Values of the host language that JSON is read as: strings of code units, and doubles -/

inductive HostJson where
  | null
  | bool (value : Bool)
  | number (value : Double)
  | infinity (negative : Bool)
  | string (value : CodeUnits)
  | array (items : List HostJson)
  | object (fields : List (CodeUnits × HostJson))

abbrev HostFields := List (CodeUnits × HostJson)

namespace HostJson

theorem ind {motive : HostJson → Prop} (null : motive .null) (bool : ∀ value, motive (.bool value))
    (number : ∀ value, motive (.number value)) (infinity : ∀ negative, motive (.infinity negative))
    (string : ∀ value, motive (.string value))
    (array : ∀ items, (∀ item ∈ items, motive item) → motive (.array items))
    (object : ∀ fields, (∀ entry ∈ fields, motive entry.2) → motive (.object fields)) (v : HostJson) : motive v :=
  @HostJson.rec motive (fun items => ∀ item ∈ items, motive item) (fun fields => ∀ entry ∈ fields, motive entry.2)
    (fun entry => motive entry.2) null bool number infinity string array object (by simp)
    (fun _ _ first rest => List.forall_mem_cons.mpr ⟨first, rest⟩) (by simp)
    (fun _ _ first rest => List.forall_mem_cons.mpr ⟨first, rest⟩) (fun _ _ known => known) v

mutual

/-- Every object has distinct keys, and every number is finite. -/
def Plain : HostJson → Prop
  | .infinity _ => False
  | .array items => PlainItems items
  | .object fields => (fields.map Prod.fst).Nodup ∧ PlainFields fields
  | _ => True

def PlainItems : List HostJson → Prop
  | [] => True
  | item :: items => item.Plain ∧ PlainItems items

def PlainFields : HostFields → Prop
  | [] => True
  | (_, value) :: fields => value.Plain ∧ PlainFields fields

end

theorem plain_array {items : List HostJson} : Plain (.array items) ↔ ∀ item ∈ items, item.Plain := by
  have each : PlainItems items ↔ ∀ item ∈ items, item.Plain := by
    induction items with
    | nil => simp [PlainItems]
    | cons item items ih => simp [PlainItems, ih]
  rw [Plain, each]

theorem plain_object {fields : HostFields} :
    Plain (.object fields) ↔ (fields.map Prod.fst).Nodup ∧ ∀ entry ∈ fields, entry.2.Plain := by
  have each : PlainFields fields ↔ ∀ entry ∈ fields, entry.2.Plain := by
    induction fields with
    | nil => simp [PlainFields]
    | cons entry fields ih => simp [PlainFields, ih]
  rw [Plain, each]

mutual

/-- The same JSON value: objects are the same when they have as many keys and each key of the one holds the same in the other. -/
def Same : HostJson → HostJson → Prop
  | .null, .null => True
  | .bool value, .bool value' => value = value'
  | .number value, .number value' => value = value'
  | .infinity negative, .infinity negative' => negative = negative'
  | .string value, .string value' => value = value'
  | .array items, .array items' => SameItems items items'
  | .object fields, .object fields' => fields.length = fields'.length ∧ SameFields fields fields'
  | _, _ => False

def SameItems : List HostJson → List HostJson → Prop
  | [], [] => True
  | item :: items, item' :: items' => item.Same item' ∧ SameItems items items'
  | _, _ => False

def SameFields : HostFields → HostFields → Prop
  | [], _ => True
  | (key, value) :: fields, fields' => (∃ value', (key, value') ∈ fields' ∧ value.Same value') ∧ SameFields fields fields'

end

theorem same_array {items items' : List HostJson} : Same (.array items) (.array items') ↔ List.Forall₂ Same items items' := by
  rw [Same]
  induction items generalizing items' with
  | nil => cases items' <;> simp [SameItems]
  | cons item items ih => cases items' <;> simp [SameItems, ih]

theorem same_object {fields fields' : HostFields} : Same (.object fields) (.object fields') ↔
    fields.length = fields'.length ∧ ∀ entry ∈ fields, ∃ entry' ∈ fields', entry'.1 = entry.1 ∧ entry.2.Same entry'.2 := by
  have each : SameFields fields fields' ↔ ∀ entry ∈ fields, ∃ entry' ∈ fields', entry'.1 = entry.1 ∧ entry.2.Same entry'.2 := by
    induction fields with
    | nil => simp [SameFields]
    | cons entry fields ih =>
      obtain ⟨key, value⟩ := entry
      simp only [SameFields, ih, List.forall_mem_cons, Prod.exists]
      refine and_congr_left fun _ => ⟨?_, ?_⟩
      · rintro ⟨value', member, same⟩
        exact ⟨key, value', member, rfl, same⟩
      · rintro ⟨key', value', member, rfl, same⟩
        exact ⟨value', member, same⟩
  rw [Same, each]

/-- The order of `sort`, by code units -/
def keyLe (a b : CodeUnits) : Bool := KeyOrder.lexLe (a.map UInt16.toNat) (b.map UInt16.toNat)

theorem keyLe_antisymm {a b : CodeUnits} (first : keyLe a b = true) (second : keyLe b a = true) : a = b := by
  have same := KeyOrder.lexLe_antisymm _ _ first second
  have injective : Function.Injective UInt16.toNat := fun u v same => UInt16.toNat_inj.mp same
  exact injective.list_map same

def entryLe {α : Type} (e e' : CodeUnits × α) : Prop := keyLe e.1 e'.1 = true

instance {α : Type} : DecidableRel (entryLe (α := α)) := fun e e' => inferInstanceAs (Decidable (keyLe e.1 e'.1 = true))

instance {α : Type} : Std.Total (entryLe (α := α)) := ⟨fun _ _ => KeyOrder.lexLe_total _ _⟩

instance {α : Type} : IsTrans (CodeUnits × α) entryLe := ⟨fun _ _ _ => KeyOrder.lexLe_trans _ _ _⟩

theorem sort_eq_of_perm {α : Type} {entries entries' : List (CodeUnits × α)} (perm : entries.Perm entries')
    (distinct : (entries.map Prod.fst).Nodup) : entries.insertionSort entryLe = entries'.insertionSort entryLe := by
  refine List.Perm.eq_of_pairwise ?_ (List.pairwise_insertionSort entryLe entries) (List.pairwise_insertionSort entryLe entries')
    ((List.perm_insertionSort _ _).trans (perm.trans (List.perm_insertionSort _ _).symm))
  intro e e' member member' le le'
  rw [List.mem_insertionSort] at member member'
  exact List.inj_on_of_nodup_map distinct member (perm.mem_iff.mpr member') (keyLe_antisymm le le')

mutual

def sorted : HostJson → HostJson
  | .array items => .array (sortedItems items)
  | .object fields => .object ((sortedFields fields).insertionSort entryLe)
  | v => v

def sortedItems : List HostJson → List HostJson
  | [] => []
  | item :: items => item.sorted :: sortedItems items

def sortedFields : HostFields → HostFields
  | [] => []
  | (key, value) :: fields => (key, value.sorted) :: sortedFields fields

end

def sortedEntry (entry : CodeUnits × HostJson) : CodeUnits × HostJson := (entry.1, entry.2.sorted)

theorem sorted_array {items : List HostJson} : sorted (.array items) = .array (items.map sorted) := by
  have each : sortedItems items = items.map sorted := by
    induction items with
    | nil => rfl
    | cons item items ih => rw [sortedItems, ih, List.map_cons]
  rw [sorted, each]

theorem sorted_object {fields : HostFields} :
    sorted (.object fields) = .object ((fields.map sortedEntry).insertionSort entryLe) := by
  have each : sortedFields fields = fields.map sortedEntry := by
    induction fields with
    | nil => rfl
    | cons entry fields ih => rw [sortedFields, ih, List.map_cons, sortedEntry]
  rw [sorted, each]

theorem keys_sortedEntry {fields : HostFields} : (fields.map sortedEntry).map Prod.fst = fields.map Prod.fst := by
  rw [List.map_map]
  rfl

theorem sorted_plain {v : HostJson} (plain : v.Plain) : v.sorted.Plain := by
  induction v using ind with
  | array items ih =>
    rw [plain_array] at plain
    rw [sorted_array, plain_array, List.forall_mem_map]
    exact fun item member => ih item member (plain item member)
  | object fields ih =>
    rw [plain_object] at plain
    rw [sorted_object, plain_object]
    constructor
    · have perm := (List.perm_insertionSort entryLe (fields.map sortedEntry)).map Prod.fst
      rw [perm.nodup_iff, keys_sortedEntry]
      exact plain.1
    · intro entry member
      rw [List.mem_insertionSort] at member
      obtain ⟨origin, present, rfl⟩ := List.mem_map.mp member
      exact ih origin present (plain.2 origin present)
  | null | bool | number | string => trivial
  | infinity => exact plain

theorem same_sorted (v : HostJson) : v.Same v.sorted := by
  induction v using ind with
  | array items ih =>
    rw [sorted_array, same_array, List.forall₂_map_right_iff, List.forall₂_same]
    exact ih
  | object fields ih =>
    rw [sorted_object, same_object]
    constructor
    · rw [List.length_insertionSort, List.length_map]
    · intro entry member
      exact ⟨sortedEntry entry, (List.mem_insertionSort _).mpr (List.mem_map_of_mem member), rfl, ih entry member⟩
  | null => trivial
  | bool | number | infinity | string => rfl

theorem Same.sorted_eq {v v' : HostJson} (same : v.Same v') (plain : v.Plain) (plain' : v'.Plain) :
    v.sorted = v'.sorted := by
  induction v using HostJson.ind generalizing v' with
  | null => cases v' <;> first | rfl | cases same
  | bool | number | infinity | string => cases v' <;> first | (simp only [Same] at same; rw [same]) | cases same
  | array items ih =>
    cases v' with
    | array items' =>
      rw [same_array] at same
      rw [plain_array] at plain plain'
      rw [sorted_array, sorted_array]
      congr 1
      induction same with
      | nil => rfl
      | cons first rest step =>
        rw [List.forall_mem_cons] at plain plain' ih
        rw [List.map_cons, List.map_cons, ih.1 first plain.1 plain'.1, step ih.2 plain.2 plain'.2]
    | null | bool | number | infinity | string | object => cases same
  | object fields ih =>
    cases v' with
    | object fields' =>
      rw [same_object] at same
      rw [plain_object] at plain plain'
      rw [sorted_object, sorted_object]
      have keys : ((fields.map sortedEntry).map Prod.fst).Nodup := by
        rw [keys_sortedEntry]
        exact plain.1
      have inside : fields.map sortedEntry ⊆ fields'.map sortedEntry := by
        intro entry member
        obtain ⟨origin, present, rfl⟩ := List.mem_map.mp member
        obtain ⟨entry', member', key, value⟩ := same.2 origin present
        refine List.mem_map.mpr ⟨entry', member', ?_⟩
        rw [sortedEntry, sortedEntry, key, ih origin present value (plain.2 origin present) (plain'.2 entry' member')]
      have perm : (fields.map sortedEntry).Perm (fields'.map sortedEntry) := by
        refine (keys.of_map _).subperm inside |>.perm_of_length_le ?_
        rw [List.length_map, List.length_map, same.1]
      rw [sort_eq_of_perm perm keys]
    | null | bool | number | infinity | string | array => cases same

theorem same_of_sorted {v v' : HostJson} (sorted : v.sorted = v'.sorted) : v.Same v' := by
  induction v using ind generalizing v' with
  | null => cases v' <;> trivial
  | bool | number | infinity | string =>
    cases v' <;> simp only [HostJson.sorted, reduceCtorEq, bool.injEq, number.injEq, infinity.injEq, string.injEq] at sorted
    exact sorted
  | array items ih =>
    cases v' with
    | array items' =>
      rw [sorted_array, sorted_array, array.injEq] at sorted
      rw [same_array]
      induction items generalizing items' with
      | nil =>
        cases items' with
        | nil => exact .nil
        | cons => cases sorted
      | cons item items step =>
        cases items' with
        | nil => cases sorted
        | cons item' items' =>
          rw [List.map_cons, List.map_cons, List.cons.injEq] at sorted
          rw [List.forall_mem_cons] at ih
          exact .cons (ih.1 sorted.1) (step ih.2 items' sorted.2)
    | null | bool | number | infinity | string | object => simp [HostJson.sorted] at sorted
  | object fields ih =>
    cases v' with
    | object fields' =>
      rw [sorted_object, sorted_object, object.injEq] at sorted
      rw [same_object]
      have perm : (fields.map sortedEntry).Perm (fields'.map sortedEntry) := by
        have again := List.perm_insertionSort entryLe (fields'.map sortedEntry)
        rw [← sorted] at again
        exact (List.perm_insertionSort _ _).symm.trans again
      constructor
      · simpa using perm.length_eq
      · intro entry member
        have located := perm.subset (List.mem_map_of_mem member)
        obtain ⟨entry', member', same⟩ := List.mem_map.mp located
        have parts := Prod.mk.inj same
        exact ⟨entry', member', parts.1, ih entry member parts.2.symm⟩
    | null | bool | number | infinity | string | array => simp [HostJson.sorted] at sorted

end HostJson
end AgentOps.Lib
