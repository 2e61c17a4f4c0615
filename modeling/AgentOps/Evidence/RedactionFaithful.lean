import AgentOps.Evidence.Redaction

namespace AgentOps.Evidence
open Lib

/-! # What redaction keeps of a payload -/

mutual

inductive Redacts : Json → Json → Prop
  | null : Redacts .null .null
  | bool (value : Bool) : Redacts (.bool value) (.bool value)
  | number (rendered : String) : Redacts (.number rendered) (.number rendered)
  | replaced {value : String} (sensitive : isSensitiveString value = true) : Redacts (.string value) (.string REDACTED)
  | kept {value : String} (harmless : isSensitiveString value = false) : Redacts (.string value) (.string value)
  | array {items items' : List Json} (each : List.Forall₂ Redacts items items') : Redacts (.array items) (.array items')
  | object {fields fields' : JsonObject} (each : List.Forall₂ RedactsEntry fields fields') :
    Redacts (.object fields) (.object fields')

inductive RedactsEntry : String × Json → String × Json → Prop
  | replaced {key : String} {item : Json} (sensitive : isSensitiveKey key = true) : RedactsEntry (key, item) (key, .string REDACTED)
  | kept {key : String} {item item' : Json} (harmless : isSensitiveKey key = false) (redacts : Redacts item item') :
    RedactsEntry (key, item) (key, item')

end

structure Faithful (payload : Json) : Prop where
  idempotent : (redactAuditPayload (redactAuditPayload payload).value).value = (redactAuditPayload payload).value
  shape : Redacts payload (redactAuditPayload payload).value
  plain : (redactAuditPayload payload).plain = true
  unchanged : (redactAuditPayload payload).redacted = false → (redactAuditPayload payload).value = payload

/-- Redaction comes to an object that has the key. -/
inductive Visits (key : String) : Json → Prop
  | item {items : List Json} {item : Json} (member : item ∈ items) (visits : Visits key item) : Visits key (.array items)
  | owned {fields : JsonObject} {item : Json} (member : (key, item) ∈ fields) : Visits key (.object fields)
  | field {fields : JsonObject} {entry : String × Json} (member : entry ∈ fields) (harmless : isSensitiveKey entry.1 = false)
    (visits : Visits key entry.2) : Visits key (.object fields)

variable {payload : Json} {items : List Json} {fields : JsonObject} {entry : String × Json}

theorem redacted_harmless : isSensitiveString REDACTED = false := by decide

theorem redactEntry_redactEntry (same : (redactOpen (redactOpen entry.2).value).value = (redactOpen entry.2).value) :
    redactEntry (redactEntry entry) = redactEntry entry := by
  by_cases sensitive : isSensitiveKey entry.1 = true
  · simp [redactEntry, sensitive]
  · simp [redactEntry, sensitive, same]

theorem redactOpen_idempotent (payload : Json) : (redactOpen (redactOpen payload).value).value = (redactOpen payload).value := by
  induction payload using Json.ind with
  | string value =>
    by_cases sensitive : isSensitiveString value = true
    · simp [redactOpen, sensitive, redactedValue, redacted_harmless]
    · simp [redactOpen, sensitive]
  | array items ih =>
    rw [redactOpen_array, redactOpen_array, List.map_map]
    congr 1
    apply List.map_congr_left
    exact ih
  | object fields ih =>
    have own : ((fields.filter isOwnKey).map redactEntry).filter isOwnKey = (fields.filter isOwnKey).map redactEntry := by
      rw [List.filter_eq_self, List.forall_mem_map]
      exact fun entry member => (List.of_mem_filter member : isOwnKey entry = true)
    rw [redactOpen_object, redactOpen_object, own, List.map_map]
    congr 1
    apply List.map_congr_left
    exact fun entry member => redactEntry_redactEntry (ih entry (List.mem_of_mem_filter member))
  | null | bool | number => rfl

theorem redactItems_plain : (redactItems items).plain = true ↔ ∀ item ∈ items, (redactOpen item).plain = true := by
  induction items with
  | nil => simp [redactItems]
  | cons item items ih => simp [redactItems, ih]

theorem redactItems_redacted : (redactItems items).redacted = false ↔ ∀ item ∈ items, (redactOpen item).redacted = false := by
  induction items with
  | nil => simp [redactItems]
  | cons item items ih => simp [redactItems, ih]

theorem redactFields_plain (own : ∀ entry ∈ fields, isOwnKey entry = true) : (redactFields fields).plain = true ↔
    ∀ entry ∈ fields, isSensitiveKey entry.1 = false → (redactOpen entry.2).plain = true := by
  induction fields with
  | nil => simp [redactFields]
  | cons entry fields ih =>
    obtain ⟨key, item⟩ := entry
    rw [List.forall_mem_cons] at own ⊢
    have other : key ≠ "__proto__" := by simpa [isOwnKey] using own.1
    rw [redactFields, if_neg other, Bool.and_eq_true, ih own.2]
    by_cases sensitive : isSensitiveKey key = true <;> simp [sensitive, redactedValue]

theorem redactFields_redacted : (redactFields fields).redacted = false ↔
    ∀ entry ∈ fields, isSensitiveKey entry.1 = false ∧ (redactOpen entry.2).redacted = false := by
  induction fields with
  | nil => simp [redactFields]
  | cons entry fields ih =>
    obtain ⟨key, item⟩ := entry
    have counted : (redactFields ((key, item) :: fields)).redacted =
        ((if isSensitiveKey key then redactedValue else redactOpen item).redacted || (redactFields fields).redacted) := by
      rw [redactFields]
      split <;> split <;> rfl
    rw [counted, Bool.or_eq_false_iff, ih, List.forall_mem_cons]
    cases isSensitiveKey key <;> simp [redactedValue]

theorem own_of_not_visits (unvisited : ¬Visits "__proto__" (.object fields)) : ∀ entry ∈ fields, isOwnKey entry = true := by
  rintro ⟨key, item⟩ member
  rw [isOwnKey, decide_eq_true_eq]
  rintro rfl
  exact unvisited (.owned member)

theorem redacts_of_not_visits (unvisited : ¬Visits "__proto__" payload) : Redacts payload (redactOpen payload).value := by
  induction payload using Json.ind with
  | null => exact .null
  | bool value => exact .bool value
  | number rendered => exact .number rendered
  | string value =>
    by_cases sensitive : isSensitiveString value = true
    · simpa [redactOpen, sensitive, redactedValue] using Redacts.replaced sensitive
    · simpa [redactOpen, sensitive] using Redacts.kept (eq_false_of_ne_true sensitive)
  | array items ih =>
    rw [redactOpen_array]
    apply Redacts.array
    rw [List.forall₂_map_right_iff, List.forall₂_same]
    exact fun item member => ih item member fun visits => unvisited (.item member visits)
  | object fields ih =>
    rw [redactOpen_object, List.filter_eq_self.mpr (own_of_not_visits unvisited)]
    apply Redacts.object
    rw [List.forall₂_map_right_iff, List.forall₂_same]
    intro entry member
    by_cases sensitive : isSensitiveKey entry.1 = true
    · simpa [redactEntry, sensitive] using RedactsEntry.replaced sensitive
    · have harmless := eq_false_of_ne_true sensitive
      simpa [redactEntry, sensitive] using
        RedactsEntry.kept harmless (ih entry member fun visits => unvisited (.field member harmless visits))

theorem plain_of_not_visits (unvisited : ¬Visits "__proto__" payload) : (redactOpen payload).plain = true := by
  induction payload using Json.ind with
  | string value => by_cases sensitive : isSensitiveString value = true <;> simp [redactOpen, sensitive, redactedValue]
  | array items ih =>
    rw [redactOpen]
    apply redactItems_plain.mpr
    exact fun item member => ih item member fun visits => unvisited (.item member visits)
  | object fields ih =>
    rw [redactOpen]
    apply (redactFields_plain (own_of_not_visits unvisited)).mpr
    exact fun entry member harmless => ih entry member fun visits => unvisited (.field member harmless visits)
  | null | bool | number => rfl

theorem unchanged_of_not_visits (unvisited : ¬Visits "__proto__" payload) (untouched : (redactOpen payload).redacted = false) :
    (redactOpen payload).value = payload := by
  induction payload using Json.ind with
  | string value => by_cases sensitive : isSensitiveString value = true <;> simp_all [redactOpen, redactedValue]
  | array items ih =>
    rw [redactOpen] at untouched
    have untouched := redactItems_redacted.mp untouched
    rw [redactOpen_array]
    congr 1
    refine (List.map_congr_left ?_).trans items.map_id
    exact fun item member => ih item member (fun visits => unvisited (.item member visits)) (untouched item member)
  | object fields ih =>
    rw [redactOpen] at untouched
    have untouched := redactFields_redacted.mp untouched
    rw [redactOpen_object, List.filter_eq_self.mpr (own_of_not_visits unvisited)]
    congr 1
    refine (List.map_congr_left ?_).trans fields.map_id
    intro entry member
    obtain ⟨harmless, below⟩ := untouched entry member
    have same := ih entry member (fun visits => unvisited (.field member harmless visits)) below
    simp [redactEntry, harmless, same]
  | null | bool | number => rfl

theorem keys_of_redacts {fields' : JsonObject} (each : List.Forall₂ RedactsEntry fields fields') :
    fields.map Prod.fst = fields'.map Prod.fst := by
  induction each with
  | nil => rfl
  | cons entry rest ih => cases entry <;> simp [ih]

theorem RedactsEntry.harmless_redacts {entry' : String × Json} (redacts : RedactsEntry entry entry')
    (harmless : isSensitiveKey entry.1 = false) :
    Redacts entry.2 entry'.2 := by
  cases redacts with
  | replaced sensitive => exact absurd (sensitive.symm.trans harmless) (by simp)
  | kept _ redacts => exact redacts

theorem own_of_redacts (each : List.Forall₂ RedactsEntry fields ((fields.filter isOwnKey).map redactEntry)) :
    ∀ entry ∈ fields, isOwnKey entry = true := by
  intro entry member
  have kept : entry.1 ∈ ((fields.filter isOwnKey).map redactEntry).map Prod.fst :=
    keys_of_redacts each ▸ List.mem_map_of_mem member
  simp only [List.map_map, List.mem_map, List.mem_filter] at kept
  obtain ⟨other, ⟨-, own⟩, same⟩ := kept
  have same : other.1 = entry.1 := same
  rwa [isOwnKey, ← same]

theorem not_visits_of_redacts (redacts : Redacts payload (redactOpen payload).value) : ¬Visits "__proto__" payload := by
  induction payload using Json.ind with
  | array items ih =>
    rw [redactOpen_array] at redacts
    cases redacts with
    | array each =>
      rw [List.forall₂_map_right_iff, List.forall₂_same] at each
      rintro (⟨member, visits⟩ | _ | _)
      exact ih _ member (each _ member) visits
  | object fields ih =>
    rw [redactOpen_object] at redacts
    cases redacts with
    | object each =>
      have own := own_of_redacts each
      rw [List.filter_eq_self.mpr own, List.forall₂_map_right_iff, List.forall₂_same] at each
      intro visits
      cases visits with
      | owned member => exact absurd (own _ member) (by simp [isOwnKey])
      | @field _ entry member harmless visits =>
        have below := RedactsEntry.harmless_redacts (each entry member) harmless
        rw [redactEntry, if_neg (by simp [harmless])] at below
        exact ih entry member below visits
  | null | bool | number | string =>
    intro visits
    cases visits

/-- Redaction is faithful to a payload exactly when no object that it comes to has `__proto__` for a key. -/
theorem redaction_faithful_iff (payload : Json) : Faithful payload ↔ ¬Visits "__proto__" payload := by
  constructor
  · intro faithful
    exact not_visits_of_redacts faithful.shape
  · intro unvisited
    exact {
      idempotent := redactOpen_idempotent payload
      shape := redacts_of_not_visits unvisited
      plain := plain_of_not_visits unvisited
      unchanged := unchanged_of_not_visits unvisited
    }

def pollutedPayload : Json := .object [("__proto__", .object [("a", .number "1")])]

theorem redaction_loses_proto : ¬Faithful pollutedPayload ∧
    (redactAuditPayload pollutedPayload).value = .object [] ∧ (redactAuditPayload pollutedPayload).redacted = false := by
  have value : (redactAuditPayload pollutedPayload).value = .object [] := redactOpen_object _
  have redacted : (redactAuditPayload pollutedPayload).redacted = false := by decide
  refine ⟨fun faithful => ?_, value, redacted⟩
  have same := faithful.unchanged redacted
  rw [value] at same
  cases same

end AgentOps.Evidence
