namespace AgentOps.Lib

/-- A JSON value. A number is kept as the text it renders to. -/
inductive Json where
  | null
  | bool (value : Bool)
  | number (rendered : String)
  | string (value : String)
  | array (items : List Json)
  | object (fields : List (String × Json))

abbrev JsonObject := List (String × Json)

namespace JsonObject

def field? (fields : JsonObject) (name : String) : Option Json :=
  (fields.find? fun entry => entry.1 = name).map Prod.snd

def string? (fields : JsonObject) (name : String) : Option String :=
  match fields.field? name with
  | some (.string value) => some value
  | _ => none

def set (fields : JsonObject) (name : String) (value : Json) : JsonObject :=
  if (fields.field? name).isSome then
    fields.map fun entry => if entry.1 = name then (name, value) else entry
  else fields ++ [(name, value)]

/-- `{ ...fields, ...others }` -/
def spread (fields others : JsonObject) : JsonObject :=
  others.foldl (fun result entry => result.set entry.1 entry.2) fields

variable {fields others : JsonObject} {name other : String} {value : Json}

theorem field?_cons {entry : String × Json} :
    field? (entry :: fields) name = if entry.1 = name then some entry.2 else field? fields name := by
  by_cases here : entry.1 = name <;> simp [field?, here]

theorem field?_append : field? (fields ++ others) name = (field? fields name).or (field? others name) := by
  unfold field?
  rw [List.find?_append, Option.map_or]

theorem field?_set_self : field? (fields.set name value) name = some value := by
  unfold set
  split
  · rename_i present
    induction fields with
    | nil => cases present
    | cons entry fields ih =>
      rw [List.map_cons, field?_cons]
      by_cases here : entry.1 = name
      · simp [here]
      · rw [field?_cons, if_neg here] at present
        simpa [here] using ih present
  · rename_i absent
    rw [field?_append, Option.not_isSome_iff_eq_none.mp absent, field?_cons]
    exact if_pos rfl

theorem field?_set_ne (apart : name ≠ other) : field? (fields.set name value) other = field? fields other := by
  unfold set
  split
  · rename_i present
    clear present
    induction fields with
    | nil => rfl
    | cons entry fields ih =>
      rw [List.map_cons, field?_cons, field?_cons, ih]
      by_cases here : entry.1 = name
      · simp [here, apart]
      · simp [here]
  · rw [field?_append, field?_cons, if_neg apart]
    exact Option.or_none

theorem string?_set_self {text : String} : string? (fields.set name (.string text)) name = some text := by
  simp only [string?, field?_set_self]

theorem string?_set_ne (apart : name ≠ other) : string? (fields.set name value) other = string? fields other := by
  simp only [string?, field?_set_ne apart]

end JsonObject

end AgentOps.Lib
