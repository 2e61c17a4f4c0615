import AgentOps.Lib.JsonText
import AgentOps.Identity.Ids

namespace AgentOps.Evidence
open Lib Identity

/-- What the host gives: `String.prototype.localeCompare`, which may call different keys equal, and SHA-256. -/
structure Host where
  localeCompare : KeyOrder
  sha256 : String → Hash

variable {host : Host}

/-! # The canonical encoding -/

mutual

def encodeCanonical (host : Host) : Json → List Char
  | .null => ['n', 'u', 'l', 'l']
  | .bool true => ['t', 'r', 'u', 'e']
  | .bool false => ['f', 'a', 'l', 's', 'e']
  | .number rendered => rendered.toList
  | .string value => Json.quote value
  | .array items => '[' :: (Json.commas (encodeItems host items) ++ [']'])
  | .object fields =>
    let entries := (encodeFields host fields).insertionSort host.localeCompare.entryLe
    '\x7b' :: (Json.commas (entries.map Json.fieldText) ++ ['\x7d'])

def encodeItems (host : Host) : List Json → List (List Char)
  | [] => []
  | item :: items => encodeCanonical host item :: encodeItems host items

def encodeFields (host : Host) : JsonObject → List (String × List Char)
  | [] => []
  | (name, value) :: fields => (name, encodeCanonical host value) :: encodeFields host fields

end

def canonicalJson (host : Host) (value : Json) : String := String.ofList (encodeCanonical host value)

def sha256Hex (host : Host) : Json → Hash
  | .string body => host.sha256 body
  | value => host.sha256 (canonicalJson host value)

theorem encodeItems_eq (items : List Json) : encodeItems host items = items.map (encodeCanonical host) := by
  induction items with
  | nil => rfl
  | cons item items ih => rw [encodeItems, ih, List.map_cons]

theorem encodeFields_eq (fields : JsonObject) :
    encodeFields host fields = fields.map fun entry => (entry.1, encodeCanonical host entry.2) := by
  induction fields with
  | nil => rfl
  | cons entry fields ih => rw [encodeFields, ih, List.map_cons]

theorem encodeCanonical_eq (value : Json) :
    encodeCanonical host value = (value.sortKeys host.localeCompare).render := by
  induction value using Json.ind with
  | array items ih =>
    rw [Json.sortKeys_array, Json.render, encodeCanonical, encodeItems_eq, Json.renderItems_eq, List.map_map]
    congr 3
    exact List.map_congr_left ih
  | object fields ih =>
    rw [Json.sortKeys_object, Json.render, encodeCanonical, encodeFields_eq, Json.renderFields_eq]
    have texts : (fields.map fun entry => (entry.1, encodeCanonical host entry.2)) =
        (fields.map fun entry => (entry.1, entry.2.sortKeys host.localeCompare)).map
          fun entry => (entry.1, entry.2.render) := by
      rw [List.map_map]
      refine List.map_congr_left fun entry member => ?_
      simp only [Function.comp_apply, ih entry member]
    rw [texts, host.localeCompare.sort_values Json.render]
  | bool value => cases value <;> rfl
  | null | number | string => rfl

structure JsonData where
  value : Json
  distinct : value.Distinct
  numbers : value.Numbers

theorem numbers_sortKeys {order : KeyOrder} {value : Json} (numbers : value.Numbers) :
    (value.sortKeys order).Numbers := by
  unfold Json.Numbers
  rw [Json.sortKeys, Json.numberText_ofKeys.rearrange (Json.sort_permutes order)]
  exact numbers

/-- The encoding tells values apart, up to the order of their keys. -/
theorem canonicalJson_inj {body body' : JsonData} (same : canonicalJson host body.value = canonicalJson host body'.value) :
    body.value.Same body'.value := by
  have texts : encodeCanonical host body.value = encodeCanonical host body'.value := String.ofList_injective same
  rw [encodeCanonical_eq, encodeCanonical_eq] at texts
  exact Json.same_of_sortKeys body.distinct body'.distinct
    (Json.render_inj (numbers_sortKeys body.numbers) (numbers_sortKeys body'.numbers) texts)

theorem canonicalJson_same {value value' : Json} (same : value.Same value')
    (free : value.TieFree host.localeCompare) : canonicalJson host value = canonicalJson host value' := by
  rw [canonicalJson, canonicalJson, encodeCanonical_eq, encodeCanonical_eq, same.sortKeys_eq free]

def JsonData.reversed (body : JsonData) : JsonData where
  value := body.value.reverseKeys
  distinct := (Json.same_reverseKeys body.distinct).distinct.mpr body.distinct
  numbers := by
    unfold Json.Numbers
    rw [Json.reverseKeys, Json.numberText_ofKeys.rearrange Json.reverse_permutes]
    exact body.numbers

theorem tieFree_of_reversed {body : JsonData}
    (same : canonicalJson host body.reversed.value = canonicalJson host body.value) :
    body.value.TieFree host.localeCompare := by
  have texts : encodeCanonical host body.reversed.value = encodeCanonical host body.value :=
    String.ofList_injective same
  rw [encodeCanonical_eq, encodeCanonical_eq] at texts
  exact Json.tieFree_of_reverseKeys body.distinct
    (Json.render_inj (numbers_sortKeys body.reversed.numbers) (numbers_sortKeys body.numbers) texts)

end AgentOps.Evidence
