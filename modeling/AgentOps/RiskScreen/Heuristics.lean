import AgentOps.Lib.HostDecimal
import AgentOps.Lib.HostJsonText

namespace AgentOps.RiskScreen
open Lib

/-! # The risk screen, and the review by a language model over it -/

/-- An enumeration of the host takes any integer; four of them have names. -/
abbrev RiskLevel := Int

namespace RiskLevel

def low : RiskLevel := 0

def moderate : RiskLevel := 1

def high : RiskLevel := 2

def critical : RiskLevel := 3

def text (risk : RiskLevel) : String :=
  if risk = low then "Low"
  else if risk = moderate then "Moderate"
  else if risk = high then "High"
  else if risk = critical then "Critical"
  else toString risk

end RiskLevel

inductive NumberPart where
  | sign
  | zero
  | whole
  | point
  | places
  | exponent
  | exponentSign
  | exponentDigits
  deriving DecidableEq

namespace NumberPart

def ends (part : NumberPart) : Bool := part = .zero || part = .whole || part = .places || part = .exponentDigits

def next? (part : NumberPart) (c : Char) : Option NumberPart :=
  match part with
  | .sign => if c = '0' then some .zero else if isDigit c then some .whole else none
  | .zero => if c = '.' then some .point else if c = 'e' ∨ c = 'E' then some .exponent else none
  | .whole =>
    if isDigit c then some .whole
    else if c = '.' then some .point
    else if c = 'e' ∨ c = 'E' then some .exponent
    else none
  | .point => if isDigit c then some .places else none
  | .places => if isDigit c then some .places else if c = 'e' ∨ c = 'E' then some .exponent else none
  | .exponent => if isDigit c then some .exponentDigits else if c = '+' ∨ c = '-' then some .exponentSign else none
  | .exponentSign | .exponentDigits => if isDigit c then some .exponentDigits else none

end NumberPart

inductive JsonReading where
  | value
  | item
  | key (first : Bool)
  | colon
  | after
  | string (key : Bool)
  | escape (key : Bool)
  | hex (key : Bool) (left : Nat)
  | number (part : NumberPart)
  | literal (left : List Char)
  deriving DecidableEq

/-- The arrays and objects that are open, the innermost first, with `true` for an object -/
structure JsonReader where
  reading : JsonReading
  inObject : List Bool
  deriving DecidableEq

namespace JsonReader

/-- `JsonReaderOptions.MaxDepth` -/
def maxDepth : Nat := 64

def opened (inObject : Bool) (stack : List Bool) : Option JsonReader :=
  if stack.length < maxDepth then some ⟨if inObject then .key true else .item, inObject :: stack⟩ else none

def started (c : Char) (stack : List Bool) : Option JsonReader :=
  if c = '"' then some ⟨.string false, stack⟩
  else if c = '[' then opened false stack
  else if c = '\x7b' then opened true stack
  else if c = '-' then some ⟨.number .sign, stack⟩
  else if c = '0' then some ⟨.number .zero, stack⟩
  else if isDigit c then some ⟨.number .whole, stack⟩
  else if c = 't' then some ⟨.literal ['r', 'u', 'e'], stack⟩
  else if c = 'f' then some ⟨.literal ['a', 'l', 's', 'e'], stack⟩
  else if c = 'n' then some ⟨.literal ['u', 'l', 'l'], stack⟩
  else none

def ended (c : Char) : List Bool → Option JsonReader
  | [] => none
  | inObject :: stack =>
    if c = ',' then some ⟨if inObject then .key false else .value, inObject :: stack⟩
    else if c = if inObject then '\x7d' else ']' then some ⟨.after, stack⟩
    else none

def step (reader : JsonReader) (c : Char) : Option JsonReader :=
  let go (reading : JsonReading) : Option JsonReader := some ⟨reading, reader.inObject⟩
  match reader.reading with
  | .value => if HostJson.isBlank c then some reader else started c reader.inObject
  | .item =>
    if HostJson.isBlank c then some reader
    else if c = ']' then ended c reader.inObject
    else started c reader.inObject
  | .key first =>
    if HostJson.isBlank c then some reader
    else if c = '"' then go (.string true)
    else if first ∧ c = '\x7d' then ended c reader.inObject
    else none
  | .colon => if HostJson.isBlank c then some reader else if c = ':' then go .value else none
  | .after => if HostJson.isBlank c then some reader else ended c reader.inObject
  | .string key =>
    if c = '"' then go (if key then .colon else .after)
    else if c = '\\' then go (.escape key)
    else if c.toNat ≤ 0x1f then none
    else some reader
  | .escape key =>
    if c = 'u' then go (.hex key 4)
    else if (HostJson.unescaped? c).isSome then go (.string key)
    else none
  | .hex key left =>
    if (digitOf? 16 c).isSome then go (if left ≤ 1 then .string key else .hex key (left - 1)) else none
  | .number part =>
    match part.next? c with
    | some part => go (.number part)
    | none =>
      if part.ends then if HostJson.isBlank c then go .after else ended c reader.inObject
      else none
  | .literal [] => none
  | .literal [d] => if c = d then go .after else none
  | .literal (d :: left) => if c = d then go (.literal left) else none

def accepts (reader : JsonReader) : Bool :=
  reader.inObject.isEmpty &&
    match reader.reading with
    | .after => true
    | .number part => part.ends
    | _ => false

end JsonReader

def parses (cs : List Char) : Bool := ((cs.foldlM JsonReader.step ⟨.value, []⟩).map JsonReader.accepts).getD false

/-- `char.IsWhiteSpace` -/
def isWhiteSpace (c : Char) : Bool :=
  (0x9 ≤ c.toNat && c.toNat ≤ 0xd) || c.toNat ∈ [0x20, 0x85, 0xa0, 0x1680, 0x2028, 0x2029, 0x202f, 0x205f, 0x3000] ||
    (0x2000 ≤ c.toNat && c.toNat ≤ 0x200a)

def isValidJson (payload : String) : Bool := !payload.toList.all isWhiteSpace && parses payload.toList

structure LlmPolicyAnalysisDto where
  summary : String
  recommendedRisk : RiskLevel
  flaggedForAnomalies : Bool
  semanticReasoning : String
  deriving DecidableEq

def injectionMarkers : List String :=
  ["ignore previous", "ignore all previous", "disregard the above", "system prompt", "you are now"]

/-- The format `0.##` -/
def moneyText (amount : HostDecimal) : String :=
  String.ofList (((placesText 2 (amount.rounded 2)).rdropWhile (· = '0')).rdropWhile (· = '.'))

def spendBand (spendUsd : HostDecimal) : RiskLevel :=
  if spendUsd.value ≥ 10000 then .critical
  else if spendUsd.value ≥ 1000 then .high
  else if spendUsd.value ≥ 100 then .moderate
  else .low

/-- The first marker in the payload. Only capitals of ASCII are lowered to a letter of a marker. -/
def marker? (payload : String) : Option String := injectionMarkers.find? (containsText (lower payload))

def assess (agentRole toolName : String) (payloadJson : Option String) (spendUsd : HostDecimal) : LlmPolicyAnalysisDto :=
  let risk := spendBand spendUsd
  let signals := if risk > .low then ["spend $" ++ moneyText spendUsd ++ " is in the " ++ risk.text ++ " band"] else []
  let payload := payloadJson.getD ""
  let (signals, risk) :=
    if isValidJson payload then (signals, risk) else (signals ++ ["payload is not valid JSON"], max risk .high)
  let marker := marker? payload
  let (signals, risk) :=
    match marker with
    | none => (signals, risk)
    | some marker => (signals ++ ["payload contains instruction-like text (\"" ++ marker ++ "\")"], .critical)
  let flagged := marker.isSome || risk ≥ .high
  let reasoning :=
    if signals = [] then "No risk signals: spend is in the low band and the payload is well-formed JSON."
    else "Signals: " ++ "; ".intercalate signals ++ "."
  ⟨agentRole ++ " requested '" ++ toolName ++ "' for $" ++ moneyText spendUsd ++ ".", risk, flagged, reasoning⟩

variable {agentRole toolName : String} {payloadJson : Option String} {spendUsd : HostDecimal}

theorem assess_risk : (assess agentRole toolName payloadJson spendUsd).recommendedRisk =
    if (marker? (payloadJson.getD "")).isSome then .critical
    else if isValidJson (payloadJson.getD "") then spendBand spendUsd
    else max (spendBand spendUsd) .high := by
  cases found : marker? (payloadJson.getD "") with
  | some marker => simp [assess, found]
  | none => by_cases valid : isValidJson (payloadJson.getD "") = true <;> simp [assess, found, valid]

theorem spendBand_bounds : .low ≤ spendBand spendUsd ∧ spendBand spendUsd ≤ .critical := by
  unfold spendBand
  split_ifs <;> decide

theorem assess_bounds : .low ≤ (assess agentRole toolName payloadJson spendUsd).recommendedRisk ∧
    (assess agentRole toolName payloadJson spendUsd).recommendedRisk ≤ .critical := by
  obtain ⟨lower, upper⟩ := @spendBand_bounds spendUsd
  rw [assess_risk]
  split_ifs
  · decide
  · exact ⟨lower, upper⟩
  · exact ⟨le_max_of_le_left lower, max_le upper (by decide)⟩

theorem assess_low_iff : (assess agentRole toolName payloadJson spendUsd).recommendedRisk = .low ↔
    spendUsd.value < 100 ∧ isValidJson (payloadJson.getD "") = true ∧ marker? (payloadJson.getD "") = none := by
  have band : spendBand spendUsd = .low ↔ spendUsd.value < 100 := by
    unfold spendBand
    split_ifs with most more some
    · exact iff_of_false (by decide) (by linarith)
    · exact iff_of_false (by decide) (by linarith)
    · exact iff_of_false (by decide) (by linarith)
    · exact iff_of_true rfl (by linarith)
  rw [assess_risk]
  split_ifs with marked valid
  · exact iff_of_false (by decide) fun low => by simp [low.2.2] at marked
  · have unmarked : marker? (payloadJson.getD "") = none := by simpa using marked
    rw [band]
    exact ⟨fun low => ⟨low, valid, unmarked⟩, fun low => low.1⟩
  · refine iff_of_false (fun low => ?_) fun low => valid low.2.1
    have raised : RiskLevel.high ≤ .low := low ▸ le_max_right _ _
    exact absurd raised (by decide)

inductive Review where
  | failed
  | thrown
  | answered (model : LlmPolicyAnalysisDto)

structure ReviewConfiguration where
  endpoint : Option String
  apiKey : Option String

def ReviewConfiguration.complete (configuration : ReviewConfiguration) : Bool :=
  let present (value : Option String) := !(value.getD "").toList.all isWhiteSpace
  present configuration.endpoint && present configuration.apiKey

def analyzeExecutionRiskAsync (configuration : ReviewConfiguration) (review : Review) (agentRole toolName : String)
    (payloadJson : Option String) (spendUsd : HostDecimal) : Option LlmPolicyAnalysisDto :=
  let baseline := assess agentRole toolName payloadJson spendUsd
  if configuration.complete then
    match review with
    | .failed => some baseline
    | .thrown => none
    | .answered model => some { model with
        recommendedRisk := max model.recommendedRisk baseline.recommendedRisk
        flaggedForAnomalies := model.flaggedForAnomalies || baseline.flaggedForAnomalies }
  else some baseline

/-- A review never lowers what the screen says. -/
theorem analyze_raises {configuration : ReviewConfiguration} {review : Review} {reviewed : LlmPolicyAnalysisDto}
    (done : analyzeExecutionRiskAsync configuration review agentRole toolName payloadJson spendUsd = some reviewed) :
    (assess agentRole toolName payloadJson spendUsd).recommendedRisk ≤ reviewed.recommendedRisk ∧
      ((assess agentRole toolName payloadJson spendUsd).flaggedForAnomalies = true → reviewed.flaggedForAnomalies = true) := by
  have kept : assess agentRole toolName payloadJson spendUsd = reviewed →
      (assess agentRole toolName payloadJson spendUsd).recommendedRisk ≤ reviewed.recommendedRisk ∧
        ((assess agentRole toolName payloadJson spendUsd).flaggedForAnomalies = true → reviewed.flaggedForAnomalies = true) := by
    rintro rfl
    exact ⟨le_refl _, id⟩
  unfold analyzeExecutionRiskAsync at done
  split at done
  · cases review with
    | failed => exact kept (Option.some.inj done)
    | thrown => cases done
    | answered model =>
      cases done
      exact ⟨le_max_right _ _, fun flagged => by simp [flagged]⟩
  · exact kept (Option.some.inj done)

end AgentOps.RiskScreen
