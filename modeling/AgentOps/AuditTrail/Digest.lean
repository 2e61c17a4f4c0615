import AgentOps.Lib.HostDecimal
import AgentOps.Lib.Joined
import AgentOps.Lib.Utf16

namespace AgentOps.AuditTrail
open Lib

/-! # Audit events and their digest -/

structure Guid where
  bits : Nat
  bits_lt : bits < 16 ^ 32
  deriving DecidableEq

/-- `ToString("N")` -/
def Guid.text (guid : Guid) : List Char := numeral 16 32 guid.bits

inductive DateTimeKind where
  | unspecified
  | utc
  | localTime
  deriving DecidableEq

structure DateTime where
  ticks : Nat
  ticks_lt : ticks < 3155378976000000000
  kind : DateTimeKind
  deriving DecidableEq

def offsetText (minutes : Int) : List Char :=
  (if minutes < 0 then '-' else '+') :: (numeral 10 2 (minutes.natAbs / 60) ++ ':' :: numeral 10 2 (minutes.natAbs % 60))

section

variable (localOffset : Nat → Int)

/-- `localOffset` gives the minutes between local time and UTC at some ticks. -/
def DateTime.zoneText (time : DateTime) : List Char :=
  match time.kind with
  | .unspecified => []
  | .utc => ['Z']
  | .localTime => offsetText (localOffset time.ticks)

/-- `ToString("O")` -/
def DateTime.text (time : DateTime) : List Char :=
  let date := civilDate (time.ticks / 864000000000)
  numeral 10 4 date.year ++ ('-' :: (numeral 10 2 date.month ++ ('-' :: (numeral 10 2 date.day ++ ('T' ::
    (numeral 10 2 (time.ticks / 36000000000 % 24) ++ (':' :: (numeral 10 2 (time.ticks / 600000000 % 60) ++ (':' ::
      (numeral 10 2 (time.ticks / 10000000 % 60) ++ ('.' :: (numeral 10 7 (time.ticks % 10000000) ++ time.zoneText localOffset))))))))))))

end

structure AuditEvent where
  id : Guid
  eventType : CodeUnits
  agentId : Guid
  organizationId : CodeUnits
  sessionId : Option Guid
  actionName : CodeUnits
  decisionPolicy : CodeUnits
  capitalTransactedUsd : HostDecimal
  createdAtUtc : DateTime
  updatedAtUtc : Option DateTime
  merkleProofHash : CodeUnits

def sessionText (sessionId : Option Guid) : List Char := (sessionId.map Guid.text).getD ['-']

/-- `ToString("0.0000")` -/
def amountText (amount : HostDecimal) : List Char := placesText 4 (amount.rounded 4)

def hexText (bytes : List UInt8) : List Char := bytes.flatMap fun byte => numeral 16 2 byte.toNat

section

variable (sha256 : List UInt8 → List UInt8) (localOffset : Nat → Int)

def AuditEvent.parts (e : AuditEvent) : List CodeUnits :=
  [unitsOfText e.id.text, e.eventType, unitsOfText e.agentId.text, e.organizationId, unitsOfText (sessionText e.sessionId),
    e.actionName, e.decisionPolicy, unitsOfText (amountText e.capitalTransactedUsd), unitsOfText (e.createdAtUtc.text localOffset)]

def AuditEvent.canonical (e : AuditEvent) : CodeUnits := [0x7C].intercalate (e.parts localOffset)

def computeDigest (e : AuditEvent) : CodeUnits := unitsOfText (hexText (sha256 (utf8 (encoded (e.canonical localOffset)))))

def verify (e : AuditEvent) : Bool := e.merkleProofHash = computeDigest sha256 localOffset e

/-- `id` is the identifier that a new event gives itself. -/
def create (id : Guid) (eventType : CodeUnits) (agentId : Guid) (organizationId : CodeUnits) (sessionId : Option Guid)
    (actionName decisionPolicy : CodeUnits) (capitalUsd : HostDecimal) (occurredAtUtc : DateTime) : AuditEvent :=
  let audit : AuditEvent :=
    ⟨id, eventType, agentId, organizationId, sessionId, actionName, decisionPolicy, capitalUsd, occurredAtUtc, none, []⟩
  { audit with merkleProofHash := computeDigest sha256 localOffset audit }

end

variable {sha256 : List UInt8 → List UInt8} {localOffset : Nat → Int} {e e' : AuditEvent} {guid guid' : Guid}
  {time time' : DateTime}

theorem Guid.text_injective : Function.Injective Guid.text := by
  intro guid guid' same
  have bits := numeral_injective (by decide) (by decide) guid.bits_lt guid'.bits_lt same
  cases guid
  cases guid'
  cases bits
  rfl

theorem sessionText_injective : Function.Injective sessionText := by
  have long (guid : Guid) : guid.text ≠ ['-'] := by
    intro same
    have lengths := congrArg List.length same
    simp [Guid.text] at lengths
  intro session session' same
  cases session with
  | none =>
    cases session' with
    | none => rfl
    | some guid => exact absurd same.symm (long guid)
  | some guid =>
    cases session' with
    | none => exact absurd same (long guid)
    | some guid' => rw [Guid.text_injective same]

theorem hexText_injective : Function.Injective hexText := by
  intro bytes bytes' same
  induction bytes generalizing bytes' with
  | nil =>
    cases bytes' with
    | nil => rfl
    | cons byte bytes' =>
      have lengths := congrArg List.length same
      simp [hexText] at lengths
      omega
  | cons byte bytes ih =>
    cases bytes' with
    | nil =>
      have lengths := congrArg List.length same
      simp [hexText] at lengths
    | cons byte' bytes' =>
      rw [hexText, hexText, List.flatMap_cons, List.flatMap_cons] at same
      obtain ⟨first, rest⟩ := List.append_inj same (by simp)
      have bytes := numeral_injective (by decide) (by decide) (byte.toNat_lt.trans_le (by decide))
        (byte'.toNat_lt.trans_le (by decide)) first
      rw [UInt8.toNat_inj.mp bytes, ih rest]

theorem offsetText_ne (minutes : Int) : offsetText minutes ≠ [] ∧ offsetText minutes ≠ ['Z'] := by
  refine ⟨List.cons_ne_nil _ _, fun same => ?_⟩
  have sign := (List.cons.inj same).1
  split at sign
  · cases sign
  · cases sign

theorem kind_of_zoneText (same : time.zoneText localOffset = time'.zoneText localOffset) : time.kind = time'.kind := by
  unfold DateTime.zoneText at same
  cases kind : time.kind <;> cases kind' : time'.kind <;> rw [kind, kind'] at same
  case localTime.unspecified => exact absurd same (offsetText_ne _).1
  case localTime.utc => exact absurd same (offsetText_ne _).2
  case unspecified.localTime => exact absurd same.symm (offsetText_ne _).1
  case utc.localTime => exact absurd same.symm (offsetText_ne _).2
  case utc.unspecified => cases same
  case unspecified.utc => cases same

theorem DateTime.text_injective : Function.Injective (DateTime.text localOffset) := by
  intro time time' same
  have valid := time.ticks_lt
  have valid' := time'.ticks_lt
  obtain ⟨year, month, day⟩ := @civilDate_bounds (time.ticks / 864000000000) (by omega)
  obtain ⟨year', month', day'⟩ := @civilDate_bounds (time'.ticks / 864000000000) (by omega)
  unfold DateTime.text at same
  obtain ⟨years, same⟩ := numeral_append_inj year year' same
  obtain ⟨months, same⟩ := numeral_append_inj month month' (List.cons.inj same).2
  obtain ⟨days, same⟩ := numeral_append_inj day day' (List.cons.inj same).2
  obtain ⟨hours, same⟩ := numeral_append_inj (by omega) (by omega) (List.cons.inj same).2
  obtain ⟨minutes, same⟩ := numeral_append_inj (by omega) (by omega) (List.cons.inj same).2
  obtain ⟨seconds, same⟩ := numeral_append_inj (by omega) (by omega) (List.cons.inj same).2
  obtain ⟨fractions, zones⟩ := numeral_append_inj (by omega) (by omega) (List.cons.inj same).2
  have dates := civilDate_injective (CivilDate.eq_of_parts years months days)
  have ticks : time.ticks = time'.ticks := by omega
  have kinds := kind_of_zoneText zones
  cases time
  cases time'
  cases ticks
  cases kinds
  rfl

end AgentOps.AuditTrail
