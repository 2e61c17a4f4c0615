import AgentOps.AuditTrail.Digest

namespace AgentOps.AuditTrail
open Lib

/-! # What the digest of an audit event says about its fields -/

def segments (text : CodeUnits) : List (List Char) := (encoded text).splitOn '|'

def IsGuidText (part : List Char) : Prop := ∃ guid : Guid, guid.text = part

def IsSessionText (part : List Char) : Prop := ∃ sessionId, sessionText sessionId = part

def AuditEvent.layout (e : AuditEvent) : Layout (List Char) :=
  ⟨segments e.eventType, e.agentId.text, segments e.organizationId, sessionText e.sessionId, segments e.actionName,
    segments e.decisionPolicy⟩

/-- All that is hashed, except the amount -/
structure SameDecision (e e' : AuditEvent) : Prop where
  id : e.id = e'.id
  eventType : e.eventType = e'.eventType
  agentId : e.agentId = e'.agentId
  organizationId : e.organizationId = e'.organizationId
  sessionId : e.sessionId = e'.sessionId
  actionName : e.actionName = e'.actionName
  decisionPolicy : e.decisionPolicy = e'.decisionPolicy
  createdAtUtc : e.createdAtUtc = e'.createdAtUtc

structure SameFields (e e' : AuditEvent) : Prop extends SameDecision e e' where
  capitalTransactedUsd : e.capitalTransactedUsd.value = e'.capitalTransactedUsd.value

def AuditEvent.texts (e : AuditEvent) : List CodeUnits := [e.eventType, e.organizationId, e.actionName, e.decisionPolicy]

/-- The texts can be told apart: neither has one half of a pair, or what replaces it, nor can a bar within one be taken for
the end of the field. -/
structure Separable (e : AuditEvent) : Prop where
  whole : ∀ text ∈ e.texts, '\uFFFD' ∉ encoded text
  layout : e.layout.Unambiguous IsGuidText IsSessionText

variable {sha256 : List UInt8 → List UInt8} {localOffset : Nat → Int} {e e' : AuditEvent} {text : List Char}

theorem bar_notMem_guid (guid : Guid) : '|' ∉ guid.text := numeral_notMem (by decide) (by decide)

theorem bar_notMem_session (sessionId : Option Guid) : '|' ∉ sessionText sessionId := by
  cases sessionId with
  | none => decide
  | some guid => exact bar_notMem_guid guid

theorem bar_notMem_amount (amount : HostDecimal) : '|' ∉ amountText amount :=
  placesText_notMem (by decide) (by decide) (by decide)

theorem bar_notMem_time (time : DateTime) : '|' ∉ time.text localOffset := by
  have digits (width n : Nat) : '|' ∉ numeral 10 width n := numeral_notMem (by decide) (by decide)
  have zone : '|' ∉ time.zoneText localOffset := by
    unfold DateTime.zoneText offsetText
    split
    · decide
    · decide
    · split <;> simp [digits]
  simp [DateTime.text, digits, zone]

theorem segments_unitsOfText (unbarred : '|' ∉ text) : segments (unitsOfText text) = [text] := by
  rw [segments, encoded_unitsOfText, List.splitOn_eq_singleton unbarred]

theorem splitOn_canonical (e : AuditEvent) : (encoded (e.canonical localOffset)).splitOn '|' =
    e.id.text :: (e.layout.flat ++ [amountText e.capitalTransactedUsd, e.createdAtUtc.text localOffset]) := by
  have bar : Char.ofNat (0x7C : UInt16).toNat = '|' := rfl
  rw [AuditEvent.canonical, encoded_intercalate ⟨rfl, rfl⟩, bar, splitOn_joined (by simp [AuditEvent.parts]), List.flatMap_map]
  change (e.parts localOffset).flatMap segments = _
  simp [AuditEvent.parts, segments_unitsOfText, bar_notMem_guid, bar_notMem_session, bar_notMem_amount, bar_notMem_time,
    Layout.flat, AuditEvent.layout]

theorem canonical_eq_iff : encoded (e.canonical localOffset) = encoded (e'.canonical localOffset) ↔
    e.id = e'.id ∧ e.layout.flat = e'.layout.flat ∧ e.capitalTransactedUsd.rounded 4 = e'.capitalTransactedUsd.rounded 4 ∧
      e.createdAtUtc = e'.createdAtUtc := by
  rw [← (@splitOn_injective Char _ '|').eq_iff, splitOn_canonical, splitOn_canonical]
  constructor
  · intro same
    obtain ⟨id, rest⟩ := List.cons.inj same
    obtain ⟨flat, ends⟩ := List.append_inj' rest (by simp)
    obtain ⟨amount, time⟩ := List.cons.inj ends
    exact ⟨Guid.text_injective id, flat, placesText_injective 4 amount, DateTime.text_injective (List.singleton_inj.mp time)⟩
  · rintro ⟨id, flat, amount, time⟩
    rw [id, flat, amountText, amount, amountText, time]

theorem digest_eq_iff (injective : Function.Injective sha256) :
    computeDigest sha256 localOffset e = computeDigest sha256 localOffset e' ↔
    e.id = e'.id ∧ e.layout.flat = e'.layout.flat ∧ e.capitalTransactedUsd.rounded 4 = e'.capitalTransactedUsd.rounded 4 ∧
      e.createdAtUtc = e'.createdAtUtc := by
  have units {text text' : List Char} : unitsOfText text = unitsOfText text' ↔ text = text' :=
    ⟨fun same => by rw [← encoded_unitsOfText text, same, encoded_unitsOfText], fun same => by rw [same]⟩
  rw [computeDigest, computeDigest, units, hexText_injective.eq_iff, injective.eq_iff, utf8_injective.eq_iff, canonical_eq_iff]

theorem layout_proper (e : AuditEvent) : e.layout.Proper IsGuidText IsSessionText :=
  ⟨List.splitOn_ne_nil _ _, ⟨_, rfl⟩, List.splitOn_ne_nil _ _, ⟨_, rfl⟩, List.splitOn_ne_nil _ _, List.splitOn_ne_nil _ _⟩

theorem guidText_included (part : List Char) : IsGuidText part → IsSessionText part := by
  rintro ⟨guid, rfl⟩
  exact ⟨some guid, rfl⟩

theorem bar_notMem_flat (e : AuditEvent) : ∀ part ∈ e.layout.flat, '|' ∉ part := by
  intro part member
  have split := @splitOn_canonical (fun _ => 0) e
  have segment : part ∈ (encoded (e.canonical fun _ => 0)).splitOn '|' := by
    rw [split]
    exact List.mem_cons_of_mem _ (List.mem_append_left _ member)
  exact notMem_of_mem_splitOn segment

theorem segments_joined {parts : List (List Char)} (some : parts ≠ []) (unbarred : ∀ part ∈ parts, '|' ∉ part) :
    segments (unitsOfText (['|'].intercalate parts)) = parts := by
  rw [segments, encoded_unitsOfText, List.splitOn_intercalate '|' unbarred some]

theorem exists_event {l : Layout (List Char)} (proper : l.Proper IsGuidText IsSessionText) (same : l.flat = e.layout.flat) :
    ∃ other : AuditEvent, other.layout = l ∧ other.id = e.id ∧ other.capitalTransactedUsd = e.capitalTransactedUsd ∧
      other.createdAtUtc = e.createdAtUtc := by
  obtain ⟨agentId, agent⟩ := proper.second
  obtain ⟨sessionId, session⟩ := proper.fourth
  have unbarred := bar_notMem_flat e
  rw [← same] at unbarred
  simp only [Layout.flat, List.forall_mem_append, List.forall_mem_cons] at unbarred
  obtain ⟨first, -, third, -, fifth, sixth⟩ := unbarred
  refine ⟨{ e with
    eventType := unitsOfText (['|'].intercalate l.first)
    agentId := agentId
    organizationId := unitsOfText (['|'].intercalate l.third)
    sessionId := sessionId
    actionName := unitsOfText (['|'].intercalate l.fifth)
    decisionPolicy := unitsOfText (['|'].intercalate l.sixth) }, ?_, rfl, rfl, rfl⟩
  apply Layout.ext
  · exact segments_joined proper.first first
  · exact agent
  · exact segments_joined proper.third third
  · exact session
  · exact segments_joined proper.fifth fifth
  · exact segments_joined proper.sixth sixth

theorem SameDecision.layout (same : SameDecision e e') : e.layout = e'.layout := by
  rw [AuditEvent.layout, same.eventType, same.agentId, same.organizationId, same.sessionId, same.actionName, same.decisionPolicy]
  rfl

theorem exists_replaced (injective : Function.Injective sha256) {text : CodeUnits} (listed : text ∈ e.texts)
    (replaced : '\uFFFD' ∈ encoded text) :
    ∃ other, computeDigest sha256 localOffset other = computeDigest sha256 localOffset e ∧ ¬SameDecision other e := by
  obtain ⟨text', apart, same⟩ := encoded_ambiguous replaced
  have segment : segments text' = segments text := by rw [segments, same, segments]
  simp only [AuditEvent.texts, List.mem_cons, List.not_mem_nil, or_false] at listed
  rcases listed with rfl | rfl | rfl | rfl
  · refine ⟨{ e with eventType := text' }, (digest_eq_iff injective).mpr ⟨rfl, ?_, rfl, rfl⟩, fun decision => apart decision.eventType⟩
    rw [AuditEvent.layout, segment, AuditEvent.layout]
  · refine ⟨{ e with organizationId := text' }, (digest_eq_iff injective).mpr ⟨rfl, ?_, rfl, rfl⟩,
      fun decision => apart decision.organizationId⟩
    rw [AuditEvent.layout, segment, AuditEvent.layout]
  · refine ⟨{ e with actionName := text' }, (digest_eq_iff injective).mpr ⟨rfl, ?_, rfl, rfl⟩, fun decision => apart decision.actionName⟩
    rw [AuditEvent.layout, segment, AuditEvent.layout]
  · refine ⟨{ e with decisionPolicy := text' }, (digest_eq_iff injective).mpr ⟨rfl, ?_, rfl, rfl⟩,
      fun decision => apart decision.decisionPolicy⟩
    rw [AuditEvent.layout, segment, AuditEvent.layout]

theorem exists_shifted (injective : Function.Injective sha256) (ambiguous : ¬e.layout.Unambiguous IsGuidText IsSessionText) :
    ∃ other, computeDigest sha256 localOffset other = computeDigest sha256 localOffset e ∧ ¬SameDecision other e := by
  obtain ⟨l, proper, apart, flat⟩ := Layout.exists_other (layout_proper e) ambiguous
  obtain ⟨other, layout, id, amount, time⟩ := exists_event proper flat
  refine ⟨other, (digest_eq_iff injective).mpr ⟨id, by rw [layout, flat], by rw [amount], time⟩, fun decision => apart ?_⟩
  rw [← layout, decision.layout]

theorem Separable.sameDecision (injective : Function.Injective sha256) (separable : Separable e)
    (same : computeDigest sha256 localOffset e' = computeDigest sha256 localOffset e) : SameDecision e' e := by
  obtain ⟨id, flat, -, time⟩ := (digest_eq_iff injective).mp same
  have layout := Layout.eq_of_flat guidText_included (layout_proper e') separable.layout flat.symm
  have whole := separable.whole
  simp only [AuditEvent.texts, List.forall_mem_cons] at whole
  obtain ⟨eventType, organizationId, actionName, decisionPolicy, -⟩ := whole
  exact {
    id := id
    eventType := encoded_unique eventType (splitOn_injective (congrArg Layout.first layout).symm)
    agentId := Guid.text_injective (congrArg Layout.second layout).symm
    organizationId := encoded_unique organizationId (splitOn_injective (congrArg Layout.third layout).symm)
    sessionId := sessionText_injective (congrArg Layout.fourth layout).symm
    actionName := encoded_unique actionName (splitOn_injective (congrArg Layout.fifth layout).symm)
    decisionPolicy := encoded_unique decisionPolicy (splitOn_injective (congrArg Layout.sixth layout).symm)
    createdAtUtc := time
  }

theorem separable_of_unbarred (plain : ∀ text ∈ e.texts, '\uFFFD' ∉ encoded text ∧ '|' ∉ encoded text) : Separable e := by
  refine ⟨fun text listed => (plain text listed).1, ?_⟩
  simp only [AuditEvent.texts, List.forall_mem_cons] at plain
  obtain ⟨eventType, organizationId, actionName, decisionPolicy, -⟩ := plain
  have single {text : CodeUnits} (unbarred : '|' ∉ encoded text) : segments text = [encoded text] := List.splitOn_eq_singleton unbarred
  constructor <;>
    simp [AuditEvent.layout, single eventType.2, single organizationId.2, single actionName.2, single decisionPolicy.2]

theorem decision_bound_iff (injective : Function.Injective sha256) :
    (∀ other, computeDigest sha256 localOffset other = computeDigest sha256 localOffset e → SameDecision other e) ↔ Separable e := by
  constructor
  · intro binds
    constructor
    · intro text listed replaced
      obtain ⟨other, same, apart⟩ := @exists_replaced sha256 localOffset e injective text listed replaced
      exact apart (binds other same)
    · by_contra ambiguous
      obtain ⟨other, same, apart⟩ := @exists_shifted sha256 localOffset e injective ambiguous
      exact apart (binds other same)
  · exact fun separable other same => separable.sameDecision injective same

theorem amount_bound_iff (injective : Function.Injective sha256) :
    (∀ other, computeDigest sha256 localOffset other = computeDigest sha256 localOffset e →
      other.capitalTransactedUsd.value = e.capitalTransactedUsd.value) ↔
    HostDecimal.lastShared < |e.capitalTransactedUsd.value| * 10 ^ 4 := by
  constructor
  · intro binds
    by_contra within
    obtain ⟨amount, apart, same⟩ := HostDecimal.exists_rounded_alike e.capitalTransactedUsd (not_lt.mp within)
    exact apart (binds { e with capitalTransactedUsd := amount } ((digest_eq_iff injective).mpr ⟨rfl, rfl, same, rfl⟩))
  · intro beyond other same
    exact HostDecimal.value_eq_of_rounded beyond ((digest_eq_iff injective).mp same).2.2.1

/-- The digest of an event is that of no other exactly when its texts can be told apart and its amount has no room for a fifth
decimal place; its decision is bound by the first alone, and what an edit of a verified row can change is what another event
of the digest differs in. -/
theorem digest_binds_iff (injective : Function.Injective sha256) (localOffset : Nat → Int) (e : AuditEvent) :
    ((∀ other, computeDigest sha256 localOffset other = computeDigest sha256 localOffset e → SameFields other e) ↔
      Separable e ∧ HostDecimal.lastShared < |e.capitalTransactedUsd.value| * 10 ^ 4) ∧
    ((∀ other, computeDigest sha256 localOffset other = computeDigest sha256 localOffset e → SameDecision other e) ↔ Separable e) ∧
    (verify sha256 localOffset e = true →
      ((∀ other, other.merkleProofHash = e.merkleProofHash → verify sha256 localOffset other = true → SameFields other e) ↔
        Separable e ∧ HostDecimal.lastShared < |e.capitalTransactedUsd.value| * 10 ^ 4)) := by
  have binds : (∀ other, computeDigest sha256 localOffset other = computeDigest sha256 localOffset e → SameFields other e) ↔
      Separable e ∧ HostDecimal.lastShared < |e.capitalTransactedUsd.value| * 10 ^ 4 := by
    rw [← @decision_bound_iff sha256 localOffset e injective, ← @amount_bound_iff sha256 localOffset e injective, ← forall₂_and]
    exact forall₂_congr fun other _ => ⟨fun same => ⟨same.toSameDecision, same.capitalTransactedUsd⟩, fun same => ⟨same.1, same.2⟩⟩
  refine ⟨binds, decision_bound_iff injective, fun verified => ?_⟩
  rw [← binds]
  have hash : e.merkleProofHash = computeDigest sha256 localOffset e := of_decide_eq_true verified
  constructor
  · intro edits other same
    have edit := edits { other with merkleProofHash := e.merkleProofHash } rfl (decide_eq_true (hash.trans same.symm))
    exact ⟨⟨edit.id, edit.eventType, edit.agentId, edit.organizationId, edit.sessionId, edit.actionName, edit.decisionPolicy,
      edit.createdAtUtc⟩, edit.capitalTransactedUsd⟩
  · intro digests other kept verifies
    have own : other.merkleProofHash = computeDigest sha256 localOffset other := of_decide_eq_true verifies
    exact digests other (own.symm.trans (kept.trans hash))

def settled (actionName decisionPolicy : String) (amount : HostDecimal) : AuditEvent where
  id := ⟨1, by decide⟩
  eventType := unitsOfText "ExecutionSettled".toList
  agentId := ⟨2, by decide⟩
  organizationId := unitsOfText "acme".toList
  sessionId := none
  actionName := unitsOfText actionName.toList
  decisionPolicy := unitsOfText decisionPolicy.toList
  capitalTransactedUsd := amount
  createdAtUtc := ⟨0, by decide, .utc⟩
  updatedAtUtc := none
  merkleProofHash := []

def dollars (mantissa : Int) (scale : Nat) (fits : mantissa.natAbs < 2 ^ 96 ∧ scale ≤ 28) : HostDecimal :=
  ⟨mantissa, scale, fits.1, fits.2⟩

/-- Text moved from the name of the action to the policy, and an amount below half of a ten-thousandth -/
theorem digest_collides :
    (∀ sha256 localOffset, computeDigest sha256 localOffset (settled "pay|daily" "limit" (dollars 5 0 (by decide))) =
      computeDigest sha256 localOffset (settled "pay" "daily|limit" (dollars 5 0 (by decide)))) ∧
    ¬SameFields (settled "pay|daily" "limit" (dollars 5 0 (by decide))) (settled "pay" "daily|limit" (dollars 5 0 (by decide))) ∧
    (∀ sha256 localOffset, computeDigest sha256 localOffset (settled "pay" "daily" (dollars 0 0 (by decide))) =
      computeDigest sha256 localOffset (settled "pay" "daily" (dollars 1 5 (by decide)))) ∧
    ¬SameFields (settled "pay" "daily" (dollars 0 0 (by decide))) (settled "pay" "daily" (dollars 1 5 (by decide))) := by
  refine ⟨fun sha256 localOffset => ?_, fun same => ?_, fun sha256 localOffset => ?_, fun same => ?_⟩
  · rw [computeDigest, canonical_eq_iff.mpr, computeDigest]
    refine ⟨rfl, ?_, rfl, rfl⟩
    simp only [Layout.flat, AuditEvent.layout, settled, segments, encoded_unitsOfText]
    rfl
  · have names := congrArg encoded same.actionName
    simp only [settled, encoded_unitsOfText] at names
    exact absurd names (by decide)
  · rw [computeDigest, canonical_eq_iff.mpr, computeDigest]
    exact ⟨rfl, rfl, by decide, rfl⟩
  · have values := HostDecimal.value_eq_iff.mp same.capitalTransactedUsd
    exact absurd values (by decide)

theorem digest_binds_settled :
    (∀ other, computeDigest id (fun _ => 0) other = computeDigest id (fun _ => 0) (settled "pay" "daily" (dollars 5 0 (by decide))) →
      SameDecision other (settled "pay" "daily" (dollars 5 0 (by decide)))) ∧
    ¬∀ other, computeDigest id (fun _ => 0) other = computeDigest id (fun _ => 0) (settled "pay" "daily" (dollars 5 0 (by decide))) →
      SameFields other (settled "pay" "daily" (dollars 5 0 (by decide))) := by
  have bound := digest_binds_iff Function.injective_id (fun _ => 0) (settled "pay" "daily" (dollars 5 0 (by decide)))
  constructor
  · apply bound.2.1.mpr
    apply separable_of_unbarred
    simp only [AuditEvent.texts, settled, List.forall_mem_cons, encoded_unitsOfText]
    decide
  · intro binds
    have beyond := (bound.1.mp binds).2
    norm_num [settled, dollars, HostDecimal.value, HostDecimal.lastShared] at beyond

end AgentOps.AuditTrail
