import AgentOps.Policy.LifecycleLocks

namespace AgentOps.Policy
open Lib Identity

/-! # What becomes of a policy draft -/

def NextVersion (s : Lifecycle) (row : PolicyVersionRow) : Prop :=
  (∃ old ∈ s.store.policyVersions, old.policy_id = row.policy_id ∧ row.version = old.version + 1) ∧
    ∀ old ∈ s.store.policyVersions, old.policy_id = row.policy_id → old.version < row.version

/-- A draft becomes one version at most, none once it is discarded, and where it revises a policy it becomes the next
version of that policy. -/
structure DraftsLawful (events : List (Lifecycle × LifecycleLabel)) (last : Lifecycle) : Prop where
  single : ∀ row ∈ last.store.policyVersions, ∀ other ∈ last.store.policyVersions, ∀ draftId,
    last.draftIds row.key = some draftId → last.draftIds other.key = some draftId → row = other
  discarded : ∀ s ∈ states events last, ∀ draft ∈ s.policyDrafts, draft.status = .discarded →
    ∀ row ∈ last.store.policyVersions, last.draftIds row.key ≠ some draft.id
  revised : ∀ e ∈ events, ∀ s', e.1.step e.2 = some s' → ∀ row ∈ s'.store.policyVersions,
    e.1.store.policyVersions.find? row.key = none → ∀ draft ∈ e.1.policyDrafts, s'.draftIds row.key = some draft.id →
      ∀ policyId, draft.revision_policy_id = some policyId → row.policy_id = policyId ∧ NextVersion e.1 row

/-- `activatePolicyDraft` is called for a draft that is neither activated nor discarded, and that revises no policy. -/
def ActivatesOpen (s : Lifecycle) : LifecycleLabel → Prop
  | .start _ (.editPolicyDraft (.activate ..) orgId draftId) => ∀ draft, s.draft? orgId draftId = some draft →
      draft.lockedDraft = false ∧ draft.revision_policy_id = none
  | _ => True

structure Revision.Checked (revision : Revision) : Prop where
  unlocked : revision.draft.lockedDraft = false
  revises : revision.draft.revision_policy_id = some revision.policyId
  nonempty : revision.versions ≠ []
  same : ∀ row ∈ revision.versions, row.policy_id = revision.policyId

def PolicyPhase.Lawful : PolicyPhase → Prop
  | .editing .discard draft => draft.status ≠ .activated
  | .editing (.activate ..) draft => draft.lockedDraft = false ∧ draft.revision_policy_id = none
  | .editing _ draft | .revising draft => draft.lockedDraft = false
  | .awaitingVersions draft visible => draft.lockedDraft = false ∧ ∃ policyId baseVersion mode,
      draft.revision = .ok (policyId, baseVersion, mode) ∧ ∀ key ∈ visible, key.1 = policyId
  | .versionsLocked revision | .versionInserted revision _ | .bindingsMoved revision .. => revision.Checked
  | _ => True

theorem assertUnlocked_ok {draft : PolicyDraftRow} (unlocked : draft.assertUnlocked = .ok ()) :
    draft.lockedDraft = false := by
  unfold PolicyDraftRow.assertUnlocked at unlocked
  split at unlocked
  · cases unlocked
  · simpa using ‹¬draft.lockedDraft = true›

theorem revision_ok {draft : PolicyDraftRow} {policyId : PolicyId} {baseVersion : Nat} {mode : PolicyRevisionMode}
    (revises : draft.revision = .ok (policyId, baseVersion, mode)) : draft.revision_policy_id = some policyId := by
  unfold PolicyDraftRow.revision at revises
  split at revises
  · rename_i same _ _
    cases revises
    exact same
  · cases revises

theorem unlocked_status {draft : PolicyDraftRow} (unlocked : draft.lockedDraft = false) :
    draft.status ≠ .activated ∧ draft.status ≠ .discarded := by
  simpa [PolicyDraftRow.lockedDraft] using unlocked

theorem PolicyPhase.Lawful.unactivated {phase : PolicyPhase} (lawful : phase.Lawful) {draft : PolicyDraftRow}
    (held : phase.heldDraft? = some draft) : draft.status ≠ .activated := by
  cases phase with
  | editing edit locked =>
    obtain rfl := Option.some.inj held
    cases edit with
    | discard => exact lawful
    | activate => exact (unlocked_status lawful.1).1
    | update | validate => exact (unlocked_status lawful).1
  | revising =>
    obtain rfl := Option.some.inj held
    exact (unlocked_status lawful).1
  | awaitingVersions =>
    obtain rfl := Option.some.inj held
    exact (unlocked_status lawful.1).1
  | versionsLocked | versionInserted | bindingsMoved =>
    obtain rfl := Option.some.inj held
    exact (unlocked_status lawful.unlocked).1
  | _ => cases held

section Step

variable {s s' committed : Lifecycle} {callId : Nat} {phase phase' : PolicyPhase}

theorem start?_lawful {request : PolicyRequest} (opens : ActivatesOpen s (.start callId request))
    (started : s.start? callId request = some phase) : phase.Lawful := by
  cases request with
  | createPolicyDraft =>
    obtain rfl := Option.some.inj started
    trivial
  | createPolicyRevisionDraft =>
    obtain ⟨base, draft, -, -, rfl⟩ := Lifecycle.start?_createRevision started
    trivial
  | createPolicyRestoreDraft =>
    simp only [Lifecycle.start?] at started
    split at started
    · cases started
    · obtain rfl := Option.some.inj started
      trivial
  | editPolicyDraft edit =>
    obtain ⟨draft, found, -, checked, rfl⟩ := Lifecycle.start?_edit started
    cases edit with
    | update | validate => exact assertUnlocked_ok checked
    | activate => exact opens draft found
    | discard =>
      simp only [DraftEdit.check] at checked
      split at checked
      · cases checked
      · assumption
  | activatePolicyRevisionDraft =>
    obtain ⟨draft, -, -, unlocked, rfl⟩ := Lifecycle.start?_revise started
    exact assertUnlocked_ok unlocked
  | bindPolicy =>
    obtain ⟨version, -, -, rfl⟩ := Lifecycle.start?_bind started
    trivial
  | removePolicyBinding =>
    obtain ⟨binding, -, rfl⟩ := Lifecycle.start?_remove started
    trivial
  | archivePolicy =>
    obtain ⟨version, -, -, rfl⟩ := Lifecycle.start?_archive started
    trivial

theorem next?_lawful {bindingIds : List PolicyBindingId} {now : Time} (lawful : phase.Lawful)
    (proceeded : s.next? callId bindingIds now phase = some phase') : phase'.Lawful := by
  cases phase with
  | restoring =>
    obtain ⟨base, draft, -, -, rfl⟩ := Lifecycle.next?_restoring proceeded
    trivial
  | revising draft =>
    obtain ⟨policyId, baseVersion, mode, revises, rfl⟩ := Lifecycle.next?_revising proceeded
    refine ⟨lawful, policyId, baseVersion, mode, revises, fun key seen => ?_⟩
    obtain ⟨row, listed, rfl⟩ := List.mem_map.mp seen
    simp only [Lifecycle.versionsOf, List.mem_filter, decide_eq_true_eq] at listed
    exact listed.2.2
  | awaitingVersions draft visible =>
    obtain ⟨revision, -, checked, rfl⟩ := Lifecycle.next?_awaiting proceeded
    obtain ⟨unlocked, policyId, baseVersion, mode, revises, seen⟩ := lawful
    obtain ⟨baseVersion', revises', nonempty, rfl, versions, -, -⟩ := Lifecycle.checkVersions_ok checked
    obtain ⟨rfl, -⟩ := Prod.mk.inj (Except.ok.inj (revises.symm.trans revises'))
    refine ⟨unlocked, revision_ok revises', by rwa [versions], fun row member => ?_⟩
    rw [versions] at member
    obtain ⟨key, visible, located⟩ := List.mem_filterMap.mp member
    obtain rfl := Table.key_of_find? located
    exact seen row.key visible
  | versionsLocked =>
    obtain rfl := Lifecycle.next?_versionsLocked proceeded
    exact lawful
  | versionInserted =>
    obtain ⟨targets, -, rfl⟩ := Lifecycle.next?_versionInserted proceeded
    exact lawful
  | bindingChecked =>
    obtain ⟨bindingId, -, rfl⟩ := Lifecycle.next?_bindingChecked proceeded
    trivial
  | archiving =>
    obtain rfl := Lifecycle.next?_archiving proceeded
    trivial
  | _ => cases proceeded

structure Lifecycle.Drafted (s : Lifecycle) : Prop where
  locked : s.Locked
  lawful : ∀ call ∈ s.calls, call.phase.Lawful
  gapless : ∀ row ∈ s.store.policyVersions, ∀ n, 0 < n → n ≤ row.version →
    ∃ other ∈ s.store.policyVersions, other.key = (row.policy_id, n)
  activated : ∀ row ∈ s.store.policyVersions, ∀ draftId, s.draftIds row.key = some draftId →
    ∃ draft ∈ s.policyDrafts, draft.id = draftId ∧ draft.status = .activated ∧
      draft.activated_policy_id = some row.policy_id ∧ draft.activated_version = some row.version

theorem Lifecycle.Drafted.at (drafted : s.Drafted) {call : PolicyCall} (found : s.calls.find? callId = some call) :
    call.phase.Lawful := drafted.lawful call (Table.mem_of_find? found)

theorem Revision.Checked.last {revision : Revision} (checked : revision.Checked)
    (held : ∀ row ∈ revision.versions, row ∈ s.store.policyVersions) :
    ∃ row ∈ s.store.policyVersions, row.policy_id = revision.policyId ∧ revision.nextVersion = row.version + 1 := by
  have greatest : ∀ rows : List PolicyVersionRow, rows ≠ [] →
      ∃ row ∈ rows, (rows.map (·.version)).foldr max 0 = row.version := by
    intro rows nonempty
    induction rows with
    | nil => exact absurd rfl nonempty
    | cons first rows ih =>
      rcases eq_or_ne rows [] with rfl | more
      · exact ⟨first, List.mem_cons_self, by simp⟩
      · obtain ⟨row, member, same⟩ := ih more
        rw [List.map_cons, List.foldr_cons, same]
        rcases Nat.le_total first.version row.version with below | above
        · exact ⟨row, List.mem_cons_of_mem _ member, max_eq_right below⟩
        · exact ⟨first, List.mem_cons_self, max_eq_left above⟩
  obtain ⟨row, member, same⟩ := greatest revision.versions checked.nonempty
  exact ⟨row, held row member, checked.same row member, by rw [Revision.nextVersion, same]⟩

theorem newVersion_follows (lawful : phase.Lawful) (held : ∀ row ∈ phase.heldVersions, row ∈ s.store.policyVersions)
    {row : PolicyVersionRow} {draftId : PolicyDraftId} (new : phase.newVersion? = some (row, draftId)) :
    row.version = 1 ∨ ∃ old ∈ s.store.policyVersions, old.policy_id = row.policy_id ∧ row.version = old.version + 1 := by
  cases phase with
  | editing edit draft =>
    cases edit with
    | activate =>
      cases new
      exact .inl rfl
    | _ => cases new
  | bindingsMoved revision now removed inserted =>
    cases new
    exact .inr (lawful.last held)
  | _ => cases new

theorem Lifecycle.Drafted.gapless_commit (drafted : s.Drafted) (lawful : phase.Lawful) (holds : s.Holds callId phase)
    {versions : Table PolicyVersionRow.key} (wrote : s.VersionsCommitted committed phase versions) :
    ∀ row ∈ committed.store.policyVersions, ∀ n, 0 < n → n ≤ row.version →
      ∃ other ∈ committed.store.policyVersions, other.key = (row.policy_id, n) := by
  have kept (key : VersionKey) (present : ∃ other ∈ s.store.policyVersions, other.key = key) :
      ∃ other ∈ committed.store.policyVersions, other.key = key := by
    obtain ⟨other, member, keyed⟩ := present
    obtain ⟨other', stays, same, -⟩ := wrote.grows.mem member
    exact ⟨other', stays, same.trans keyed⟩
  intro row member n positive within
  rcases wrote.source member with ⟨old, before, keyed, -⟩ | ⟨draftId, new⟩
  · obtain ⟨same, number⟩ := Prod.mk.inj keyed
    rw [same]
    exact kept _ (drafted.gapless old before n positive (number ▸ within))
  · rcases newVersion_follows lawful holds.versions new with first | ⟨old, before, same, next⟩
    · obtain rfl : n = row.version := by omega
      exact ⟨row, member, rfl⟩
    · rcases Nat.lt_or_ge old.version n with later | earlier
      · obtain rfl : n = row.version := by omega
        exact ⟨row, member, rfl⟩
      · rw [← same]
        exact kept _ (drafted.gapless old before n positive earlier)

theorem newVersion_draft (holds : s.Holds callId phase) (taken : s.commitPhase phase = some committed)
    {row : PolicyVersionRow} {draftId : PolicyDraftId} (new : phase.newVersion? = some (row, draftId)) :
    ∃ draft ∈ committed.policyDrafts, draft.id = draftId ∧ draft.status = .activated ∧
      draft.activated_policy_id = some row.policy_id ∧ draft.activated_version = some row.version := by
  have put {draft edited : PolicyDraftRow} (written : committed.policyDrafts = s.policyDrafts.put edited)
      (held : phase.heldDraft? = some draft) (keyed : draft.id = edited.id) : edited ∈ committed.policyDrafts := by
    rw [written]
    exact Table.mem_put.mpr (.inr ⟨rfl, draft, holds.drafts draft held, keyed⟩)
  cases phase with
  | editing edit draft =>
    cases edit with
    | activate policyId now =>
      cases new
      have taken : s.commitEdit (.activate policyId now) draft = some committed := taken
      exact ⟨_, put (Lifecycle.commitEdit_some taken).1 rfl rfl, rfl, rfl, rfl, rfl⟩
    | _ => cases new
  | bindingsMoved revision now removed inserted =>
    cases new
    obtain ⟨-, -, -, written⟩ := Lifecycle.commitRevision_some taken
    exact ⟨_, put written rfl rfl, rfl, rfl, rfl, rfl⟩
  | _ => cases new

theorem Lifecycle.VersionsCommitted.draftIds {versions : Table PolicyVersionRow.key}
    (wrote : s.VersionsCommitted committed phase versions) {row : PolicyVersionRow}
    (present : s.store.policyVersions.find? row.key ≠ none) : committed.draftIds row.key = s.draftIds row.key := by
  cases new : phase.newVersion? with
  | none => rw [(wrote.kept new).2]
  | some added =>
    rw [(wrote.added _ _ new).2, Lifecycle.setDraftId, Function.update_of_ne]
    intro same
    rw [same] at present
    exact present (wrote.fresh new).1

theorem activated_kept (lawful : phase.Lawful) (holds : s.Holds callId phase)
    (taken : s.commitPhase phase = some committed) {draft : PolicyDraftRow} (member : draft ∈ s.policyDrafts)
    (activated : draft.status = .activated) : draft ∈ committed.policyDrafts := by
  refine Lifecycle.commitPhase_draft_kept taken member fun locked => ?_
  obtain ⟨held, here, same⟩ := Option.map_eq_some_iff.mp locked
  obtain rfl := Table.eq_of_key (holds.drafts held here) member same
  exact lawful.unactivated here activated

theorem Lifecycle.Drafted.commit (drafted : s.Drafted) {call : PolicyCall} (found : s.calls.find? callId = some call)
    (taken : s.commitPhase call.phase = some committed) :
    { committed with calls := s.calls.remove callId }.Drafted := by
  have lawful := drafted.at found
  have holds := drafted.locked.holds found
  obtain ⟨versions, wrote⟩ := Lifecycle.commitPhase_versions drafted.locked holds taken
  have gapless := drafted.gapless_commit lawful holds wrote
  refine ⟨drafted.locked.commit found taken, fun other member => drafted.lawful other (Table.mem_remove.mp member).1,
    gapless, ?_⟩
  intro row member draftId owner
  rcases wrote.source member with ⟨old, before, keyed, -⟩ | ⟨draftId', new⟩
  · have present : s.store.policyVersions.find? row.key ≠ none := by
      rw [keyed, Table.find?_of_mem before]
      exact Option.some_ne_none old
    have owned := (wrote.draftIds present).symm.trans owner
    rw [keyed] at owned
    obtain ⟨draft, there, same, activated, policy, version⟩ := drafted.activated old before draftId owned
    obtain ⟨samePolicy, sameVersion⟩ := Prod.mk.inj keyed
    rw [samePolicy, sameVersion]
    exact ⟨draft, activated_kept lawful holds taken there activated, same, activated, policy, version⟩
  · have same : draftId' = draftId := by
      have written := (wrote.added _ _ new).2
      have set := congrFun written row.key
      rw [Lifecycle.setDraftId, Function.update_self] at set
      exact Option.some.inj (set.symm.trans owner)
    exact same ▸ newVersion_draft holds taken new

theorem Lifecycle.Drafted.step (drafted : s.Drafted) {label : LifecycleLabel} (opens : ActivatesOpen s label)
    (taken : s.step label = some s') : s'.Drafted := by
  have locked := drafted.locked.step taken
  cases label with
  | start callId request =>
    obtain ⟨phase, calls, started, inserted, rfl⟩ := Lifecycle.step_start taken
    refine ⟨locked, fun call member => ?_, drafted.gapless, drafted.activated⟩
    rcases (Table.mem_insert? inserted).mp member with rfl | before
    · exact start?_lawful opens started
    · exact drafted.lawful call before
  | proceed callId bindingIds now =>
    obtain ⟨call, phase, found, proceeded, rfl⟩ := Lifecycle.step_proceed taken
    refine ⟨locked, fun other member => ?_, drafted.gapless, drafted.activated⟩
    rcases Table.mem_put.mp member with ⟨before, -⟩ | ⟨rfl, -⟩
    · exact drafted.lawful other before
    · exact next?_lawful (drafted.at found) proceeded
  | commit callId =>
    obtain ⟨call, committed, found, written, rfl⟩ := Lifecycle.step_commit taken
    exact drafted.commit found written
  | rollback callId =>
    obtain rfl := Option.some.inj taken
    exact ⟨locked, fun call member => drafted.lawful call (Table.mem_remove.mp member).1, drafted.gapless,
      drafted.activated⟩

def Lifecycle.Discarded (s : Lifecycle) (draftId : PolicyDraftId) : Prop :=
  ∃ draft ∈ s.policyDrafts, draft.id = draftId ∧ draft.status = .discarded

theorem discarded_commit (lawful : phase.Lawful) (holds : s.Holds callId phase)
    (taken : s.commitPhase phase = some committed) {draftId : PolicyDraftId} (discarded : s.Discarded draftId) :
    committed.Discarded draftId := by
  obtain ⟨draft, member, rfl, status⟩ := discarded
  by_cases locked : phase.lockedDraft? = some draft.id
  · obtain ⟨held, here, same⟩ := Option.map_eq_some_iff.mp locked
    obtain rfl := Table.eq_of_key (holds.drafts held here) member same
    have unlocked (open_ : held.lockedDraft = false) : committed.Discarded held.id :=
      absurd status (unlocked_status open_).2
    cases phase with
    | editing edit draft =>
      cases here
      cases edit with
      | discard =>
        have taken : s.commitEdit .discard held = some committed := taken
        have written := (Lifecycle.commitEdit_some taken).1
        refine ⟨{ held with status := .discarded }, ?_, rfl, rfl⟩
        rw [written]
        exact Table.mem_put.mpr (.inr ⟨rfl, held, member, rfl⟩)
      | activate => exact unlocked lawful.1
      | update | validate => exact unlocked lawful
    | bindingsMoved revision =>
      cases here
      exact unlocked lawful.unlocked
    | revising | awaitingVersions | versionsLocked | versionInserted => cases taken
    | _ => cases here
  · exact ⟨draft, Lifecycle.commitPhase_draft_kept taken member locked, rfl, status⟩

theorem discarded_step (drafted : s.Drafted) {label : LifecycleLabel} (taken : s.step label = some s')
    {draftId : PolicyDraftId} (discarded : s.Discarded draftId) : s'.Discarded draftId := by
  cases label with
  | start callId request =>
    obtain ⟨phase, calls, -, -, rfl⟩ := Lifecycle.step_start taken
    exact discarded
  | proceed callId bindingIds now =>
    obtain ⟨call, phase, -, -, rfl⟩ := Lifecycle.step_proceed taken
    exact discarded
  | commit callId =>
    obtain ⟨call, committed, found, written, rfl⟩ := Lifecycle.step_commit taken
    exact discarded_commit (drafted.at found) (drafted.locked.holds found) written discarded
  | rollback callId =>
    obtain rfl := Option.some.inj taken
    exact discarded

theorem Lifecycle.Drafted.not_discarded (drafted : s.Drafted) {draftId : PolicyDraftId} (discarded : s.Discarded draftId)
    {row : PolicyVersionRow} (member : row ∈ s.store.policyVersions) : s.draftIds row.key ≠ some draftId := by
  obtain ⟨draft, here, same, status⟩ := discarded
  intro owner
  obtain ⟨other, there, same', activated, -, -⟩ := drafted.activated row member draftId owner
  obtain rfl := Table.eq_of_key here there (same.trans same'.symm)
  rw [status] at activated
  cases activated

theorem Lifecycle.Drafted.single (drafted : s.Drafted) {row other : PolicyVersionRow} {draftId : PolicyDraftId}
    (member : row ∈ s.store.policyVersions) (member' : other ∈ s.store.policyVersions)
    (owner : s.draftIds row.key = some draftId) (owner' : s.draftIds other.key = some draftId) : row = other := by
  obtain ⟨draft, here, same, -, policy, version⟩ := drafted.activated row member draftId owner
  obtain ⟨draft', there, same', -, policy', version'⟩ := drafted.activated other member' draftId owner'
  obtain rfl := Table.eq_of_key here there (same.trans same'.symm)
  have samePolicy : row.policy_id = other.policy_id := Option.some.inj (policy.symm.trans policy')
  have sameVersion : row.version = other.version := Option.some.inj (version.symm.trans version')
  exact Table.eq_of_key member member' (Prod.ext samePolicy sameVersion)

theorem new_version_step {row : PolicyVersionRow} (locked : s.Locked) {label : LifecycleLabel}
    (taken : s.step label = some s') (member : row ∈ s'.store.policyVersions)
    (new : s.store.policyVersions.find? row.key = none) : ∃ callId call committed draftId,
      s.calls.find? callId = some call ∧ s.commitPhase call.phase = some committed ∧
        call.phase.newVersion? = some (row, draftId) ∧ s'.draftIds row.key = some draftId := by
  have old (here : row ∈ s.store.policyVersions) : False := by
    rw [Table.find?_of_mem here] at new
    cases new
  cases label with
  | start callId request =>
    obtain ⟨phase, calls, -, -, rfl⟩ := Lifecycle.step_start taken
    exact (old member).elim
  | proceed callId bindingIds now =>
    obtain ⟨call, phase, -, -, rfl⟩ := Lifecycle.step_proceed taken
    exact (old member).elim
  | commit callId =>
    obtain ⟨call, committed, found, written, rfl⟩ := Lifecycle.step_commit taken
    obtain ⟨versions, wrote⟩ := Lifecycle.commitPhase_versions locked (locked.holds found) written
    rcases wrote.source member with ⟨before, there, keyed, -⟩ | ⟨draftId, added⟩
    · rw [keyed, Table.find?_of_mem there] at new
      cases new
    · refine ⟨callId, call, committed, draftId, found, written, added, ?_⟩
      show committed.draftIds row.key = some draftId
      rw [(wrote.added _ _ added).2, Lifecycle.setDraftId, Function.update_self]
  | rollback callId =>
    obtain rfl := Option.some.inj taken
    exact (old member).elim

theorem Lifecycle.Drafted.next (drafted : s.Drafted) {label : LifecycleLabel} (taken : s.step label = some s')
    {row : PolicyVersionRow} (member : row ∈ s'.store.policyVersions)
    (new : s.store.policyVersions.find? row.key = none) {draft : PolicyDraftRow} (here : draft ∈ s.policyDrafts)
    (owner : s'.draftIds row.key = some draft.id) {policyId : PolicyId} (revises : draft.revision_policy_id = some policyId) :
    row.policy_id = policyId ∧ NextVersion s row := by
  obtain ⟨callId, call, committed, draftId, found, written, added, owner'⟩ :=
    new_version_step drafted.locked taken member new
  obtain rfl := Option.some.inj (owner.symm.trans owner')
  have lawful := drafted.at found
  have holds := drafted.locked.holds found
  cases phase : call.phase with
  | editing edit held =>
    rw [phase] at added lawful holds
    cases edit with
    | activate version now =>
      obtain ⟨rfl, same⟩ := Prod.mk.inj (Option.some.inj added)
      obtain rfl := Table.eq_of_key (holds.drafts held rfl) here same
      rw [lawful.2] at revises
      cases revises
    | _ => cases added
  | bindingsMoved revision now removed inserted =>
    rw [phase] at added lawful holds
    obtain ⟨rfl, same⟩ := Prod.mk.inj (Option.some.inj added)
    obtain rfl := Table.eq_of_key (holds.drafts revision.draft rfl) here same
    obtain rfl := Option.some.inj (lawful.revises.symm.trans revises)
    refine ⟨rfl, lawful.last holds.versions, fun old there samePolicy => ?_⟩
    by_contra later
    -- No gap: a later version would leave no room for the new one's key.
    obtain ⟨other, exists_, keyed⟩ := drafted.gapless old there revision.nextVersion (Nat.succ_pos _) (by
      exact Nat.le_of_not_lt later)
    have taken_ : s.store.policyVersions.find? revision.nextKey = some other := by
      refine Table.find?_eq_some.mpr ⟨exists_, keyed.trans (Prod.ext samePolicy rfl)⟩
    exact absurd (new.symm.trans taken_) (by rintro ⟨⟩)
  | _ =>
    rw [phase] at added
    cases added

end Step

structure Lifecycle.Fresh (s : Lifecycle) : Prop where
  drafts : s.policyDrafts = .empty
  versions : s.store.policyVersions = .empty
  calls : s.calls = .empty

theorem Lifecycle.Fresh.drafted {s : Lifecycle} (fresh : s.Fresh) : s.Drafted := by
  obtain ⟨-, versions, calls⟩ := fresh
  have noCall (call : PolicyCall) : call ∉ s.calls := by
    rw [calls]
    exact Table.not_mem_empty call
  have noVersion (row : PolicyVersionRow) : row ∉ s.store.policyVersions := by
    rw [versions]
    exact Table.not_mem_empty row
  refine ⟨⟨?_, ?_, ?_, ?_, ?_⟩, ?_, ?_, ?_⟩
  · exact fun call member => absurd member (noCall call)
  · exact fun call member => absurd member (noCall call)
  · exact fun call member => absurd member (noCall call)
  · exact fun call member => absurd member (noCall call)
  · exact fun row member => absurd member (noVersion row)
  · exact fun call member => absurd member (noCall call)
  · exact fun row member => absurd member (noVersion row)
  · exact fun row member => absurd member (noVersion row)

theorem drafted_of_run {s₀ s : Lifecycle} {events : List (Lifecycle × LifecycleLabel)} (drafted : s₀.Drafted)
    (run : Run Lifecycle.step s₀ events s) (conforms : Conforms ActivatesOpen events) : s.Drafted :=
  run.invariant _ conforms drafted fun _ _ _ drafted opens taken => drafted.step opens taken

theorem discarded_of_run {s₀ s : Lifecycle} {events : List (Lifecycle × LifecycleLabel)} {draftId : PolicyDraftId}
    (drafted : s₀.Drafted) (discarded : s₀.Discarded draftId) (run : Run Lifecycle.step s₀ events s)
    (conforms : Conforms ActivatesOpen events) : s.Discarded draftId :=
  (run.invariant (fun s => s.Drafted ∧ s.Discarded draftId) conforms ⟨drafted, discarded⟩
    fun _ _ _ both opens taken => ⟨both.1.step opens taken, discarded_step both.1 taken both.2⟩).2

theorem drafts_lawful {s₀ s : Lifecycle} {events : List (Lifecycle × LifecycleLabel)} (fresh : s₀.Fresh)
    (run : Run Lifecycle.step s₀ events s) (conforms : Conforms ActivatesOpen events) : DraftsLawful events s where
  single row member other member' draftId owner owner' :=
    (drafted_of_run fresh.drafted run conforms).single member member' owner owner'
  discarded := by
    have last := drafted_of_run fresh.drafted run conforms
    intro s' passed draft here status row member
    rcases List.mem_append.mp passed with before | now
    · obtain ⟨e, event, rfl⟩ := List.mem_map.mp before
      obtain ⟨earlier, later, next, rfl, first, taken, rest⟩ := run.of_mem event
      rw [conforms_append] at conforms
      have opens : ActivatesOpen e.1 e.2 := conforms.2 e List.mem_cons_self
      have drafted := drafted_of_run fresh.drafted first conforms.1
      have discarded := discarded_step drafted taken ⟨draft, here, rfl, status⟩
      have after : Conforms ActivatesOpen later := fun e' member => conforms.2 e' (List.mem_cons_of_mem _ member)
      exact last.not_discarded (discarded_of_run (drafted.step opens taken) discarded rest after) member
    · obtain rfl := List.mem_singleton.mp now
      exact last.not_discarded ⟨draft, here, rfl, status⟩ member
  revised := by
    intro e event s' taken row member new draft here owner policyId revises
    obtain ⟨earlier, later, -, rfl, first, -, -⟩ := run.of_mem event
    have drafted := drafted_of_run fresh.drafted first (conforms_append.mp conforms).1
    exact drafted.next taken member new here owner revises

section Example

def noPolicies : Lifecycle where
  store :=
    { orgs := .singleton ⟨1, "Workspace", .deny⟩, teams := .empty, agents := .empty, connections := .empty
      policyActionRegistry := .empty, policyVersions := .empty, policyBindings := .empty
      placed := by simp, owned := by simp }
  conditionGroups := fun _ => []
  draftIds := fun _ => none
  policyDrafts := .empty
  calls := .empty

theorem fresh_noPolicies : noPolicies.Fresh := ⟨rfl, rfl, rfl⟩

def denyAll : CreatePolicyDraftInput := ⟨"Stop", none, .operational, [{ id := "stop", decision := .deny, actions := ["*"] }]⟩

def alone (request : PolicyRequest) : List LifecycleLabel := [.start 1 request, .commit 1]

/-- A draft is activated twice. A discarded draft is activated. A draft that revises a policy becomes another policy. -/
theorem drafts_unlawful : noPolicies.Fresh ∧
    (∃ events s, Run Lifecycle.step noPolicies events s ∧
      s.draftIds (7, 1) = some 1 ∧ s.draftIds (8, 1) = some 1 ∧
        (s.store.policyVersions.rows.map (·.key)) = [(8, 1), (7, 1)]) ∧
    (∃ events s, Run Lifecycle.step noPolicies events s ∧
      (events.any fun e => (e.1.policyDrafts.find? 1).any (·.status = .discarded)) = true ∧
        s.draftIds (7, 1) = some 1 ∧ (s.store.policyVersions.find? (7, 1)).isSome = true) ∧
    ∃ events s, Run Lifecycle.step noPolicies events s ∧
      (s.policyDrafts.find? 2).bind (·.revision_policy_id) = some 7 ∧
        s.draftIds (8, 1) = some 2 ∧ (s.store.policyVersions.find? (8, 1)).isSome = true := by
  refine ⟨fresh_noPolicies, ?_, ?_, ?_⟩
  · exact exists_run (alone (.createPolicyDraft 1 1 denyAll) ++ alone (.editPolicyDraft (.activate 7 0) 1 1) ++
      alone (.editPolicyDraft (.activate 8 0) 1 1)) _ (by decide)
  · exact exists_run_with (alone (.createPolicyDraft 1 1 denyAll) ++ alone (.editPolicyDraft .discard 1 1) ++
      alone (.editPolicyDraft (.activate 7 0) 1 1)) _ (by decide)
  · exact exists_run (alone (.createPolicyDraft 1 1 denyAll) ++ alone (.editPolicyDraft (.activate 7 0) 1 1) ++
      alone (.createPolicyRevisionDraft 1 7 2 ⟨none, none, none, none⟩) ++
      alone (.editPolicyDraft (.activate 8 0) 1 2)) _ (by decide)

def opensCheck (s : Lifecycle) : LifecycleLabel → Bool
  | .start _ (.editPolicyDraft (.activate ..) orgId draftId) =>
    (s.draft? orgId draftId).all fun draft => !draft.lockedDraft && draft.revision_policy_id = none
  | _ => true

theorem opensCheck_opens (s : Lifecycle) (label : LifecycleLabel) (checked : opensCheck s label = true) :
    ActivatesOpen s label := by
  unfold ActivatesOpen
  split
  · intro draft found
    simpa [opensCheck, found] using checked
  · trivial

/-- The statements of `activatePolicyRevisionDraft` with nothing in between -/
def activateRevision (draftId : PolicyDraftId) (bindingIds : List PolicyBindingId) : List LifecycleLabel :=
  [.start 1 (.activatePolicyRevisionDraft 1 draftId), .proceed 1 [] 0, .proceed 1 [] 0, .proceed 1 [] 0,
    .proceed 1 bindingIds 0, .commit 1]

theorem drafts_lawful_revision : ∃ events s, DraftsLawful events s ∧ s.draftIds (7, 1) = some 1 ∧
    s.draftIds (7, 2) = some 2 := by
  obtain ⟨events, s, run, conforms, first, second⟩ : ∃ events s, Run Lifecycle.step noPolicies events s ∧
      Conforms ActivatesOpen events ∧ s.draftIds (7, 1) = some 1 ∧ s.draftIds (7, 2) = some 2 :=
    exists_conforming_run (alone (.createPolicyDraft 1 1 denyAll) ++ alone (.editPolicyDraft (.activate 7 0) 1 1) ++
      alone (.createPolicyRevisionDraft 1 7 2 ⟨none, none, none, none⟩) ++ activateRevision 2 [])
      opensCheck _ opensCheck_opens (by decide)
  exact ⟨events, s, drafts_lawful fresh_noPolicies run conforms, first, second⟩

end Example

end AgentOps.Policy
