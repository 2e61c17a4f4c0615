import AgentOps.Policy.Lifecycle

namespace AgentOps.Policy
open Lib Identity

/-! # What the locks of a transaction keep in place -/

structure PolicyPhase.Compatible (phase other : PolicyPhase) : Prop where
  locked : ∀ key ∈ phase.lockedVersions, key ∉ other.lockedVersions
  shared : ∀ key ∈ phase.lockedVersions, key ∉ other.sharedVersions
  sharing : ∀ key ∈ phase.sharedVersions, key ∉ other.lockedVersions
  draft : ∀ draftId, phase.lockedDraft? = some draftId → other.lockedDraft? ≠ some draftId

theorem PolicyPhase.Compatible.symm {phase other : PolicyPhase} (compatible : phase.Compatible other) :
    other.Compatible phase where
  locked key held here := compatible.locked key here held
  shared key held here := compatible.sharing key here held
  sharing key held here := compatible.shared key here held
  draft draftId held here := compatible.draft draftId here held

structure Deactivates (locked : List VersionKey) (row row' : PolicyVersionRow) : Prop where
  same : row' = { row with status := row'.status }
  active : row'.status = .active → row' = row
  apart : row.key ∉ locked → row' = row

theorem Deactivates.refl (locked : List VersionKey) (row : PolicyVersionRow) : Deactivates locked row row :=
  ⟨rfl, fun _ => rfl, fun _ => rfl⟩

namespace PolicyPhase

def newVersion? : PolicyPhase → Option (PolicyVersionRow × PolicyDraftId)
  | .editing (.activate policyId now) draft => some (draft.versionRow (policyId, 1) now, draft.id)
  | .bindingsMoved revision now _ _ => some (revision.draft.versionRow revision.nextKey now, revision.draft.id)
  | _ => none

def archived? : PolicyPhase → Option PolicyVersionRow
  | .archiving version | .bindingsArchived version _ => some version
  | _ => none

end PolicyPhase

namespace Lifecycle

def Exclusive (s : Lifecycle) : Prop :=
  ∀ call ∈ s.calls, ∀ other ∈ s.calls, call.id ≠ other.id → call.phase.Compatible other.phase

structure Locked (s : Lifecycle) : Prop where
  exclusive : s.Exclusive
  drafts : ∀ call ∈ s.calls, ∀ draft, call.phase.heldDraft? = some draft → draft ∈ s.policyDrafts
  versions : ∀ call ∈ s.calls, ∀ version ∈ call.phase.heldVersions, version ∈ s.store.policyVersions
  archived : ∀ call ∈ s.calls, ∀ version, call.phase.archived? = some version → version.status = .active
  oneActive : ∀ row ∈ s.store.policyVersions, ∀ other ∈ s.store.policyVersions, row.org_id = other.org_id →
    row.policy_id = other.policy_id → row.status = .active → other.status = .active → row = other

section Step

variable {s s' committed : Lifecycle} {callId : Nat} {phase phase' : PolicyPhase}

theorem versionFree_iff {key : VersionKey} : s.versionFree callId key = true ↔ ∀ call ∈ s.calls, call.id ≠ callId →
    key ∉ call.phase.lockedVersions ∧ key ∉ call.phase.sharedVersions := by
  simp [versionFree, Table.mem_def, or_iff_not_imp_left]

theorem versionShareable_iff {key : VersionKey} : s.versionShareable callId key = true ↔
    ∀ call ∈ s.calls, call.id ≠ callId → key ∉ call.phase.lockedVersions := by
  simp [versionShareable, Table.mem_def, or_iff_not_imp_left]

theorem draftFree_iff {draftId : PolicyDraftId} : s.draftFree draftId = true ↔
    ∀ call ∈ s.calls, call.phase.lockedDraft? ≠ some draftId := by
  simp [draftFree, Table.mem_def]

theorem latest?_some {orgId : OrgId} {policyId : PolicyId} {status : PolicyVersionStatus} {row : PolicyVersionRow}
    (found : s.latest? orgId policyId status = some row) :
    row ∈ s.store.policyVersions ∧ row.org_id = orgId ∧ row.policy_id = policyId ∧ row.status = status := by
  have listed := List.mem_of_head? found
  simp only [mem_orderBy, List.mem_filter, versionsOf, decide_eq_true_eq] at listed
  obtain ⟨⟨member, owned, same⟩, status⟩ := listed
  exact ⟨member, owned, same, status⟩

theorem draft?_some {orgId : OrgId} {draftId : PolicyDraftId} {draft : PolicyDraftRow}
    (found : s.draft? orgId draftId = some draft) : draft ∈ s.policyDrafts ∧ draft.id = draftId ∧ draft.org_id = orgId := by
  obtain ⟨located, owned⟩ := Option.filter_eq_some_iff.mp found
  exact ⟨Table.mem_of_find? located, Table.key_of_find? located, by simpa using owned⟩

structure Holds (s : Lifecycle) (callId : Nat) (phase : PolicyPhase) : Prop where
  versions : ∀ version ∈ phase.heldVersions, version ∈ s.store.policyVersions
  drafts : ∀ draft, phase.heldDraft? = some draft → draft ∈ s.policyDrafts
  archived : ∀ version, phase.archived? = some version → version.status = .active
  compatible : ∀ call ∈ s.calls, call.id ≠ callId → phase.Compatible call.phase

theorem Holds.nothing (versions : phase.heldVersions = []) (shared : phase.sharedVersions = [])
    (draft : phase.heldDraft? = none) (archived : phase.archived? = none) : s.Holds callId phase := by
  refine ⟨?_, ?_, ?_, fun call _ _ => ⟨?_, ?_, ?_, ?_⟩⟩
  · simp [versions]
  · simp [draft]
  · simp [archived]
  · simp [PolicyPhase.lockedVersions, versions]
  · simp [PolicyPhase.lockedVersions, versions]
  · simp [shared]
  · simp [PolicyPhase.lockedDraft?, draft]

theorem Holds.ofDraft {draft : PolicyDraftRow} (member : draft ∈ s.policyDrafts) (free : s.draftFree draft.id = true)
    (versions : phase.heldVersions = []) (shared : phase.sharedVersions = []) (held : phase.heldDraft? = some draft)
    (archived : phase.archived? = none) : s.Holds callId phase := by
  refine ⟨?_, ?_, ?_, fun call here _ => ⟨?_, ?_, ?_, ?_⟩⟩
  · simp [versions]
  · rw [held]
    rintro _ ⟨⟩
    exact member
  · simp [archived]
  · simp [PolicyPhase.lockedVersions, versions]
  · simp [PolicyPhase.lockedVersions, versions]
  · simp [shared]
  · rw [PolicyPhase.lockedDraft?, held]
    rintro _ ⟨⟩
    exact draftFree_iff.mp free call here

theorem Holds.ofVersion {version : PolicyVersionRow} (member : version ∈ s.store.policyVersions)
    (free : s.versionFree callId version.key = true) (held : phase.heldVersions = [version])
    (shared : phase.sharedVersions = []) (draft : phase.heldDraft? = none)
    (archived : ∀ row, phase.archived? = some row → row.status = .active) : s.Holds callId phase := by
  refine ⟨?_, ?_, archived, fun call here apart => ⟨?_, ?_, ?_, ?_⟩⟩
  · rw [held]
    rintro _ (_ | ⟨_, ⟨⟩⟩)
    exact member
  · simp [draft]
  · rw [PolicyPhase.lockedVersions, held]
    rintro _ (_ | ⟨_, ⟨⟩⟩)
    exact (versionFree_iff.mp free call here apart).1
  · rw [PolicyPhase.lockedVersions, held]
    rintro _ (_ | ⟨_, ⟨⟩⟩)
    exact (versionFree_iff.mp free call here apart).2
  · simp [shared]
  · simp [PolicyPhase.lockedDraft?, draft]

theorem start?_holds {request : PolicyRequest} (started : s.start? callId request = some phase) :
    s.Holds callId phase := by
  cases request with
  | createPolicyDraft =>
    obtain rfl := Option.some.inj started
    exact .nothing rfl rfl rfl rfl
  | createPolicyRevisionDraft =>
    obtain ⟨base, draft, found, free, rfl⟩ := start?_createRevision started
    exact .ofVersion (latest?_some found).1 free rfl rfl rfl (by rintro _ ⟨⟩)
  | createPolicyRestoreDraft =>
    simp only [start?] at started
    split at started
    · cases started
    · obtain rfl := Option.some.inj started
      exact .nothing rfl rfl rfl rfl
  | editPolicyDraft =>
    obtain ⟨draft, found, free, -, rfl⟩ := start?_edit started
    obtain ⟨member, rfl, -⟩ := draft?_some found
    exact .ofDraft member free rfl rfl rfl rfl
  | activatePolicyRevisionDraft =>
    obtain ⟨draft, found, free, -, rfl⟩ := start?_revise started
    obtain ⟨member, rfl, -⟩ := draft?_some found
    exact .ofDraft member free rfl rfl rfl rfl
  | bindPolicy =>
    obtain ⟨version, -, -, rfl⟩ := start?_bind started
    exact .nothing rfl rfl rfl rfl
  | removePolicyBinding =>
    obtain ⟨binding, -, rfl⟩ := start?_remove started
    exact .nothing rfl rfl rfl rfl
  | archivePolicy =>
    obtain ⟨version, found, free, rfl⟩ := start?_archive started
    obtain ⟨member, -, -, active⟩ := latest?_some found
    refine .ofVersion member free rfl rfl rfl ?_
    rintro _ ⟨⟩
    exact active

theorem Locked.holds (locked : s.Locked) {call : PolicyCall} (found : s.calls.find? callId = some call) :
    s.Holds callId call.phase where
  versions := locked.versions call (Table.mem_of_find? found)
  drafts := locked.drafts call (Table.mem_of_find? found)
  archived := locked.archived call (Table.mem_of_find? found)
  compatible other member apart := by
    refine locked.exclusive call (Table.mem_of_find? found) other member ?_
    rw [Table.key_of_find? found]
    exact Ne.symm apart

theorem Holds.same (holds : s.Holds callId phase) (versions : phase'.heldVersions = phase.heldVersions)
    (shared : phase'.sharedVersions = phase.sharedVersions) (draft : phase'.heldDraft? = phase.heldDraft?)
    (archived : phase'.archived? = phase.archived?) : s.Holds callId phase' := by
  refine ⟨by rw [versions]; exact holds.versions, by rw [draft]; exact holds.drafts,
    by rw [archived]; exact holds.archived, fun call member apart => ?_⟩
  obtain ⟨locked, share, sharing, drafts⟩ := holds.compatible call member apart
  rw [PolicyPhase.lockedVersions, ← versions] at locked share
  rw [← shared] at sharing
  rw [PolicyPhase.lockedDraft?, ← draft] at drafts
  exact ⟨locked, share, sharing, drafts⟩

theorem Holds.lockVersions {draft : PolicyDraftRow} {visible : List VersionKey} {revision : Revision}
    (holds : s.Holds callId (.awaitingVersions draft visible)) (free : visible.all (s.versionFree callId) = true)
    (checked : s.checkVersions draft (visible.filterMap s.store.policyVersions.find?) = .ok revision) :
    s.Holds callId (.versionsLocked revision) := by
  obtain ⟨-, -, -, rfl, versions, -, -⟩ := checkVersions_ok checked
  have found (row : PolicyVersionRow) (member : row ∈ revision.versions) :
      row ∈ s.store.policyVersions ∧ row.key ∈ visible := by
    rw [versions] at member
    obtain ⟨key, seen, located⟩ := List.mem_filterMap.mp member
    obtain rfl := Table.key_of_find? located
    exact ⟨Table.mem_of_find? located, seen⟩
  have unlocked (key : VersionKey) (member : key ∈ PolicyPhase.lockedVersions (.versionsLocked revision)) :
      s.versionFree callId key = true := by
    obtain ⟨row, here, rfl⟩ := List.mem_map.mp member
    exact List.all_eq_true.mp free row.key (found row here).2
  refine ⟨fun row member => (found row member).1, holds.drafts, by rintro _ ⟨⟩, fun call member apart => ⟨?_, ?_, ?_, ?_⟩⟩
  · exact fun key here => (versionFree_iff.mp (unlocked key here) call member apart).1
  · exact fun key here => (versionFree_iff.mp (unlocked key here) call member apart).2
  · rintro _ ⟨⟩
  · exact (holds.compatible call member apart).draft

theorem Holds.share {binding : PolicyBindingRow}
    (free : s.versionShareable callId binding.versionKey = true) : s.Holds callId (.bound binding) := by
  refine ⟨by rintro _ ⟨⟩, by rintro _ ⟨⟩, by rintro _ ⟨⟩, fun call member apart => ⟨?_, ?_, ?_, ?_⟩⟩
  · rintro _ ⟨⟩
  · rintro _ ⟨⟩
  · rintro _ (_ | ⟨_, ⟨⟩⟩)
    exact versionShareable_iff.mp free call member apart
  · rintro _ ⟨⟩

theorem next?_holds {bindingIds : List PolicyBindingId} {now : Time} (holds : s.Holds callId phase)
    (proceeded : s.next? callId bindingIds now phase = some phase') : s.Holds callId phase' := by
  cases phase with
  | restoring =>
    obtain ⟨base, draft, found, free, rfl⟩ := next?_restoring proceeded
    exact .ofVersion (latest?_some found).1 free rfl rfl rfl (by rintro _ ⟨⟩)
  | revising =>
    obtain ⟨policyId, baseVersion, mode, -, rfl⟩ := next?_revising proceeded
    exact holds.same rfl rfl rfl rfl
  | awaitingVersions =>
    obtain ⟨revision, free, checked, rfl⟩ := next?_awaiting proceeded
    exact holds.lockVersions free checked
  | versionsLocked =>
    obtain rfl := next?_versionsLocked proceeded
    exact holds.same rfl rfl rfl rfl
  | versionInserted =>
    obtain ⟨targets, -, rfl⟩ := next?_versionInserted proceeded
    exact holds.same rfl rfl rfl rfl
  | bindingChecked =>
    obtain ⟨bindingId, free, rfl⟩ := next?_bindingChecked proceeded
    exact .share free
  | archiving =>
    obtain rfl := next?_archiving proceeded
    exact holds.same rfl rfl rfl rfl
  | _ => cases proceeded

theorem Locked.take (locked : s.Locked) (holds : s.Holds callId phase) {calls : Table PolicyCall.id}
    (members : ∀ call ∈ calls, call = ⟨callId, phase⟩ ∨ call ∈ s.calls ∧ call.id ≠ callId) :
    { s with calls := calls }.Locked := by
  refine ⟨?_, ?_, ?_, ?_, locked.oneActive⟩
  · intro call member other member' apart
    rcases members call member with rfl | ⟨before, -⟩
    · rcases members other member' with rfl | ⟨before, other⟩
      · exact absurd rfl apart
      · exact holds.compatible _ before other
    · rcases members other member' with rfl | ⟨before', -⟩
      · exact (holds.compatible _ before apart).symm
      · exact locked.exclusive call before other before' apart
  · intro call member
    rcases members call member with rfl | ⟨before, -⟩
    · exact holds.drafts
    · exact locked.drafts call before
  · intro call member
    rcases members call member with rfl | ⟨before, -⟩
    · exact holds.versions
    · exact locked.versions call before
  · intro call member
    rcases members call member with rfl | ⟨before, -⟩
    · exact holds.archived
    · exact locked.archived call before

theorem insertVersion?_some {versions versions' : Table PolicyVersionRow.key} {row : PolicyVersionRow}
    (inserted : insertVersion? versions row = some versions') :
    (∀ other ∈ versions, activeOf row.org_id row.policy_id other = false) ∧ versions.insert? row = some versions' := by
  unfold insertVersion? at inserted
  split at inserted
  · cases inserted
  · rename_i unique
    exact ⟨by simpa [Table.mem_def] using unique, inserted⟩

theorem replaced_some {revision : Revision} {row : PolicyVersionRow} (replaced : revision.replaced = some row) :
    revision.mode = .revision ∧ row ∈ revision.versions ∧ row.status = .active := by
  unfold Revision.replaced at replaced
  split at replaced
  · refine ⟨‹_›, List.mem_of_find?_eq_some replaced, ?_⟩
    simpa using List.find?_some replaced
  · cases replaced

theorem revised_supersede {revision : Revision} {versions : Table PolicyVersionRow.key} {keys : List VersionKey}
    (held : ∀ row ∈ revision.versions, row ∈ versions ∧ row.key ∈ keys) :
    Table.Revised (Deactivates keys) versions (revision.supersede versions) := by
  unfold Revision.supersede
  split
  · exact .refl (Deactivates.refl keys) versions
  · rename_i row replaced
    obtain ⟨member, here⟩ := held row (replaced_some replaced).2.1
    have located : versions.find? row.key = some row := Table.find?_of_mem member
    exact Table.revised_put (Deactivates.refl keys) located ⟨rfl, by rintro ⟨⟩, fun apart => absurd here apart⟩

theorem revised_archive (locked : s.Locked) {version : PolicyVersionRow} {keys : List VersionKey}
    (member : version ∈ s.store.policyVersions) (active : version.status = .active) (here : version.key ∈ keys) :
    Table.Revised (Deactivates keys) s.store.policyVersions
      (archiveVersions s.store.policyVersions version.org_id version.policy_id) := by
  refine Table.revised_rewrite _ fun row present => ?_
  split
  · rename_i found
    simp only [activeOf, Bool.and_eq_true, decide_eq_true_eq] at found
    obtain ⟨⟨owned, same⟩, status⟩ := found
    obtain rfl := locked.oneActive row present version member owned same status active
    exact ⟨rfl, by rintro ⟨⟩, fun apart => absurd here apart⟩
  · exact .refl keys row

structure VersionsCommitted (s committed : Lifecycle) (phase : PolicyPhase) (versions : Table PolicyVersionRow.key) :
    Prop where
  revised : Table.Revised (Deactivates phase.lockedVersions) s.store.policyVersions versions
  kept : phase.newVersion? = none → committed.store.policyVersions = versions ∧ committed.draftIds = s.draftIds
  added : ∀ row draftId, phase.newVersion? = some (row, draftId) →
    insertVersion? versions row = some committed.store.policyVersions ∧
      committed.draftIds = s.setDraftId row.key draftId

theorem VersionsCommitted.unchanged (versions : committed.store.policyVersions = s.store.policyVersions)
    (draftIds : committed.draftIds = s.draftIds) (new : phase.newVersion? = none) :
    VersionsCommitted s committed phase s.store.policyVersions where
  revised := .refl (Deactivates.refl _) _
  kept _ := ⟨versions, draftIds⟩
  added row draftId here := by
    rw [new] at here
    cases here

theorem commitEdit_some {edit : DraftEdit} {draft : PolicyDraftRow} (taken : s.commitEdit edit draft = some committed) :
    committed.policyDrafts = s.policyDrafts.put (edit.apply draft (s.validateStatements draft.statements)) ∧
      committed.store.policyBindings = s.store.policyBindings ∧
      ∃ versions, VersionsCommitted s committed (.editing edit draft) versions := by
  cases edit with
  | activate policyId now =>
    simp only [commitEdit, Option.bind_eq_bind, Option.bind_eq_some_iff, Option.some.injEq] at taken
    obtain ⟨versions, inserted, rfl⟩ := taken
    refine ⟨rfl, rfl, s.store.policyVersions, .refl (Deactivates.refl _) _, by rintro ⟨⟩, ?_⟩
    rintro _ _ ⟨⟩
    exact ⟨inserted, rfl⟩
  | _ =>
    obtain rfl := Option.some.inj taken
    exact ⟨rfl, rfl, _, .unchanged rfl rfl rfl⟩

theorem commitRevision_some {revision : Revision} {now : Time} {removed inserted : List PolicyBindingRow}
    (taken : s.commitRevision revision now removed inserted = some committed) :
    insertVersion? (revision.supersede s.store.policyVersions) (revision.draft.versionRow revision.nextKey now) =
        some committed.store.policyVersions ∧
      (markRemoved s.store.policyBindings removed).insertAll? inserted = some committed.store.policyBindings ∧
      committed.draftIds = s.setDraftId revision.nextKey revision.draft.id ∧
      committed.policyDrafts =
        s.policyDrafts.put (revision.draft.activate revision.validation revision.nextKey) := by
  simp only [commitRevision, Option.bind_eq_bind, Option.bind_eq_some_iff, Option.some.injEq] at taken
  obtain ⟨versions, version, bindings, moved, rfl⟩ := taken
  exact ⟨version, moved, rfl, rfl⟩

theorem commitPhase_versions (locked : s.Locked) (holds : s.Holds callId phase)
    (taken : s.commitPhase phase = some committed) : ∃ versions, VersionsCommitted s committed phase versions := by
  cases phase with
  | creating | creatingFrom =>
    obtain ⟨drafts, -, rfl⟩ := commitPhase_creating taken
    exact ⟨_, .unchanged rfl rfl rfl⟩
  | editing edit draft => exact (commitEdit_some taken).2.2
  | bindingsMoved revision now removed inserted =>
    obtain ⟨version, -, draftIds, -⟩ := commitRevision_some taken
    refine ⟨_, revised_supersede fun row member => ⟨holds.versions row member, List.mem_map_of_mem member⟩,
      by rintro ⟨⟩, ?_⟩
    rintro _ _ ⟨⟩
    exact ⟨version, draftIds⟩
  | bound binding =>
    obtain ⟨bindings, -, rfl⟩ := commitPhase_bound taken
    exact ⟨_, .unchanged rfl rfl rfl⟩
  | removing binding =>
    obtain rfl := Option.some.inj taken
    exact ⟨_, .unchanged rfl rfl rfl⟩
  | bindingsArchived version removed =>
    obtain rfl := Option.some.inj taken
    have active := holds.archived version rfl
    refine ⟨_, revised_archive locked (holds.versions version List.mem_cons_self) active List.mem_cons_self,
      fun _ => ⟨rfl, rfl⟩, by rintro _ _ ⟨⟩⟩
  | _ => cases taken

theorem commitPhase_drafts (taken : s.commitPhase phase = some committed) :
    committed.policyDrafts = s.policyDrafts ∨
      (∃ draft, phase.heldDraft? = none ∧ s.policyDrafts.insert? draft = some committed.policyDrafts) ∨
      ∃ draft draft', phase.heldDraft? = some draft ∧ draft'.id = draft.id ∧
        committed.policyDrafts = s.policyDrafts.put draft' := by
  cases phase with
  | creating | creatingFrom =>
    obtain ⟨drafts, inserted, rfl⟩ := commitPhase_creating taken
    exact .inr (.inl ⟨_, rfl, inserted⟩)
  | editing edit draft =>
    refine .inr (.inr ⟨draft, _, rfl, ?_, (commitEdit_some taken).1⟩)
    cases edit <;> rfl
  | bindingsMoved revision now removed inserted =>
    obtain ⟨-, -, -, drafts⟩ := commitRevision_some taken
    exact .inr (.inr ⟨revision.draft, revision.draft.activate revision.validation revision.nextKey, rfl, rfl, drafts⟩)
  | bound binding =>
    obtain ⟨bindings, -, rfl⟩ := commitPhase_bound taken
    exact .inl rfl
  | removing | bindingsArchived =>
    obtain rfl := Option.some.inj taken
    exact .inl rfl
  | _ => cases taken

theorem commitPhase_draft_kept (taken : s.commitPhase phase = some committed) {draft : PolicyDraftRow}
    (member : draft ∈ s.policyDrafts) (apart : phase.lockedDraft? ≠ some draft.id) : draft ∈ committed.policyDrafts := by
  rcases commitPhase_drafts taken with same | ⟨new, -, inserted⟩ | ⟨held, edited, here, keyed, written⟩
  · rwa [same]
  · exact (Table.mem_insert? inserted).mpr (.inr member)
  · rw [written]
    refine Table.mem_put.mpr (.inl ⟨member, fun same => apart ?_⟩)
    rw [PolicyPhase.lockedDraft?, here, Option.map_some, same, keyed]

theorem VersionsCommitted.grows {versions : Table PolicyVersionRow.key}
    (committedVersions : VersionsCommitted s committed phase versions) :
    Table.Grows (Deactivates phase.lockedVersions) s.store.policyVersions committed.store.policyVersions := by
  intro key row found
  obtain ⟨row', found', change⟩ := committedVersions.revised.grows key row found
  refine ⟨row', ?_, change⟩
  cases new : phase.newVersion? with
  | none =>
    rw [(committedVersions.kept new).1]
    exact found'
  | some added =>
    obtain ⟨-, inserted⟩ := insertVersion?_some (committedVersions.added _ _ new).1
    exact Table.find?_insert?_of_find? inserted found'

theorem VersionsCommitted.version_kept {versions : Table PolicyVersionRow.key}
    (committedVersions : VersionsCommitted s committed phase versions) {row : PolicyVersionRow}
    (member : row ∈ s.store.policyVersions) (apart : row.key ∉ phase.lockedVersions) :
    row ∈ committed.store.policyVersions := by
  obtain ⟨row', found, change⟩ := committedVersions.grows _ _ (Table.find?_of_mem member)
  obtain rfl := change.apart apart
  exact Table.mem_of_find? found

theorem VersionsCommitted.source {versions : Table PolicyVersionRow.key}
    (committedVersions : VersionsCommitted s committed phase versions) {row' : PolicyVersionRow}
    (member : row' ∈ committed.store.policyVersions) :
    (∃ row ∈ s.store.policyVersions, row'.key = row.key ∧ Deactivates phase.lockedVersions row row') ∨
      ∃ draftId, phase.newVersion? = some (row', draftId) := by
  have before (old : row' ∈ versions) :
      ∃ row ∈ s.store.policyVersions, row'.key = row.key ∧ Deactivates phase.lockedVersions row row' := by
    obtain ⟨row, found, change⟩ := committedVersions.revised.source (Table.find?_of_mem old)
    exact ⟨row, Table.mem_of_find? found, (Table.key_of_find? found).symm, change⟩
  cases new : phase.newVersion? with
  | none =>
    rw [(committedVersions.kept new).1] at member
    exact .inl (before member)
  | some added =>
    obtain ⟨-, inserted⟩ := insertVersion?_some (committedVersions.added _ _ new).1
    rcases (Table.mem_insert? inserted).mp member with rfl | old
    · exact .inr ⟨added.2, rfl⟩
    · exact .inl (before old)

theorem VersionsCommitted.fresh {versions : Table PolicyVersionRow.key}
    (committedVersions : VersionsCommitted s committed phase versions) {row : PolicyVersionRow} {draftId : PolicyDraftId}
    (new : phase.newVersion? = some (row, draftId)) :
    s.store.policyVersions.find? row.key = none ∧ row ∈ committed.store.policyVersions := by
  obtain ⟨-, inserted⟩ := insertVersion?_some (committedVersions.added _ _ new).1
  refine ⟨?_, (Table.mem_insert? inserted).mpr (.inl rfl)⟩
  cases found : s.store.policyVersions.find? row.key with
  | none => rfl
  | some old =>
    obtain ⟨row', found', -⟩ := committedVersions.revised.grows _ _ found
    rw [(Table.insert?_eq_some inserted).2] at found'
    cases found'

theorem VersionsCommitted.oneActive {versions : Table PolicyVersionRow.key} (locked : s.Locked)
    (committedVersions : VersionsCommitted s committed phase versions) :
    ∀ row ∈ committed.store.policyVersions, ∀ other ∈ committed.store.policyVersions, row.org_id = other.org_id →
      row.policy_id = other.policy_id → row.status = .active → other.status = .active → row = other := by
  have before (row : PolicyVersionRow) (member : row ∈ versions) (active : row.status = .active) :
      row ∈ s.store.policyVersions := by
    obtain ⟨old, found, change⟩ := committedVersions.revised.source (Table.find?_of_mem member)
    obtain rfl := change.active active
    exact Table.mem_of_find? found
  have among (row : PolicyVersionRow) (member : row ∈ versions) (other : PolicyVersionRow) (member' : other ∈ versions)
      (owned : row.org_id = other.org_id) (same : row.policy_id = other.policy_id) (active : row.status = .active)
      (active' : other.status = .active) : row = other :=
    locked.oneActive row (before row member active) other (before other member' active') owned same active active'
  cases new : phase.newVersion? with
  | none =>
    rw [(committedVersions.kept new).1]
    exact among
  | some added =>
    obtain ⟨unique, inserted⟩ := insertVersion?_some (committedVersions.added _ _ new).1
    intro row member other member' owned same active active'
    have alone (old : PolicyVersionRow) (here : old ∈ versions) (owned : old.org_id = added.1.org_id)
        (same : old.policy_id = added.1.policy_id) : old.status ≠ .active := by
      have inactive := unique old here
      simpa [activeOf, owned, same] using inactive
    rcases (Table.mem_insert? inserted).mp member with rfl | old
    · rcases (Table.mem_insert? inserted).mp member' with rfl | old'
      · rfl
      · exact absurd active' (alone other old' owned.symm same.symm)
    · rcases (Table.mem_insert? inserted).mp member' with rfl | old'
      · exact absurd active (alone row old owned same)
      · exact among row old other old' owned same active active'

theorem Locked.commit (locked : s.Locked) {call : PolicyCall} (found : s.calls.find? callId = some call)
    (taken : s.commitPhase call.phase = some committed) :
    { committed with calls := s.calls.remove callId }.Locked := by
  have holds := locked.holds found
  obtain ⟨versions, committedVersions⟩ := commitPhase_versions locked holds taken
  have others (other : PolicyCall) (member : other ∈ s.calls.remove callId) :
      other ∈ s.calls ∧ call.phase.Compatible other.phase := by
    obtain ⟨before, apart⟩ := Table.mem_remove.mp member
    exact ⟨before, holds.compatible other before apart⟩
  have oneActive := committedVersions.oneActive locked
  refine ⟨?_, ?_, ?_, ?_, oneActive⟩
  · intro one member other member'
    exact locked.exclusive one (others one member).1 other (others other member').1
  · intro other member draft held
    obtain ⟨before, compatible⟩ := others other member
    refine commitPhase_draft_kept taken (locked.drafts other before draft held) fun here => ?_
    exact compatible.draft draft.id here (by rw [PolicyPhase.lockedDraft?, held]; rfl)
  · intro other member version held
    obtain ⟨before, compatible⟩ := others other member
    refine committedVersions.version_kept (locked.versions other before version held) fun here => ?_
    exact compatible.locked version.key here (List.mem_map_of_mem held)
  · intro other member
    exact locked.archived other (others other member).1

theorem Locked.step (locked : s.Locked) {label : LifecycleLabel} (taken : s.step label = some s') : s'.Locked := by
  cases label with
  | start callId request =>
    obtain ⟨phase, calls, started, inserted, rfl⟩ := step_start taken
    refine locked.take (start?_holds started) fun call member => ?_
    rcases (Table.mem_insert? inserted).mp member with rfl | before
    · exact .inl rfl
    · exact .inr ⟨before, Table.find?_eq_none.mp (Table.insert?_eq_some inserted).2 call before⟩
  | proceed callId bindingIds now =>
    obtain ⟨call, phase, found, proceeded, rfl⟩ := step_proceed taken
    refine locked.take (next?_holds (locked.holds found) proceeded) fun call member => ?_
    exact (Table.mem_put.mp member).symm.imp_left And.left
  | commit callId =>
    obtain ⟨call, committed, found, written, rfl⟩ := step_commit taken
    exact locked.commit found written
  | rollback callId =>
    obtain rfl := Option.some.inj taken
    have before (call : PolicyCall) (member : call ∈ s.calls.remove callId) : call ∈ s.calls :=
      (Table.mem_remove.mp member).1
    exact ⟨fun call member other member' => locked.exclusive call (before call member) other (before other member'),
      fun call member => locked.drafts call (before call member),
      fun call member => locked.versions call (before call member),
      fun call member => locked.archived call (before call member), locked.oneActive⟩

end Step

end Lifecycle

end AgentOps.Policy
