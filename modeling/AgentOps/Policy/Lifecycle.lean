import AgentOps.Lib.Transition
import AgentOps.Policy.Store
import AgentOps.Policy.Validator

namespace AgentOps.Policy
open Lib Identity

/-! # Drafts, versions and bindings, as concurrent transactions change them -/

abbrev PolicyDraftId := Nat

inductive PolicyDraftStatus where
  | draft
  | validated
  | activated
  | discarded
  deriving DecidableEq

inductive PolicyRevisionMode where
  | revision
  | restore
  deriving DecidableEq

structure PolicyDraftRow where
  id : PolicyDraftId
  org_id : OrgId
  name : String
  description : String
  category : PolicyCategory
  status : PolicyDraftStatus
  statements : List PolicyStatement
  validation : PolicyValidationResult
  activated_policy_id : Option PolicyId
  activated_version : Option Nat
  revision_policy_id : Option PolicyId
  revision_base_version : Option Nat
  revision_mode : Option PolicyRevisionMode
  revision_restore_bindings : List BindingTarget
  deriving DecidableEq

structure CreatePolicyDraftInput where
  name : String
  description : Option String
  category : PolicyCategory
  statements : List PolicyStatement

structure UpdatePolicyDraftInput where
  name : Option String
  description : Option String
  category : Option PolicyCategory
  statements : Option (List PolicyStatement)

structure CreatePolicyRestoreDraftInput extends UpdatePolicyDraftInput where
  restore_bindings : List BindingTarget

def unvalidated (warning : String) : PolicyValidationResult := ⟨false, [], [warning]⟩

def createdDraft (orgId : OrgId) (draftId : PolicyDraftId) (input : CreatePolicyDraftInput) : PolicyDraftRow where
  id := draftId
  org_id := orgId
  name := input.name
  description := input.description.getD ""
  category := input.category
  status := .draft
  statements := input.statements
  validation := unvalidated "Draft has not been validated yet."
  activated_policy_id := none
  activated_version := none
  revision_policy_id := none
  revision_base_version := none
  revision_mode := none
  revision_restore_bindings := []

def draftFrom (base : PolicyVersionRow) (draftId : PolicyDraftId) (input : UpdatePolicyDraftInput)
    (mode : PolicyRevisionMode) (restoreBindings : List BindingTarget) (warning : String) : PolicyDraftRow where
  id := draftId
  org_id := base.org_id
  name := input.name.getD base.name
  description := input.description.getD base.description
  category := input.category.getD base.category
  status := .draft
  statements := input.statements.getD base.statements
  validation := unvalidated warning
  activated_policy_id := none
  activated_version := none
  revision_policy_id := some base.policy_id
  revision_base_version := some base.version
  revision_mode := some mode
  revision_restore_bindings := restoreBindings

namespace PolicyDraftRow

def lockedDraft (draft : PolicyDraftRow) : Bool := draft.status = .activated || draft.status = .discarded

def assertUnlocked (draft : PolicyDraftRow) : Except Failure Unit :=
  if draft.lockedDraft then .error (badRequest "policy_draft_locked" "Policy draft can no longer be changed.") else .ok ()

def revision (draft : PolicyDraftRow) : Except Failure (PolicyId × Nat × PolicyRevisionMode) :=
  match draft.revision_policy_id, draft.revision_base_version, draft.revision_mode with
  | some policyId, some baseVersion, some mode => .ok (policyId, baseVersion, mode)
  | _, _, _ => .error (badRequest "policy_revision_required" "Policy draft is not a revision draft.")

def activate (draft : PolicyDraftRow) (validation : PolicyValidationResult) (version : VersionKey) : PolicyDraftRow :=
  { draft with
    status := .activated
    validation := validation
    activated_policy_id := some version.1
    activated_version := some version.2 }

def versionRow (draft : PolicyDraftRow) (version : VersionKey) (now : Time) : PolicyVersionRow where
  policy_id := version.1
  version := version.2
  org_id := draft.org_id
  name := draft.name
  description := draft.description
  category := draft.category
  status := .active
  statements := draft.statements
  created_at := now

end PolicyDraftRow

inductive DraftEdit where
  | update (input : UpdatePolicyDraftInput)
  | discard
  | validate
  | activate (policyId : PolicyId) (now : Time)

namespace DraftEdit

def check (edit : DraftEdit) (draft : PolicyDraftRow) (validation : PolicyValidationResult) : Except Failure Unit :=
  match edit with
  | update _ | validate => draft.assertUnlocked
  | discard =>
    if draft.status = .activated then .error (badRequest "policy_draft_locked" "Activated drafts cannot be discarded.")
    else .ok ()
  | activate .. =>
    if validation.valid then .ok ()
    else .error (badRequest "policy_validation_failed" "Policy draft must validate before activation.")

def apply (edit : DraftEdit) (draft : PolicyDraftRow) (validation : PolicyValidationResult) : PolicyDraftRow :=
  match edit with
  | update input =>
    { draft with
      name := input.name.getD draft.name
      description := input.description.getD draft.description
      category := input.category.getD draft.category
      statements := input.statements.getD draft.statements
      status := .draft
      validation := unvalidated "Draft has changed and must be validated again." }
  | discard => { draft with status := .discarded }
  | validate => { draft with status := if validation.valid then .validated else .draft, validation := validation }
  | activate policyId _ => draft.activate validation (policyId, 1)

end DraftEdit

def activeOf (orgId : OrgId) (policyId : PolicyId) (row : PolicyVersionRow) : Bool :=
  row.org_id = orgId && row.policy_id = policyId && row.status = .active

def insertVersion? (versions : Table PolicyVersionRow.key) (row : PolicyVersionRow) :
    Option (Table PolicyVersionRow.key) :=
  if versions.rows.any (activeOf row.org_id row.policy_id) then none else versions.insert? row

def activeBindingOf (orgId : OrgId) (policyId : PolicyId) (binding : PolicyBindingRow) : Bool :=
  binding.org_id = orgId && binding.policy_id = policyId && binding.status = .active

def markRemoved (bindings : Table PolicyBindingRow.id) (removed : List PolicyBindingRow) : Table PolicyBindingRow.id :=
  bindings.rewrite (fun binding => if binding.id ∈ removed.map (·.id) then { binding with status := .removed } else binding)
    (by intro binding; split <;> rfl)

structure Revision where
  draft : PolicyDraftRow
  policyId : PolicyId
  mode : PolicyRevisionMode
  versions : List PolicyVersionRow
  validation : PolicyValidationResult

namespace Revision

def active (revision : Revision) : Option PolicyVersionRow := revision.versions.find? (·.status = .active)

def nextVersion (revision : Revision) : Nat := (revision.versions.map (·.version)).foldr max 0 + 1

def nextKey (revision : Revision) : VersionKey := (revision.policyId, revision.nextVersion)

def replaced (revision : Revision) : Option PolicyVersionRow :=
  if revision.mode = .revision then revision.active else none

def supersede (revision : Revision) (versions : Table PolicyVersionRow.key) : Table PolicyVersionRow.key :=
  match revision.replaced with
  | none => versions
  | some row => versions.put { row with status := .superseded }

end Revision

inductive PolicyPhase where
  | creating (draft : PolicyDraftRow)
  | creatingFrom (draft : PolicyDraftRow) (base : PolicyVersionRow)
  | restoring (orgId : OrgId) (policyId : PolicyId) (draftId : PolicyDraftId) (input : CreatePolicyRestoreDraftInput)
  | editing (edit : DraftEdit) (draft : PolicyDraftRow)
  | revising (draft : PolicyDraftRow)
  | awaitingVersions (draft : PolicyDraftRow) (visible : List VersionKey)
  | versionsLocked (revision : Revision)
  | versionInserted (revision : Revision) (now : Time)
  | bindingsMoved (revision : Revision) (now : Time) (removed inserted : List PolicyBindingRow)
  | bindingChecked (version : PolicyVersionRow) (target : BindingTarget)
  | bound (binding : PolicyBindingRow)
  | removing (binding : PolicyBindingRow)
  | archiving (version : PolicyVersionRow)
  | bindingsArchived (version : PolicyVersionRow) (removed : List PolicyBindingRow)

namespace PolicyPhase

/-- The versions that the transaction has locked `FOR UPDATE`, as it read them -/
def heldVersions : PolicyPhase → List PolicyVersionRow
  | .creatingFrom _ version | .archiving version | .bindingsArchived version _ => [version]
  | .versionsLocked revision | .versionInserted revision _ | .bindingsMoved revision .. => revision.versions
  | _ => []

def lockedVersions (phase : PolicyPhase) : List VersionKey := phase.heldVersions.map (·.key)

def sharedVersions : PolicyPhase → List VersionKey
  | .bound binding => [binding.versionKey]
  | _ => []

def heldDraft? : PolicyPhase → Option PolicyDraftRow
  | .editing _ draft | .revising draft | .awaitingVersions draft _ => some draft
  | .versionsLocked revision | .versionInserted revision _ | .bindingsMoved revision .. => some revision.draft
  | _ => none

def lockedDraft? (phase : PolicyPhase) : Option PolicyDraftId := phase.heldDraft?.map (·.id)

def lockedBindings : PolicyPhase → List PolicyBindingId
  | .removing binding => [binding.id]
  | .bindingsMoved _ _ removed _ | .bindingsArchived _ removed => removed.map (·.id)
  | _ => []

end PolicyPhase

structure PolicyCall where
  id : Nat
  phase : PolicyPhase

structure Lifecycle where
  store : PolicyStore
  /-- The column `condition_groups` of the registered actions -/
  conditionGroups : String → List PolicyConditionGroup
  /-- The column `draft_id` of the versions -/
  draftIds : VersionKey → Option PolicyDraftId
  policyDrafts : Table PolicyDraftRow.id
  calls : Table PolicyCall.id

inductive PolicyRequest where
  | createPolicyDraft (orgId : OrgId) (draftId : PolicyDraftId) (input : CreatePolicyDraftInput)
  | createPolicyRevisionDraft (orgId : OrgId) (policyId : PolicyId) (draftId : PolicyDraftId)
    (input : UpdatePolicyDraftInput)
  | createPolicyRestoreDraft (orgId : OrgId) (policyId : PolicyId) (draftId : PolicyDraftId)
    (input : CreatePolicyRestoreDraftInput)
  | editPolicyDraft (edit : DraftEdit) (orgId : OrgId) (draftId : PolicyDraftId)
  | activatePolicyRevisionDraft (orgId : OrgId) (draftId : PolicyDraftId)
  | bindPolicy (orgId : OrgId) (policyId : PolicyId) (input : PolicyStore.BindPolicyInput)
  | removePolicyBinding (orgId : OrgId) (policyId : PolicyId) (bindingId : PolicyBindingId)
  | archivePolicy (orgId : OrgId) (policyId : PolicyId)

inductive LifecycleLabel where
  | start (callId : Nat) (request : PolicyRequest)
  | proceed (callId : Nat) (bindingIds : List PolicyBindingId) (now : Time)
  | commit (callId : Nat)
  | rollback (callId : Nat)

namespace Lifecycle

variable (s : Lifecycle)

def versionFree (callId : Nat) (key : VersionKey) : Bool :=
  s.calls.rows.all fun call => call.id = callId ||
    (key ∉ call.phase.lockedVersions && key ∉ call.phase.sharedVersions)

/-- Nobody else has locked the version `FOR UPDATE`. -/
def versionShareable (callId : Nat) (key : VersionKey) : Bool :=
  s.calls.rows.all fun call => call.id = callId || key ∉ call.phase.lockedVersions

def draftFree (draftId : PolicyDraftId) : Bool := s.calls.rows.all fun call => call.phase.lockedDraft? ≠ some draftId

def bindingsFree (callId : Nat) (bindings : List PolicyBindingRow) : Bool :=
  s.calls.rows.all fun call => call.id = callId || bindings.all (·.id ∉ call.phase.lockedBindings)

def validateStatements (statements : List PolicyStatement) : PolicyValidationResult :=
  validatePolicyStatements (fun action => (s.store.policyActionRegistry.find? action).isSome) s.conditionGroups statements

def draft? (orgId : OrgId) (draftId : PolicyDraftId) : Option PolicyDraftRow :=
  (s.policyDrafts.find? draftId).filter (·.org_id = orgId)

def versionsOf (orgId : OrgId) (policyId : PolicyId) : List PolicyVersionRow :=
  s.store.policyVersions.rows.filter fun row => row.org_id = orgId ∧ row.policy_id = policyId

/-- `ORDER BY version DESC LIMIT 1` among the versions with a status -/
def latest? (orgId : OrgId) (policyId : PolicyId) (status : PolicyVersionStatus) : Option PolicyVersionRow :=
  (orderBy (fun row other => other.version ≤ row.version)
    ((s.versionsOf orgId policyId).filter (·.status = status))).head?

def activeBindings (orgId : OrgId) (policyId : PolicyId) : List PolicyBindingRow :=
  s.store.policyBindings.rows.filter (activeBindingOf orgId policyId)

def start? (callId : Nat) : PolicyRequest → Option PolicyPhase
  | .createPolicyDraft orgId draftId input => some (.creating (createdDraft orgId draftId input))
  | .createPolicyRevisionDraft orgId policyId draftId input => do
    let base ← s.latest? orgId policyId .active
    if s.versionFree callId base.key then
      some (.creatingFrom (draftFrom base draftId input .revision [] "Revision draft has not been validated yet.") base)
    else none
  | .createPolicyRestoreDraft orgId policyId draftId input =>
    if (s.latest? orgId policyId .active).isSome then none else some (.restoring orgId policyId draftId input)
  | .editPolicyDraft edit orgId draftId => do
    let draft ← s.draft? orgId draftId
    if s.draftFree draftId then
      (edit.check draft (s.validateStatements draft.statements)).toOption.map fun _ => .editing edit draft
    else none
  | .activatePolicyRevisionDraft orgId draftId => do
    let draft ← s.draft? orgId draftId
    if s.draftFree draftId then draft.assertUnlocked.toOption.map fun _ => .revising draft else none
  | .bindPolicy orgId policyId input => do
    let version ← s.store.activeVersion? orgId (policyId, input.policy_version)
    let checked := do
      s.store.assertBindingTargetTypeAllowed version.statements input.target
      s.store.assertBindingTargetExists orgId input.target
    checked.toOption.map fun _ => .bindingChecked version input.target
  | .removePolicyBinding orgId policyId bindingId => do
    let binding ← (s.store.policyBindings.find? bindingId).filter fun row => row.org_id = orgId ∧ row.policy_id = policyId
    if s.bindingsFree callId [binding] then some (.removing binding) else none
  | .archivePolicy orgId policyId => do
    let version ← s.latest? orgId policyId .active
    if s.versionFree callId version.key then some (.archiving version) else none

/-- What `activatePolicyRevisionDraft` makes of the versions it has locked -/
def checkVersions (draft : PolicyDraftRow) (versions : List PolicyVersionRow) : Except Failure Revision := do
  let (policyId, baseVersion, mode) ← draft.revision
  if versions.isEmpty then .error (notFound "Policy was not found.")
  else if versions.all (·.version ≠ baseVersion) then .error (notFound "Policy base version was not found.")
  else
    let validation := s.validateStatements draft.statements
    let revision : Revision := ⟨draft, policyId, mode, versions, validation⟩
    if mode = .revision && revision.active.map (·.version) ≠ some baseVersion then
      .error (badRequest "policy_revision_stale" "Revision draft is not based on the current active policy version.")
    else if mode = .restore && revision.active.isSome then
      .error (badRequest "policy_restore_requires_archive" "Only archived policies can be restored.")
    else if !validation.valid then
      .error (badRequest "policy_validation_failed" "Policy revision draft must validate before activation.")
    else .ok revision

def replacedBindings (revision : Revision) : List PolicyBindingRow :=
  match revision.replaced with
  | none => []
  | some row => (s.activeBindings revision.draft.org_id revision.policyId).filter (·.policy_version = row.version)

/-- The targets that the new version is bound to: those of the version it supersedes, which are not checked again, or
those that a restore names and that still exist -/
def movedTargets (revision : Revision) : Except Failure (List BindingTarget) :=
  match revision.mode with
  | .revision => .ok ((s.replacedBindings revision).map (·.target))
  | .restore => do
    revision.draft.revision_restore_bindings.forM
      (s.store.assertBindingTargetTypeAllowed revision.draft.statements)
    .ok (revision.draft.revision_restore_bindings.filter (s.store.targetExists revision.draft.org_id))

def bindingRow (revision : Revision) (now : Time) (bindingId : PolicyBindingId) (target : BindingTarget) :
    PolicyBindingRow where
  id := bindingId
  org_id := revision.draft.org_id
  policy_id := revision.policyId
  policy_version := revision.nextVersion
  target := target
  status := .active
  created_at := now

def moveBindings (callId : Nat) (revision : Revision) (bindingIds : List PolicyBindingId) (now : Time) :
    Option PolicyPhase := do
  let targets ← (s.movedTargets revision).toOption
  if targets.Nodup && targets.length = bindingIds.length && s.bindingsFree callId (s.replacedBindings revision) then
    some (.bindingsMoved revision now (s.replacedBindings revision)
      (List.zipWith (bindingRow revision now) bindingIds targets))
  else none

def next? (callId : Nat) (bindingIds : List PolicyBindingId) (now : Time) : PolicyPhase → Option PolicyPhase
  | .restoring orgId policyId draftId input => do
    let base ← s.latest? orgId policyId .archived
    let draft := draftFrom base draftId input.toUpdatePolicyDraftInput .restore input.restore_bindings
      "Restore draft has not been validated yet."
    let checked := input.restore_bindings.forM fun target => do
      s.store.assertBindingTargetTypeAllowed draft.statements target
      s.store.assertBindingTargetExists orgId target
    if s.versionFree callId base.key then checked.toOption.map fun _ => .creatingFrom draft base else none
  | .revising draft => do
    let (policyId, _, _) ← draft.revision.toOption
    some (.awaitingVersions draft ((s.versionsOf draft.org_id policyId).map (·.key)))
  | .awaitingVersions draft visible =>
    if visible.all (s.versionFree callId) then
      (s.checkVersions draft (visible.filterMap s.store.policyVersions.find?)).toOption.map .versionsLocked
    else none
  | .versionsLocked revision =>
    (insertVersion? (revision.supersede s.store.policyVersions)
      (revision.draft.versionRow revision.nextKey now)).map fun _ => .versionInserted revision now
  | .versionInserted revision now => s.moveBindings callId revision bindingIds now
  | .bindingChecked version target =>
    match bindingIds with
    | [bindingId] =>
      if s.versionShareable callId version.key then
        some (.bound { id := bindingId, org_id := version.org_id, policy_id := version.policy_id
                       policy_version := version.version, target := target, status := .active, created_at := now })
      else none
    | _ => none
  | .archiving version =>
    let removed := s.activeBindings version.org_id version.policy_id
    if s.bindingsFree callId removed then some (.bindingsArchived version removed) else none
  | _ => none

def setDraftId (key : VersionKey) (draftId : PolicyDraftId) : VersionKey → Option PolicyDraftId :=
  Function.update s.draftIds key (some draftId)

def commitEdit (edit : DraftEdit) (draft : PolicyDraftRow) : Option Lifecycle :=
  let edited := edit.apply draft (s.validateStatements draft.statements)
  match edit with
  | .activate policyId now => do
    let versions ← insertVersion? s.store.policyVersions (draft.versionRow (policyId, 1) now)
    some { s with
      store := { s.store with policyVersions := versions }
      draftIds := s.setDraftId (policyId, 1) draft.id
      policyDrafts := s.policyDrafts.put edited }
  | _ => some { s with policyDrafts := s.policyDrafts.put edited }

def commitRevision (revision : Revision) (now : Time) (removed inserted : List PolicyBindingRow) : Option Lifecycle := do
  let versions ← insertVersion? (revision.supersede s.store.policyVersions)
    (revision.draft.versionRow revision.nextKey now)
  let bindings ← (markRemoved s.store.policyBindings removed).insertAll? inserted
  some { s with
    store := { s.store with policyVersions := versions, policyBindings := bindings }
    draftIds := s.setDraftId revision.nextKey revision.draft.id
    policyDrafts := s.policyDrafts.put (revision.draft.activate revision.validation revision.nextKey) }

/-- `UPDATE … WHERE status = 'active'`, all the policy's active versions -/
def archiveVersions (versions : Table PolicyVersionRow.key) (orgId : OrgId) (policyId : PolicyId) :
    Table PolicyVersionRow.key :=
  versions.rewrite (fun row => if activeOf orgId policyId row then { row with status := .archived } else row)
    (by intro row; split <;> rfl)

def commitPhase : PolicyPhase → Option Lifecycle
  | .creating draft | .creatingFrom draft _ => do
    let drafts ← s.policyDrafts.insert? draft
    some { s with policyDrafts := drafts }
  | .editing edit draft => s.commitEdit edit draft
  | .bindingsMoved revision now removed inserted => s.commitRevision revision now removed inserted
  | .bound binding => do
    if s.store.activelyBound binding.org_id binding.versionKey binding.target then none
    let bindings ← s.store.policyBindings.insert? binding
    some { s with store := { s.store with policyBindings := bindings } }
  | .removing binding =>
    some { s with store := { s.store with policyBindings := markRemoved s.store.policyBindings [binding] } }
  | .bindingsArchived version removed =>
    some { s with
      store := { s.store with
        policyVersions := archiveVersions s.store.policyVersions version.org_id version.policy_id
        policyBindings := markRemoved s.store.policyBindings removed } }
  | _ => none

def step : LifecycleLabel → Option Lifecycle
  | .start callId request => do
    let phase ← s.start? callId request
    let calls ← s.calls.insert? ⟨callId, phase⟩
    some { s with calls := calls }
  | .proceed callId bindingIds now => do
    let call ← s.calls.find? callId
    let phase ← s.next? callId bindingIds now call.phase
    some { s with calls := s.calls.put ⟨callId, phase⟩ }
  | .commit callId => do
    let call ← s.calls.find? callId
    let committed ← s.commitPhase call.phase
    some { committed with calls := s.calls.remove callId }
  | .rollback callId => some { s with calls := s.calls.remove callId }

section Inversion

variable {s} {s' : Lifecycle} {callId : Nat} {phase : PolicyPhase} {orgId : OrgId} {policyId : PolicyId}
  {draftId : PolicyDraftId} {bindingIds : List PolicyBindingId} {now : Time}

theorem step_start {request : PolicyRequest} (taken : s.step (.start callId request) = some s') :
    ∃ phase calls, s.start? callId request = some phase ∧ s.calls.insert? ⟨callId, phase⟩ = some calls ∧
      s' = { s with calls := calls } := by
  simp only [step, Option.bind_eq_bind, Option.bind_eq_some_iff, Option.some.injEq] at taken
  obtain ⟨phase, started, calls, inserted, rfl⟩ := taken
  exact ⟨phase, calls, started, inserted, rfl⟩

theorem step_proceed (taken : s.step (.proceed callId bindingIds now) = some s') :
    ∃ call phase, s.calls.find? callId = some call ∧ s.next? callId bindingIds now call.phase = some phase ∧
      s' = { s with calls := s.calls.put ⟨callId, phase⟩ } := by
  simp only [step, Option.bind_eq_bind, Option.bind_eq_some_iff, Option.some.injEq] at taken
  obtain ⟨call, found, phase, proceeded, rfl⟩ := taken
  exact ⟨call, phase, found, proceeded, rfl⟩

theorem step_commit (taken : s.step (.commit callId) = some s') :
    ∃ call committed, s.calls.find? callId = some call ∧ s.commitPhase call.phase = some committed ∧
      s' = { committed with calls := s.calls.remove callId } := by
  simp only [step, Option.bind_eq_bind, Option.bind_eq_some_iff, Option.some.injEq] at taken
  obtain ⟨call, found, committed, phase, rfl⟩ := taken
  exact ⟨call, committed, found, phase, rfl⟩

theorem start?_createRevision {input : UpdatePolicyDraftInput}
    (started : s.start? callId (.createPolicyRevisionDraft orgId policyId draftId input) = some phase) :
    ∃ base draft, s.latest? orgId policyId .active = some base ∧ s.versionFree callId base.key = true ∧
      phase = .creatingFrom draft base := by
  obtain ⟨base, found, started⟩ := Option.bind_eq_some_iff.mp started
  obtain ⟨free, started⟩ := Option.ite_none_right_eq_some.mp started
  exact ⟨base, _, found, free, (Option.some.inj started).symm⟩

theorem start?_edit {edit : DraftEdit} (started : s.start? callId (.editPolicyDraft edit orgId draftId) = some phase) :
    ∃ draft, s.draft? orgId draftId = some draft ∧ s.draftFree draftId = true ∧
      edit.check draft (s.validateStatements draft.statements) = .ok () ∧ phase = .editing edit draft := by
  obtain ⟨draft, found, started⟩ := Option.bind_eq_some_iff.mp started
  obtain ⟨free, started⟩ := Option.ite_none_right_eq_some.mp started
  obtain ⟨_, checked, rfl⟩ := Option.map_eq_some_iff.mp started
  exact ⟨draft, found, free, toOption_eq_some.mp checked, rfl⟩

theorem start?_revise (started : s.start? callId (.activatePolicyRevisionDraft orgId draftId) = some phase) :
    ∃ draft, s.draft? orgId draftId = some draft ∧ s.draftFree draftId = true ∧ draft.assertUnlocked = .ok () ∧
      phase = .revising draft := by
  obtain ⟨draft, found, started⟩ := Option.bind_eq_some_iff.mp started
  obtain ⟨free, started⟩ := Option.ite_none_right_eq_some.mp started
  obtain ⟨_, checked, rfl⟩ := Option.map_eq_some_iff.mp started
  exact ⟨draft, found, free, toOption_eq_some.mp checked, rfl⟩

theorem start?_bind {input : PolicyStore.BindPolicyInput}
    (started : s.start? callId (.bindPolicy orgId policyId input) = some phase) :
    ∃ version, s.store.activeVersion? orgId (policyId, input.policy_version) = some version ∧
      s.store.assertBindingTargetTypeAllowed version.statements input.target = .ok () ∧
      phase = .bindingChecked version input.target := by
  obtain ⟨version, found, started⟩ := Option.bind_eq_some_iff.mp started
  obtain ⟨_, checked, rfl⟩ := Option.map_eq_some_iff.mp started
  obtain ⟨_, allowed, _⟩ := bind_eq_ok.mp (toOption_eq_some.mp checked)
  exact ⟨version, found, allowed, rfl⟩

theorem start?_remove {bindingId : PolicyBindingId}
    (started : s.start? callId (.removePolicyBinding orgId policyId bindingId) = some phase) :
    ∃ binding, s.store.policyBindings.find? bindingId = some binding ∧ phase = .removing binding := by
  obtain ⟨binding, found, started⟩ := Option.bind_eq_some_iff.mp started
  obtain ⟨-, started⟩ := Option.ite_none_right_eq_some.mp started
  exact ⟨binding, (Option.filter_eq_some_iff.mp found).1, (Option.some.inj started).symm⟩

theorem start?_archive (started : s.start? callId (.archivePolicy orgId policyId) = some phase) :
    ∃ version, s.latest? orgId policyId .active = some version ∧ s.versionFree callId version.key = true ∧
      phase = .archiving version := by
  obtain ⟨version, found, started⟩ := Option.bind_eq_some_iff.mp started
  obtain ⟨free, started⟩ := Option.ite_none_right_eq_some.mp started
  exact ⟨version, found, free, (Option.some.inj started).symm⟩

theorem next?_restoring {input : CreatePolicyRestoreDraftInput}
    (proceeded : s.next? callId bindingIds now (.restoring orgId policyId draftId input) = some phase) :
    ∃ base draft, s.latest? orgId policyId .archived = some base ∧ s.versionFree callId base.key = true ∧
      phase = .creatingFrom draft base := by
  obtain ⟨base, found, proceeded⟩ := Option.bind_eq_some_iff.mp proceeded
  obtain ⟨free, proceeded⟩ := Option.ite_none_right_eq_some.mp proceeded
  obtain ⟨-, -, rfl⟩ := Option.map_eq_some_iff.mp proceeded
  exact ⟨base, _, found, free, rfl⟩

theorem next?_revising {draft : PolicyDraftRow} (proceeded : s.next? callId bindingIds now (.revising draft) = some phase) :
    ∃ policyId baseVersion mode, draft.revision = .ok (policyId, baseVersion, mode) ∧
      phase = .awaitingVersions draft ((s.versionsOf draft.org_id policyId).map (·.key)) := by
  obtain ⟨⟨policyId, baseVersion, mode⟩, revises, proceeded⟩ := Option.bind_eq_some_iff.mp proceeded
  exact ⟨policyId, baseVersion, mode, toOption_eq_some.mp revises, (Option.some.inj proceeded).symm⟩

theorem next?_awaiting {draft : PolicyDraftRow} {visible : List VersionKey}
    (proceeded : s.next? callId bindingIds now (.awaitingVersions draft visible) = some phase) :
    ∃ revision, visible.all (s.versionFree callId) = true ∧
      s.checkVersions draft (visible.filterMap s.store.policyVersions.find?) = .ok revision ∧
      phase = .versionsLocked revision := by
  obtain ⟨free, proceeded⟩ := Option.ite_none_right_eq_some.mp proceeded
  obtain ⟨revision, checked, rfl⟩ := Option.map_eq_some_iff.mp proceeded
  exact ⟨revision, free, toOption_eq_some.mp checked, rfl⟩

theorem checkVersions_ok {draft : PolicyDraftRow} {versions : List PolicyVersionRow} {revision : Revision}
    (checked : s.checkVersions draft versions = .ok revision) :
    ∃ baseVersion, draft.revision = .ok (revision.policyId, baseVersion, revision.mode) ∧ versions ≠ [] ∧
      revision.draft = draft ∧ revision.versions = versions ∧
      (revision.mode = .revision → revision.active.map (·.version) = some baseVersion) ∧
      (revision.mode = .restore → revision.active = none) := by
  obtain ⟨⟨policyId, baseVersion, mode⟩, revises, checked⟩ := bind_eq_ok.mp checked
  dsimp only at checked
  split at checked
  · cases checked
  rename_i nonempty
  split at checked
  · cases checked
  split at checked
  · cases checked
  rename_i current
  split at checked
  · cases checked
  rename_i archived
  split at checked
  · cases checked
  obtain rfl := Except.ok.inj checked
  refine ⟨baseVersion, revises, by simpa using nonempty, rfl, rfl, ?_, ?_⟩
  · rintro rfl
    simpa using current
  · rintro rfl
    simpa using archived

theorem next?_versionsLocked {revision : Revision}
    (proceeded : s.next? callId bindingIds now (.versionsLocked revision) = some phase) :
    phase = .versionInserted revision now := by
  obtain ⟨-, -, rfl⟩ := Option.map_eq_some_iff.mp proceeded
  rfl

theorem next?_versionInserted {revision : Revision} {at_ : Time}
    (proceeded : s.next? callId bindingIds now (.versionInserted revision at_) = some phase) :
    ∃ targets, s.movedTargets revision = .ok targets ∧
      phase = .bindingsMoved revision at_ (s.replacedBindings revision)
        (List.zipWith (bindingRow revision at_) bindingIds targets) := by
  obtain ⟨targets, moved, proceeded⟩ := Option.bind_eq_some_iff.mp proceeded
  obtain ⟨-, proceeded⟩ := Option.ite_none_right_eq_some.mp proceeded
  exact ⟨targets, toOption_eq_some.mp moved, (Option.some.inj proceeded).symm⟩

theorem next?_bindingChecked {version : PolicyVersionRow} {target : BindingTarget}
    (proceeded : s.next? callId bindingIds now (.bindingChecked version target) = some phase) :
    ∃ bindingId, s.versionShareable callId version.key = true ∧
      phase = .bound ⟨bindingId, version.org_id, version.policy_id, version.version, target, .active, now⟩ := by
  simp only [next?] at proceeded
  split at proceeded
  · split at proceeded
    · exact ⟨_, ‹_›, (Option.some.inj proceeded).symm⟩
    · cases proceeded
  · cases proceeded

theorem next?_archiving {version : PolicyVersionRow}
    (proceeded : s.next? callId bindingIds now (.archiving version) = some phase) :
    phase = .bindingsArchived version (s.activeBindings version.org_id version.policy_id) := by
  obtain ⟨-, proceeded⟩ := Option.ite_none_right_eq_some.mp proceeded
  exact (Option.some.inj proceeded).symm

theorem commitPhase_creating {committed : Lifecycle} {draft : PolicyDraftRow}
    (taken : s.commitPhase (.creating draft) = some committed) :
    ∃ drafts, s.policyDrafts.insert? draft = some drafts ∧ committed = { s with policyDrafts := drafts } := by
  obtain ⟨drafts, inserted, same⟩ := Option.bind_eq_some_iff.mp taken
  exact ⟨drafts, inserted, (Option.some.inj same).symm⟩

theorem commitPhase_bound {committed : Lifecycle} {binding : PolicyBindingRow}
    (taken : s.commitPhase (.bound binding) = some committed) :
    ∃ bindings, s.store.policyBindings.insert? binding = some bindings ∧
      committed = { s with store := { s.store with policyBindings := bindings } } := by
  simp only [commitPhase] at taken
  split at taken
  · cases taken
  · simp only [Option.bind_eq_bind, Option.bind_eq_some_iff, Option.some.injEq] at taken
    obtain ⟨bindings, inserted, rfl⟩ := taken
    exact ⟨bindings, inserted, rfl⟩

end Inversion

end Lifecycle

end AgentOps.Policy
