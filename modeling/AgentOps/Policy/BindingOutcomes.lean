import AgentOps.Policy.DraftOutcomes

namespace AgentOps.Policy
open Lib Identity

/-! # What the bindings of a policy point to -/

def BoundToActive (s : Lifecycle) (binding : PolicyBindingRow) : Prop :=
  ∃ row ∈ s.store.policyVersions, row.key = binding.versionKey ∧ row.org_id = binding.org_id ∧ row.status = .active ∧
    s.store.assertBindingTargetTypeAllowed row.statements binding.target = .ok ()

structure Lifecycle.BindingsSound (s : Lifecycle) : Prop where
  oneActive : ∀ row ∈ s.store.policyVersions, ∀ other ∈ s.store.policyVersions, row.org_id = other.org_id →
    row.policy_id = other.policy_id → row.status = .active → other.status = .active → row = other
  bound : ∀ binding ∈ s.store.policyBindings, binding.status = .active → BoundToActive s binding
  archived : ∀ orgId policyId, (∀ row ∈ s.store.policyVersions, row.org_id = orgId → row.policy_id = policyId →
      row.status ≠ .active) → ∀ binding ∈ s.store.policyBindings, binding.org_id = orgId →
    binding.policy_id = policyId → binding.status ≠ .active

/-- A bind inserts its row while the version it read is active. The statements of a revision allow the target of every
binding that it copies. -/
def BindsActive (s : Lifecycle) : LifecycleLabel → Prop
  | .proceed callId _ _ => ∀ call, s.calls.find? callId = some call →
      (∀ version target, call.phase = .bindingChecked version target →
        ∃ row, s.store.policyVersions.find? version.key = some row ∧ row.status = .active) ∧
      ∀ revision now, call.phase = .versionInserted revision now → revision.mode = .revision →
        ∀ binding ∈ s.replacedBindings revision,
          s.store.assertBindingTargetTypeAllowed revision.draft.statements binding.target = .ok ()
  | _ => True

def Revision.Located (revision : Revision) : Prop :=
  ∀ row ∈ revision.versions, row.org_id = revision.draft.org_id ∧ row.policy_id = revision.policyId

def PolicyPhase.Bindable (s : Lifecycle) : PolicyPhase → Prop
  | .awaitingVersions draft visible => ∃ policyId baseVersion mode, draft.revision = .ok (policyId, baseVersion, mode) ∧
      ∀ key ∈ visible, ∃ row ∈ s.store.policyVersions, row.key = key ∧ row.org_id = draft.org_id ∧
        row.policy_id = policyId
  | .versionsLocked revision | .versionInserted revision _ => revision.Located
  | .bindingsMoved revision _ removed inserted => revision.Located ∧
      (∀ row, revision.replaced = some row → ∀ binding ∈ s.store.policyBindings, binding.status = .active →
        binding.org_id = revision.draft.org_id → binding.versionKey = row.key → binding ∈ removed) ∧
      ∀ binding ∈ inserted, binding.versionKey = revision.nextKey ∧ binding.org_id = revision.draft.org_id ∧
        s.store.assertBindingTargetTypeAllowed revision.draft.statements binding.target = .ok ()
  | .bindingChecked version target =>
      (∃ row ∈ s.store.policyVersions, row.key = version.key ∧ row.org_id = version.org_id ∧
        row.statements = version.statements) ∧
      s.store.assertBindingTargetTypeAllowed version.statements target = .ok ()
  | .bound binding => BoundToActive s binding
  | .bindingsArchived version removed => ∀ binding ∈ s.store.policyBindings, binding.status = .active →
      binding.org_id = version.org_id → binding.policy_id = version.policy_id → binding ∈ removed
  | _ => True

structure Lifecycle.Bound (s : Lifecycle) : Prop where
  locked : s.Locked
  bound : ∀ binding ∈ s.store.policyBindings, binding.status = .active → BoundToActive s binding
  calls : ∀ call ∈ s.calls, call.phase.Bindable s

section Step

variable {s s' committed : Lifecycle} {callId : Nat} {phase phase' : PolicyPhase}

theorem Lifecycle.Bound.at (bound : s.Bound) {call : PolicyCall} (found : s.calls.find? callId = some call) :
    call.phase.Bindable s := bound.calls call (Table.mem_of_find? found)

theorem mem_versionsOf {orgId : OrgId} {policyId : PolicyId} {row : PolicyVersionRow} :
    row ∈ s.versionsOf orgId policyId ↔ row ∈ s.store.policyVersions ∧ row.org_id = orgId ∧ row.policy_id = policyId := by
  simp [Lifecycle.versionsOf, Table.mem_def]

theorem mem_activeBindings {orgId : OrgId} {policyId : PolicyId} {binding : PolicyBindingRow} :
    binding ∈ s.activeBindings orgId policyId ↔ binding ∈ s.store.policyBindings ∧ binding.org_id = orgId ∧
      binding.policy_id = policyId ∧ binding.status = .active := by
  simp [Lifecycle.activeBindings, activeBindingOf, Table.mem_def, and_assoc]

theorem start?_bindable {request : PolicyRequest} (started : s.start? callId request = some phase) :
    phase.Bindable s := by
  cases request with
  | createPolicyDraft =>
    obtain rfl := Option.some.inj started
    trivial
  | createPolicyRevisionDraft =>
    obtain ⟨base, draft, -, -, rfl⟩ := Lifecycle.start?_createRevision started
    trivial
  | createPolicyRestoreDraft =>
    simp only [Lifecycle.start?] at started
    split at started
    · cases started
    · obtain rfl := Option.some.inj started
      trivial
  | editPolicyDraft =>
    obtain ⟨draft, -, -, -, rfl⟩ := Lifecycle.start?_edit started
    trivial
  | activatePolicyRevisionDraft =>
    obtain ⟨draft, -, -, -, rfl⟩ := Lifecycle.start?_revise started
    trivial
  | bindPolicy =>
    obtain ⟨version, found, allowed, rfl⟩ := Lifecycle.start?_bind started
    have member := Table.mem_of_find? (Option.filter_eq_some_iff.mp found).1
    exact ⟨⟨version, member, rfl, rfl, rfl⟩, allowed⟩
  | removePolicyBinding =>
    obtain ⟨binding, -, rfl⟩ := Lifecycle.start?_remove started
    trivial
  | archivePolicy =>
    obtain ⟨version, -, -, rfl⟩ := Lifecycle.start?_archive started
    trivial

theorem forM_ok {α : Type} {f : α → Except Failure Unit} {xs : List α} (passed : xs.forM f = .ok ()) :
    ∀ x ∈ xs, f x = .ok () := by
  induction xs with
  | nil => simp
  | cons first xs ih =>
    obtain ⟨⟨⟩, head, tail⟩ := bind_eq_ok.mp passed
    simp only [List.mem_cons, forall_eq_or_imp]
    exact ⟨head, ih tail⟩

theorem movedTargets_allowed {revision : Revision} {targets : List BindingTarget}
    (moved : s.movedTargets revision = .ok targets)
    (allowed : revision.mode = .revision → ∀ binding ∈ s.replacedBindings revision,
      s.store.assertBindingTargetTypeAllowed revision.draft.statements binding.target = .ok ()) :
    ∀ target ∈ targets, s.store.assertBindingTargetTypeAllowed revision.draft.statements target = .ok () := by
  unfold Lifecycle.movedTargets at moved
  split at moved
  · rename_i mode
    obtain rfl := Except.ok.inj moved
    intro target member
    obtain ⟨binding, replaced, rfl⟩ := List.mem_map.mp member
    exact allowed mode binding replaced
  · obtain ⟨⟨⟩, checked, same⟩ := bind_eq_ok.mp moved
    obtain rfl := Except.ok.inj same
    exact fun target member => forM_ok checked target (List.mem_of_mem_filter member)

theorem next?_bindable {bindingIds : List PolicyBindingId} {now : Time} (bindable : phase.Bindable s)
    (checked : (∀ version target, phase = .bindingChecked version target →
        ∃ row, s.store.policyVersions.find? version.key = some row ∧ row.status = .active) ∧
      ∀ revision now, phase = .versionInserted revision now → revision.mode = .revision →
        ∀ binding ∈ s.replacedBindings revision,
          s.store.assertBindingTargetTypeAllowed revision.draft.statements binding.target = .ok ())
    (proceeded : s.next? callId bindingIds now phase = some phase') : phase'.Bindable s := by
  cases phase with
  | restoring =>
    obtain ⟨base, draft, -, -, rfl⟩ := Lifecycle.next?_restoring proceeded
    trivial
  | revising draft =>
    obtain ⟨policyId, baseVersion, mode, revises, rfl⟩ := Lifecycle.next?_revising proceeded
    refine ⟨policyId, baseVersion, mode, revises, fun key seen => ?_⟩
    obtain ⟨row, listed, rfl⟩ := List.mem_map.mp seen
    obtain ⟨member, owned, same⟩ := mem_versionsOf.mp listed
    exact ⟨row, member, rfl, owned, same⟩
  | awaitingVersions draft visible =>
    obtain ⟨revision, -, checked, rfl⟩ := Lifecycle.next?_awaiting proceeded
    obtain ⟨policyId, baseVersion, mode, revises, seen⟩ := bindable
    obtain ⟨baseVersion', revises', -, rfl, versions, -, -⟩ := Lifecycle.checkVersions_ok checked
    obtain ⟨rfl, -⟩ := Prod.mk.inj (Except.ok.inj (revises.symm.trans revises'))
    intro row member
    rw [versions] at member
    obtain ⟨key, visible, located⟩ := List.mem_filterMap.mp member
    obtain ⟨old, there, keyed, owned, same⟩ := seen key visible
    obtain rfl := Table.eq_of_key there (Table.mem_of_find? located) (keyed.trans (Table.key_of_find? located).symm)
    exact ⟨owned, same⟩
  | versionsLocked =>
    obtain rfl := Lifecycle.next?_versionsLocked proceeded
    exact bindable
  | versionInserted revision now =>
    obtain ⟨targets, moved, rfl⟩ := Lifecycle.next?_versionInserted proceeded
    refine ⟨bindable, fun row replaced binding member active owned same => ?_, fun binding member => ?_⟩
    · obtain ⟨samePolicy, sameVersion⟩ := Prod.mk.inj same
      have policy := (bindable row (Lifecycle.replaced_some replaced).2.1).2
      simp only [Lifecycle.replacedBindings, replaced, List.mem_filter, mem_activeBindings, decide_eq_true_eq]
      exact ⟨⟨member, owned, samePolicy.trans policy, active⟩, sameVersion⟩
    · obtain ⟨i, within, rfl⟩ := List.mem_iff_getElem.mp member
      rw [List.getElem_zipWith]
      exact ⟨rfl, rfl, movedTargets_allowed moved (checked.2 revision now rfl) _ (List.getElem_mem _)⟩
  | bindingChecked version target =>
    obtain ⟨bindingId, -, rfl⟩ := Lifecycle.next?_bindingChecked proceeded
    obtain ⟨⟨row, member, keyed, owned, same⟩, allowed⟩ := bindable
    obtain ⟨row', found, active⟩ := checked.1 version target rfl
    obtain rfl := Table.eq_of_key member (Table.mem_of_find? found) (keyed.trans (Table.key_of_find? found).symm)
    exact ⟨row, member, keyed, owned, active, same ▸ allowed⟩
  | archiving version =>
    obtain rfl := Lifecycle.next?_archiving proceeded
    exact fun binding member active owned same => mem_activeBindings.mpr ⟨member, owned, same, active⟩
  | _ => cases proceeded

def PolicyPhase.newBindings : PolicyPhase → List PolicyBindingRow
  | .bound binding => [binding]
  | .bindingsMoved _ _ _ inserted => inserted
  | _ => []

def PolicyPhase.removedBindings : PolicyPhase → List PolicyBindingRow
  | .removing binding => [binding]
  | .bindingsMoved _ _ removed _ | .bindingsArchived _ removed => removed
  | _ => []

theorem active_of_markRemoved {bindings : Table PolicyBindingRow.id} {removed : List PolicyBindingRow}
    {binding : PolicyBindingRow} (member : binding ∈ markRemoved bindings removed) (active : binding.status = .active) :
    binding ∈ bindings ∧ binding ∉ removed := by
  obtain ⟨old, before, same⟩ := Table.mem_rewrite.mp member
  split at same
  · subst same
    cases active
  · rename_i apart
    subst same
    exact ⟨before, fun here => apart (List.mem_map_of_mem here)⟩

theorem commitPhase_binding (taken : s.commitPhase phase = some committed) {binding : PolicyBindingRow}
    (member : binding ∈ committed.store.policyBindings) (active : binding.status = .active) :
    (binding ∈ s.store.policyBindings ∧ binding ∉ phase.removedBindings) ∨ binding ∈ phase.newBindings := by
  cases phase with
  | creating | creatingFrom =>
    obtain ⟨drafts, -, rfl⟩ := Lifecycle.commitPhase_creating taken
    exact .inl ⟨member, List.not_mem_nil⟩
  | editing edit draft =>
    have taken : s.commitEdit edit draft = some committed := taken
    rw [(Lifecycle.commitEdit_some taken).2.1] at member
    exact .inl ⟨member, List.not_mem_nil⟩
  | bindingsMoved revision now removed inserted =>
    obtain ⟨-, moved, -, -⟩ := Lifecycle.commitRevision_some taken
    rcases (Table.mem_insertAll? moved).mp member with new | old
    · exact .inr new
    · exact .inl (active_of_markRemoved old active)
  | bound new =>
    obtain ⟨bindings, inserted, rfl⟩ := Lifecycle.commitPhase_bound taken
    rcases (Table.mem_insert? inserted).mp member with rfl | old
    · exact .inr List.mem_cons_self
    · exact .inl ⟨old, List.not_mem_nil⟩
  | removing | bindingsArchived =>
    obtain rfl := Option.some.inj taken
    exact .inl (active_of_markRemoved member active)
  | _ => cases taken

def PolicyPhase.deactivates : PolicyPhase → PolicyVersionRow → Prop
  | .bindingsMoved revision .., row => revision.replaced = some row
  | .bindingsArchived version _, row => activeOf version.org_id version.policy_id row = true
  | _, _ => False

theorem commitPhase_version (holds : s.Holds callId phase) (taken : s.commitPhase phase = some committed)
    {row : PolicyVersionRow} (member : row ∈ s.store.policyVersions) :
    row ∈ committed.store.policyVersions ∨ phase.deactivates row := by
  cases phase with
  | creating | creatingFrom =>
    obtain ⟨drafts, -, rfl⟩ := Lifecycle.commitPhase_creating taken
    exact .inl member
  | editing edit draft =>
    have taken : s.commitEdit edit draft = some committed := taken
    obtain ⟨-, -, versions, wrote⟩ := Lifecycle.commitEdit_some taken
    exact .inl (wrote.version_kept member List.not_mem_nil)
  | bindingsMoved revision now removed inserted =>
    obtain ⟨version, -, -, -⟩ := Lifecycle.commitRevision_some taken
    obtain ⟨-, version⟩ := Lifecycle.insertVersion?_some version
    by_cases replaced : revision.replaced = some row
    · exact .inr replaced
    · refine .inl ((Table.mem_insert? version).mpr (.inr ?_))
      unfold Revision.supersede
      split
      · exact member
      · rename_i old found
        refine Table.mem_put.mpr (.inl ⟨member, fun same => replaced ?_⟩)
        have here := holds.versions old (Lifecycle.replaced_some found).2.1
        rw [found, Table.eq_of_key member here same]
  | bound binding =>
    obtain ⟨bindings, -, rfl⟩ := Lifecycle.commitPhase_bound taken
    exact .inl member
  | removing binding =>
    obtain rfl := Option.some.inj taken
    exact .inl member
  | bindingsArchived version removed =>
    obtain rfl := Option.some.inj taken
    by_cases active : activeOf version.org_id version.policy_id row = true
    · exact .inr active
    · refine .inl ?_
      show row ∈ Lifecycle.archiveVersions s.store.policyVersions version.org_id version.policy_id
      exact Table.mem_rewrite.mpr ⟨row, member, if_neg active⟩
  | _ => cases taken

theorem commitPhase_registry (taken : s.commitPhase phase = some committed) (statements : List PolicyStatement)
    (target : BindingTarget) : committed.store.assertBindingTargetTypeAllowed statements target =
      s.store.assertBindingTargetTypeAllowed statements target := by
  cases phase with
  | creating | creatingFrom =>
    obtain ⟨drafts, -, rfl⟩ := Lifecycle.commitPhase_creating taken
    rfl
  | editing edit draft =>
    cases edit with
    | activate =>
      simp only [Lifecycle.commitPhase, Lifecycle.commitEdit, Option.bind_eq_bind, Option.bind_eq_some_iff,
        Option.some.injEq] at taken
      obtain ⟨versions, -, rfl⟩ := taken
      rfl
    | _ =>
      obtain rfl := Option.some.inj taken
      rfl
  | bindingsMoved revision now removed inserted =>
    simp only [Lifecycle.commitPhase, Lifecycle.commitRevision, Option.bind_eq_bind, Option.bind_eq_some_iff,
      Option.some.injEq] at taken
    obtain ⟨versions, -, bindings, -, rfl⟩ := taken
    rfl
  | bound binding =>
    obtain ⟨bindings, -, rfl⟩ := Lifecycle.commitPhase_bound taken
    rfl
  | removing | bindingsArchived =>
    obtain rfl := Option.some.inj taken
    rfl
  | _ => cases taken

theorem Lifecycle.Bound.kept (bound : s.Bound) (holds : s.Holds callId phase) (bindable : phase.Bindable s)
    (taken : s.commitPhase phase = some committed) {binding : PolicyBindingRow}
    (member : binding ∈ s.store.policyBindings) (active : binding.status = .active)
    (stays : binding ∉ phase.removedBindings) : BoundToActive committed binding := by
  obtain ⟨row, here, keyed, owned, status, allowed⟩ := bound.bound binding member active
  rcases commitPhase_version holds taken here with remains | deactivated
  · exact ⟨row, remains, keyed, owned, status, (commitPhase_registry taken _ _).trans allowed⟩
  · cases phase with
    | bindingsMoved revision now removed inserted =>
      have org := (bindable.1 row (Lifecycle.replaced_some deactivated).2.1).1
      exact absurd (bindable.2.1 row deactivated binding member active (owned.symm.trans org) keyed.symm) stays
    | bindingsArchived version removed =>
      simp only [PolicyPhase.deactivates, activeOf, Bool.and_eq_true, decide_eq_true_eq] at deactivated
      obtain ⟨⟨org, policy⟩, -⟩ := deactivated
      have same : binding.policy_id = row.policy_id := (Prod.mk.inj keyed).1.symm
      exact absurd (bindable binding member active (owned.symm.trans org) (same.trans policy)) stays
    | _ => exact deactivated.elim

theorem Lifecycle.Bound.added (holds : s.Holds callId phase) (bindable : phase.Bindable s)
    (taken : s.commitPhase phase = some committed) {binding : PolicyBindingRow} (new : binding ∈ phase.newBindings) :
    BoundToActive committed binding := by
  cases phase with
  | bound inserted =>
    obtain rfl := List.mem_singleton.mp new
    obtain ⟨row, here, keyed, owned, status, allowed⟩ := bindable
    rcases commitPhase_version holds taken here with remains | deactivated
    · exact ⟨row, remains, keyed, owned, status, (commitPhase_registry taken _ _).trans allowed⟩
    · exact deactivated.elim
  | bindingsMoved revision now removed inserted =>
    obtain ⟨keyed, owned, allowed⟩ := bindable.2.2 binding new
    obtain ⟨version, -, -, -⟩ := Lifecycle.commitRevision_some taken
    obtain ⟨-, version⟩ := Lifecycle.insertVersion?_some version
    refine ⟨_, (Table.mem_insert? version).mpr (.inl rfl), keyed.symm, owned.symm, rfl, ?_⟩
    exact (commitPhase_registry taken _ _).trans allowed
  | _ => cases new

theorem newBinding_version (holds : s.Holds callId phase) (bindable : phase.Bindable s) {other : PolicyPhase}
    (compatible : phase.Compatible other) (taken : s.commitPhase phase = some committed) {binding : PolicyBindingRow}
    (new : binding ∈ phase.newBindings) {row : PolicyVersionRow} (member : row ∈ s.store.policyVersions)
    (locked : row.key ∈ other.lockedVersions) : binding.versionKey ≠ row.key := by
  intro same
  cases phase with
  | bound inserted =>
    obtain rfl := List.mem_singleton.mp new
    exact compatible.sharing binding.versionKey List.mem_cons_self (same ▸ locked)
  | bindingsMoved revision now removed inserted =>
    obtain ⟨version, -, -, -⟩ := Lifecycle.commitRevision_some taken
    obtain ⟨-, version⟩ := Lifecycle.insertVersion?_some version
    have fresh := (Table.insert?_eq_some version).2
    have keyed : row.key = revision.nextKey := same.symm.trans (bindable.2.2 binding new).1
    obtain ⟨row', found, -⟩ := (Lifecycle.revised_supersede fun old held =>
      ⟨holds.versions old held, List.mem_map_of_mem held⟩).grows _ _ (Table.find?_of_mem member)
    rw [keyed] at found
    exact absurd (fresh.symm.trans found) (by rintro ⟨⟩)
  | _ => cases new

theorem newBinding_policy (locked : s.Locked) (holds : s.Holds callId phase) (bindable : phase.Bindable s)
    {other : PolicyPhase} (compatible : phase.Compatible other) (taken : s.commitPhase phase = some committed)
    {binding : PolicyBindingRow} (new : binding ∈ phase.newBindings) {row : PolicyVersionRow}
    (member : row ∈ s.store.policyVersions) (active : row.status = .active) (held : row.key ∈ other.lockedVersions) :
    ¬(binding.org_id = row.org_id ∧ binding.policy_id = row.policy_id) := by
  rintro ⟨org, policy⟩
  cases phase with
  | bound inserted =>
    obtain rfl := List.mem_singleton.mp new
    obtain ⟨version, here, keyed, owned, status, -⟩ := bindable
    have samePolicy : version.policy_id = row.policy_id := (Prod.mk.inj keyed).1.trans policy
    obtain rfl := locked.oneActive version here row member (owned.trans org) samePolicy status active
    exact compatible.sharing binding.versionKey List.mem_cons_self (keyed ▸ held)
  | bindingsMoved revision now removed inserted =>
    obtain ⟨version, -, -, -⟩ := Lifecycle.commitRevision_some taken
    obtain ⟨unique, -⟩ := Lifecycle.insertVersion?_some version
    obtain ⟨keyed, owned, -⟩ := bindable.2.2 binding new
    have samePolicy : row.policy_id = revision.policyId := policy.symm.trans (Prod.mk.inj keyed).1
    obtain ⟨row', found, change⟩ := (Lifecycle.revised_supersede fun old held =>
      ⟨holds.versions old held, List.mem_map_of_mem held⟩).grows _ _ (Table.find?_of_mem member)
    -- The other transaction has the lock, so this one did not supersede the row.
    obtain rfl := change.apart fun mine => compatible.locked row.key mine held
    have inactive := unique row' (Table.mem_of_find? found)
    simp only [PolicyDraftRow.versionRow, Revision.nextKey] at inactive
    simp [activeOf, org.symm.trans owned, samePolicy, active] at inactive
  | _ => cases new

theorem Lifecycle.Bound.others (bound : s.Bound) (holds : s.Holds callId phase) (bindable : phase.Bindable s)
    (taken : s.commitPhase phase = some committed) {other : PolicyPhase} (compatible : phase.Compatible other)
    (held : ∀ row ∈ other.heldVersions, row ∈ s.store.policyVersions)
    (archived : ∀ row, other.archived? = some row → row.status = .active)
    (known : other.Bindable s) : other.Bindable committed := by
  obtain ⟨versions, wrote⟩ := commitPhase_versions bound.locked holds taken
  have registry := commitPhase_registry taken
  have remains {row : PolicyVersionRow} (member : row ∈ s.store.policyVersions) :
      ∃ row' ∈ committed.store.policyVersions, row'.key = row.key ∧ row'.org_id = row.org_id ∧
        row'.policy_id = row.policy_id ∧ row'.statements = row.statements := by
    obtain ⟨row', stays, keyed, change⟩ := wrote.grows.mem member
    refine ⟨row', stays, keyed, ?_, ?_, ?_⟩ <;> rw [change.same]
  have before {binding : PolicyBindingRow} (member : binding ∈ committed.store.policyBindings)
      (active : binding.status = .active) (old : binding ∉ phase.newBindings) : binding ∈ s.store.policyBindings :=
    ((commitPhase_binding taken member active).resolve_right old).1
  cases other with
  | awaitingVersions draft visible =>
    obtain ⟨policyId, baseVersion, mode, revises, seen⟩ := known
    refine ⟨policyId, baseVersion, mode, revises, fun key visible => ?_⟩
    obtain ⟨row, member, keyed, owned, same⟩ := seen key visible
    obtain ⟨row', stays, keyed', owned', same', -⟩ := remains member
    exact ⟨row', stays, keyed'.trans keyed, owned'.trans owned, same'.trans same⟩
  | versionsLocked | versionInserted => exact known
  | bindingsMoved revision now removed inserted =>
    obtain ⟨located, complete, allowed⟩ := known
    refine ⟨located, fun row replaced binding member active owned keyed => ?_, fun binding member => ?_⟩
    · have locked := (Lifecycle.replaced_some replaced).2.1
      refine complete row replaced binding (before member active fun new => ?_) active owned keyed
      exact newBinding_version holds bindable compatible taken new (held row locked) (List.mem_map_of_mem locked) keyed
    · obtain ⟨keyed, owned, allowed⟩ := allowed binding member
      exact ⟨keyed, owned, (registry _ _).trans allowed⟩
  | bindingChecked version target =>
    obtain ⟨⟨row, member, keyed, owned, same⟩, allowed⟩ := known
    obtain ⟨row', stays, keyed', owned', -, same'⟩ := remains member
    exact ⟨⟨row', stays, keyed'.trans keyed, owned'.trans owned, same'.trans same⟩, (registry _ _).trans allowed⟩
  | bound binding =>
    obtain ⟨row, member, keyed, owned, status, allowed⟩ := known
    refine ⟨row, wrote.version_kept member fun mine => ?_, keyed, owned, status, (registry _ _).trans allowed⟩
    exact compatible.shared row.key mine (by rw [keyed]; exact List.mem_cons_self)
  | bindingsArchived version removed =>
    intro binding member active owned same
    refine known binding (before member active fun new => ?_) active owned same
    exact newBinding_policy bound.locked holds bindable compatible taken new (held version List.mem_cons_self)
      (archived version rfl) List.mem_cons_self ⟨owned, same⟩
  | _ => trivial

theorem Lifecycle.Bound.commit (bound : s.Bound) {call : PolicyCall} (found : s.calls.find? callId = some call)
    (taken : s.commitPhase call.phase = some committed) :
    { committed with calls := s.calls.remove callId }.Bound := by
  have holds := bound.locked.holds found
  have bindable := bound.at found
  refine ⟨bound.locked.commit found taken, fun binding member active => ?_, fun other member => ?_⟩
  · rcases commitPhase_binding taken member active with ⟨before, stays⟩ | new
    · exact bound.kept holds bindable taken before active stays
    · exact Lifecycle.Bound.added holds bindable taken new
  · obtain ⟨before, apart⟩ := Table.mem_remove.mp member
    exact bound.others holds bindable taken (holds.compatible other before apart) (bound.locked.versions other before)
      (bound.locked.archived other before) (bound.calls other before)

theorem Lifecycle.Bound.step (bound : s.Bound) {label : LifecycleLabel} (binds : BindsActive s label)
    (taken : s.step label = some s') : s'.Bound := by
  have locked := bound.locked.step taken
  cases label with
  | start callId request =>
    obtain ⟨phase, calls, started, inserted, rfl⟩ := Lifecycle.step_start taken
    refine ⟨locked, bound.bound, fun call member => ?_⟩
    have known := start?_bindable started
    rcases (Table.mem_insert? inserted).mp member with rfl | before
    · exact known
    · exact bound.calls call before
  | proceed callId bindingIds now =>
    obtain ⟨call, phase, found, proceeded, rfl⟩ := Lifecycle.step_proceed taken
    refine ⟨locked, bound.bound, fun other member => ?_⟩
    have known := next?_bindable (bound.at found) (binds call found) proceeded
    rcases Table.mem_put.mp member with ⟨before, -⟩ | ⟨rfl, -⟩
    · exact bound.calls other before
    · exact known
  | commit callId =>
    obtain ⟨call, committed, found, written, rfl⟩ := Lifecycle.step_commit taken
    exact bound.commit found written
  | rollback callId =>
    obtain rfl := Option.some.inj taken
    exact ⟨locked, bound.bound, fun call member => bound.calls call (Table.mem_remove.mp member).1⟩

end Step

theorem Lifecycle.Bound.sound {s : Lifecycle} (bound : s.Bound) : s.BindingsSound where
  oneActive := bound.locked.oneActive
  bound := bound.bound
  archived := by
    rintro _ _ archived binding member rfl rfl active
    obtain ⟨row, here, keyed, owned, status, -⟩ := bound.bound binding member active
    exact archived row here owned (Prod.mk.inj keyed).1 status

theorem Lifecycle.BindingsSound.ofIdle {s : Lifecycle} (sound : s.BindingsSound) (idle : s.calls = .empty) : s.Bound := by
  have noCall (call : PolicyCall) : call ∉ s.calls := by
    rw [idle]
    exact Table.not_mem_empty call
  refine ⟨⟨?_, ?_, ?_, ?_, sound.oneActive⟩, sound.bound, ?_⟩
  all_goals exact fun call member => absurd member (noCall call)

theorem bindings_sound {s₀ s : Lifecycle} {events : List (Lifecycle × LifecycleLabel)} (idle : s₀.calls = .empty)
    (sound : s₀.BindingsSound) (run : Run Lifecycle.step s₀ events s) (conforms : Conforms BindsActive events) :
    s.BindingsSound :=
  (run.invariant _ conforms (sound.ofIdle idle) fun _ _ _ bound binds taken => bound.step binds taken).sound

section Example

def withRegistry : Lifecycle :=
  { noPolicies with
    store := { noPolicies.store with policyActionRegistry := .singleton ⟨"management.connection.revoke", [.connection]⟩ } }

def misbound (s : Lifecycle) : Bool :=
  s.store.policyBindings.rows.any fun binding => binding.status = .active &&
    !s.store.policyVersions.rows.any fun row => row.key = binding.versionKey && row.status = .active &&
      (s.store.assertBindingTargetTypeAllowed row.statements binding.target).toOption.isSome

theorem unsound_of_misbound {s : Lifecycle} (bad : misbound s = true) : ¬s.BindingsSound := by
  intro sound
  simp only [misbound, List.any_eq_true, Bool.and_eq_true, decide_eq_true_eq, Bool.not_eq_true'] at bad
  obtain ⟨binding, member, active, none_⟩ := bad
  obtain ⟨row, here, keyed, -, status, allowed⟩ := sound.bound binding member active
  have found := List.any_eq_false.mp none_ row here
  simp [keyed, status, allowed, Except.toOption] at found

def bindOrg (callId : Nat) : LifecycleLabel := .start callId (.bindPolicy 1 7 ⟨1, ⟨.org, 1⟩⟩)

def activatePolicy : List LifecycleLabel :=
  alone (.createPolicyDraft 1 1 denyAll) ++ alone (.editPolicyDraft (.activate 7 0) 1 1)

def credentialsOnly : UpdatePolicyDraftInput :=
  ⟨none, none, none, some [{ id := "stop", decision := .deny, actions := ["management.connection.revoke"] }]⟩

theorem exists_unsound (labels : List LifecycleLabel) (p : Lifecycle → Prop) [DecidablePred p]
    (found : ((exec Lifecycle.step withRegistry labels).any fun result =>
      decide (misbound result.2 = true ∧ p result.2)) = true) :
    ∃ events s, Run Lifecycle.step withRegistry events s ∧ ¬s.BindingsSound ∧ p s := by
  obtain ⟨events, s, run, bad, holds⟩ := exists_run labels (fun s => misbound s = true ∧ p s) found
  exact ⟨events, s, run, unsound_of_misbound bad, holds⟩

/-- A revision, and an archive, between the two statements of a bind; and a revision that copies a binding which its
statements do not allow -/
theorem bindings_unsound : withRegistry.calls = .empty ∧
    (∃ events s, Run Lifecycle.step withRegistry events s ∧ ¬s.BindingsSound ∧
      (s.store.policyVersions.find? (7, 1)).map (·.status) = some .superseded ∧
        (s.store.policyBindings.find? 9).map (·.status) = some .active) ∧
    (∃ events s, Run Lifecycle.step withRegistry events s ∧ ¬s.BindingsSound ∧
      (s.store.policyVersions.find? (7, 1)).map (·.status) = some .archived ∧
        (s.store.policyBindings.find? 9).map (·.status) = some .active) ∧
    ∃ events s, Run Lifecycle.step withRegistry events s ∧ ¬s.BindingsSound ∧
      (s.store.policyBindings.find? 10).map (fun binding => (binding.policy_version, binding.target.type)) =
        some (2, .org) := by
  refine ⟨rfl, ?_, ?_, ?_⟩
  · exact exists_unsound (activatePolicy ++ [bindOrg 2] ++
      alone (.createPolicyRevisionDraft 1 7 2 ⟨none, none, none, none⟩) ++ activateRevision 2 [] ++
      [.proceed 2 [9] 0, .commit 2]) _ (by decide)
  · exact exists_unsound (activatePolicy ++ [bindOrg 2, .start 1 (.archivePolicy 1 7), .proceed 1 [] 0, .commit 1,
      .proceed 2 [9] 0, .commit 2]) _ (by decide)
  · exact exists_unsound (activatePolicy ++ [bindOrg 2, .proceed 2 [9] 0, .commit 2] ++
      alone (.createPolicyRevisionDraft 1 7 2 credentialsOnly) ++ activateRevision 2 [10]) _ (by decide)

def bindsCheck (s : Lifecycle) : LifecycleLabel → Bool
  | .proceed callId _ _ => (s.calls.find? callId).all fun call =>
    match call.phase with
    | .bindingChecked version _ => (s.store.policyVersions.find? version.key).any (·.status = .active)
    | .versionInserted revision _ => revision.mode ≠ .revision || (s.replacedBindings revision).all fun binding =>
      (s.store.assertBindingTargetTypeAllowed revision.draft.statements binding.target).toOption.isSome
    | _ => true
  | _ => true

theorem bindsCheck_binds (s : Lifecycle) (label : LifecycleLabel) (checked : bindsCheck s label = true) :
    BindsActive s label := by
  cases label with
  | proceed callId bindingIds now =>
    intro call found
    simp only [bindsCheck, found, Option.all_some] at checked
    refine ⟨fun version target phase => ?_, fun revision now phase mode binding member => ?_⟩
    · rw [phase] at checked
      cases located : s.store.policyVersions.find? version.key with
      | none => simp [located] at checked
      | some row => exact ⟨row, rfl, by simpa [located] using checked⟩
    · simp only [phase, mode, ne_eq, not_true_eq_false, decide_false, Bool.false_or, List.all_eq_true] at checked
      obtain ⟨⟨⟩, allowed⟩ := Option.isSome_iff_exists.mp (checked binding member)
      exact toOption_eq_some.mp allowed
  | _ => trivial

theorem sound_withRegistry : withRegistry.BindingsSound := by
  refine ⟨?_, ?_, ?_⟩
  · rintro row ⟨⟩
  · rintro binding ⟨⟩
  · rintro orgId policyId - binding ⟨⟩

theorem bindings_sound_revision : ∃ s : Lifecycle, s.BindingsSound ∧
    (s.store.policyBindings.find? 10).map (fun binding => (binding.policy_version, binding.status)) =
      some (2, .active) := by
  obtain ⟨events, s, run, conforms, moved⟩ : ∃ events s, Run Lifecycle.step withRegistry events s ∧
      Conforms BindsActive events ∧ (s.store.policyBindings.find? 10).map
        (fun binding => (binding.policy_version, binding.status)) = some (2, .active) :=
    exists_conforming_run (activatePolicy ++ [bindOrg 2, .proceed 2 [9] 0, .commit 2] ++
      alone (.createPolicyRevisionDraft 1 7 2 ⟨none, none, none, none⟩) ++ activateRevision 2 [10])
      bindsCheck _ bindsCheck_binds (by decide)
  exact ⟨s, bindings_sound rfl sound_withRegistry run conforms, moved⟩

end Example

end AgentOps.Policy
