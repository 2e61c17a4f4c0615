import AgentOps.Payments.DelegationAccounts

namespace AgentOps.Payments
open Lib Identity

/-! # One delegation call, from its first statement to its end -/

def DelegationWork.request : DelegationWork → DelegationRequest
  | .recordSignedDelegation input _ => .recordSignedDelegation input
  | .drawDown input _ => .drawDown input
  | .revokeDelegation input _ => .revokeDelegation input

def DelegationLabel.ofCall (id : Nat) : DelegationLabel → Bool
  | .pass _ | .land _ => true
  | .call _ _ => false
  | .statement other _ | .confirm other _ | .abandon other | .fail other => other = id

namespace DelegationWorld

def ending (s s' : DelegationWorld) : Option DelegationResult :=
  if s'.returned.length = s.returned.length then none else s'.returned.head?

def finish (s : DelegationWorld) (id : Nat) : List DelegationLabel → Option (Option DelegationResult × DelegationWorld)
  | [] => none
  | label :: script =>
    if label.ofCall id then
      match delegationStep s label with
      | none => none
      | some s' =>
        match s'.calls.find? id with
        | some _ => s'.finish id script
        | none => if script.isEmpty then some (s.ending s', s') else none
    else none

def perform (s : DelegationWorld) (id : Nat) (request : DelegationRequest) (script : List DelegationLabel) :
    Option (Option DelegationResult × DelegationWorld) :=
  (delegationStep s (.call id request)).bind fun s' => s'.finish id script

end DelegationWorld

inductive DelegationEnd (db : DelegationDb) (id : Nat) (request : DelegationRequest) :
    Option DelegationResult → DelegationDb → Prop where
  | threw : DelegationEnd db id request none db
  | returned {s : DelegationWorld} {call : DelegationCall} {answer : Nat} {db' : DelegationDb} {result : DelegationResult}
      (same : s.db = db) (named : call.id = id) (asked : call.work.request = request)
      (stated : s.statement call answer = some (.committed db' result)) :
      DelegationEnd db id request (some result) db'

theorem request_of_advance {s : DelegationWorld} {call : DelegationCall} {answer : Nat} {work work' : DelegationWork}
    (advance : DelegationAdvance s call answer work work') : work'.request = work.request := by
  cases advance <;> rfl

theorem request_confirmed (txHash : Hash) (work : DelegationWork) : (work.confirmed txHash).request = work.request := by
  cases work with
  | recordSignedDelegation input phase => cases phase <;> rfl
  | drawDown input phase => cases phase <;> rfl
  | revokeDelegation input phase => cases phase <;> rfl

theorem end_of_finish {s s' : DelegationWorld} {id : Nat} {call : DelegationCall} {script : List DelegationLabel}
    {ended : Option DelegationResult} (found : s.calls.find? id = some call)
    (finished : s.finish id script = some (ended, s')) : DelegationEnd s.db id call.work.request ended s'.db := by
  induction script generalizing s call with
  | nil => cases finished
  | cons label script ih =>
    rw [DelegationWorld.finish] at finished
    split at finished
    rotate_left
    · cases finished
    rename_i own
    split at finished
    · cases finished
    rename_i s₁ taken
    have stays : ∀ call', s₁.calls.find? id = some call' → s₁.db = s.db → call'.work.request = call.work.request →
        DelegationEnd s.db id call.work.request ended s'.db := by
      intro call' found' same asked
      rw [found'] at finished
      simpa only [same, asked] using ih found' finished
    have leaves : s₁.calls.find? id = none → s₁.db = s.db → s₁.returned.length = s.returned.length →
        DelegationEnd s.db id call.work.request ended s'.db := by
      intro gone same silent
      rw [gone] at finished
      simp only at finished
      split at finished
      · obtain ⟨rfl, rfl⟩ := Prod.mk.inj (Option.some.inj finished)
        rw [DelegationWorld.ending, if_pos silent, same]
        exact .threw
      · cases finished
    cases move_of_step taken with
    | pass after => exact stays call found rfl rfl
    | land sent landed => exact stays call found rfl rfl
    | call unused begun => cases own
    | @goOn other answer call' work found' stated =>
      obtain rfl : other = id := by simpa [DelegationLabel.ofCall] using own
      obtain rfl : call' = call := Option.some.inj (found'.symm.trans found)
      have named : call'.id = other := Table.key_of_find? found
      refine stays { call' with work } ?_ rfl (request_of_advance (advance_of_statement stated))
      subst named
      exact Table.find?_put_self found
    | @failed other answer call' failure found' stated =>
      obtain rfl : other = id := by simpa [DelegationLabel.ofCall] using own
      exact leaves (by simp [DelegationWorld.dropped]) rfl rfl
    | @committed other answer call' db result found' stated =>
      obtain rfl : other = id := by simpa [DelegationLabel.ofCall] using own
      obtain rfl : call' = call := Option.some.inj (found'.symm.trans found)
      simp only [DelegationWorld.dropped, Table.find?_remove_self] at finished
      split at finished
      · obtain ⟨rfl, rfl⟩ := Prod.mk.inj (Option.some.inj finished)
        have spoke : (s.ending { s.dropped other with db, returned := result :: s.returned }) = some result := by
          simp [DelegationWorld.ending]
        rw [DelegationWorld.dropped] at spoke
        rw [spoke]
        exact .returned rfl (Table.key_of_find? found) rfl stated
      · cases finished
    | @confirm other txHash call' transaction chain found' sends landed =>
      obtain rfl : other = id := by simpa [DelegationLabel.ofCall] using own
      obtain rfl : call' = call := Option.some.inj (found'.symm.trans found)
      have named : call'.id = other := Table.key_of_find? found
      refine stays { call' with work := call'.work.confirmed txHash } ?_ rfl (request_confirmed txHash call'.work)
      subst named
      exact Table.find?_put_self found
    | @abandon other call' transaction found' sends =>
      obtain rfl : other = id := by simpa [DelegationLabel.ofCall] using own
      exact leaves (by simp [DelegationWorld.dropped]) rfl rfl
    | @fail other call' found' =>
      obtain rfl : other = id := by simpa [DelegationLabel.ofCall] using own
      exact leaves (by simp [DelegationWorld.dropped]) rfl rfl

theorem end_of_perform {s s' : DelegationWorld} {id : Nat} {request : DelegationRequest}
    {script : List DelegationLabel} {ended : Option DelegationResult}
    (performed : s.perform id request script = some (ended, s')) : DelegationEnd s.db id request ended s'.db := by
  obtain ⟨s₁, taken, finished⟩ := Option.bind_eq_some_iff.1 performed
  cases move_of_step taken with
  | @call _ _ calls unused begun =>
    have asked : request.work.request = request := by cases request <;> rfl
    have found : calls.find? id = some ⟨id, s.now, request.work⟩ := Table.find?_insert?_self begun
    simpa only [asked] using end_of_finish found finished

theorem threw_end {db db' : DelegationDb} {id : Nat} {request : DelegationRequest}
    (ended : DelegationEnd db id request none db') : db' = db := by
  cases ended
  rfl

theorem grant_end {db db' : DelegationDb} {id : Nat} {input : RecordSignedDelegationInput} {result : DelegationResult}
    (ended : DelegationEnd db id (.recordSignedDelegation input) (some result) db') :
    ∃ payer balance nonce delegations, result = .granted (delegationRow id input payer nonce) balance ∧
      db.delegations.insert? (delegationRow id input payer nonce) = some delegations ∧ db' = { db with delegations } := by
  cases ended with
  | returned same named asked stated =>
    have committed := commit_of_statement stated
    rw [named] at committed
    generalize written : DelegationCall.work _ = work at committed asked
    cases committed with
    | granted inserted =>
      cases asked
      subst same
      obtain ⟨delegations, fresh, rfl⟩ := insertDelegation_ok inserted
      exact ⟨_, _, _, delegations, rfl, fresh, rfl⟩
    | drawn | wasRevoked | revoked => cases asked

theorem revoked_of_setRevoked {db : DelegationDb} {id : DelegationId} {row : AgentDelegationRow}
    (member : row ∈ (db.setRevoked id).delegations) :
    (row.id = id → row.status = .revoked) ∧ (row.id ≠ id → row ∈ db.delegations) := by
  cases found : db.delegations.find? id with
  | none =>
    rw [DelegationDb.setRevoked, found] at member
    exact ⟨fun same => absurd same (Table.find?_eq_none.1 found row member), fun _ => member⟩
  | some old =>
    rw [setRevoked_of_find? found] at member
    obtain ⟨kept, other⟩ | ⟨rfl, -⟩ := Table.mem_put.1 member
    · rw [Table.key_of_find? found] at other
      exact ⟨fun same => absurd same other, fun _ => kept⟩
    · exact ⟨fun _ => rfl, fun other => absurd (Table.key_of_find? found) other⟩

theorem revoke_end {db db' : DelegationDb} {id : Nat} {input : RevokeDelegationInput} {result : DelegationResult}
    (ended : DelegationEnd db id (.revokeDelegation input) (some result) db') : ∀ row ∈ db'.delegations,
      (row.id = input.delegationId → row.status = .revoked) ∧ (row.id ≠ input.delegationId → row ∈ db.delegations) := by
  cases ended with
  | @returned s call answer _ _ same named asked stated =>
    subst same
    intro row member
    cases doing : call.work with
    | recordSignedDelegation | drawDown =>
      rw [doing] at asked
      cases asked
    | revokeDelegation other phase =>
      rw [doing] at asked
      cases asked
      simp only [DelegationWorld.statement, doing] at stated
      cases phase with
      | lockdown delegation => cases stated
      | update delegation =>
        obtain ⟨rfl, -⟩ := DelegationOutcome.committed.inj (Option.some.inj stated)
        exact revoked_of_setRevoked member
      | lock =>
        rw [revokeStatement] at stated
        split at stated
        · cases stated
        split at stated
        · cases stated
        rename_i delegation found
        split at stated
        · rename_i already
          obtain ⟨rfl, -⟩ := DelegationOutcome.committed.inj (Option.some.inj stated)
          refine ⟨fun mine => ?_, fun _ => member⟩
          have one : row = delegation := Option.some.inj ((Table.find?_of_mem member).symm.trans (mine ▸ found))
          exact one ▸ already
        · split at stated <;> cases stated

end AgentOps.Payments
