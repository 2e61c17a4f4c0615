import AgentOps.Payments.ApprovalBinding
import AgentOps.Payments.AttemptSteps

namespace AgentOps.Payments
open Lib Identity

variable {hashes : Hashes} {db db' : Db} {s s' : State} {call : Call} {label : Label} {t t' : X402AttemptRow}
  {approvals approvals' : Approvals.Requests}

/-! # Submitted attempts and their approvals -/

theorem AttemptStep.revises (moved : AttemptStep s label db' t t') : Revises t t' := by
  cases moved with
  | kept => exact .refl t
  | scrubbed => exact scrub_revises t _
  | cancelled reserved =>
    refine ⟨rfl, .inr ?_, fun early => ?_⟩
    · simp [reserved, X402AttemptStatus.stage]
    · simp [X402AttemptStatus.stage] at early
  | retryable => exact withResumeReason_revises t _
  | submitted taken found phase names reserved => exact submitting_revises reserved
  | evidenced => exact withEvidence_revises t _ _
  | finalized taken found phase names submitting => exact finalAttempt_revises submitting (recordedStatus_stage _)

theorem Step.attempt_origin (taken : Step hashes s label s') (sound : Sound s) (member : t' ∈ s'.db.attempts) :
    (∃ id input gate mode reservationId, t' = preparedAttempt id input gate mode reservationId) ∨
      ∃ t ∈ s.db.attempts, AttemptStep s label s'.db t t' := by
  cases found : s.db.attempts.find? t'.id with
  | some t =>
    have sameId : t.id = t'.id := Table.key_of_find? found
    have located : s.db.attempts.find? t.id = some t := Table.find?_of_mem (Table.mem_of_find? found)
    obtain ⟨t'', found'', moved⟩ := taken.attempt sound located
    rw [sameId, Table.find?_of_mem member] at found''
    obtain rfl := Option.some.inj found''
    exact .inr ⟨t, Table.mem_of_find? found, moved⟩
  | none =>
    left
    have absent (amends : Amends s.db s'.db) : False := by
      obtain ⟨t, located, -⟩ := amends.attempts.source (Table.find?_of_mem member)
      rw [found] at located
      cases located
    have unwritten (same : s'.db.attempts = s.db.attempts) : False := by
      have stored := Table.find?_of_mem member
      rw [same, found] at stored
      cases stored
    cases taken with
    | approvals | opened => exact (unwritten rfl).elim
    | operator write =>
      rcases write.amends with ⟨amends, -⟩ | ⟨id, reservationId, onchain, -, funded⟩
      · exact (absent amends).elim
      · cases fundEscrowJob_ok funded with
        | funded => exact (unwritten rfl).elim
    | called located taken =>
      rcases sound.call_amends located taken.write with amends | ⟨tx, quote, source, gate, attemptId, reservationId, payment,
        prepared⟩
      · exact (absent amends).elim
      · obtain ⟨attempts, reservations, accounts, inserted, -, -, tables⟩ := prepared.tables
        rw [tables] at member
        rcases (Table.mem_insert? inserted).mp member with rfl | stored
        · exact ⟨_, _, _, _, _, rfl⟩
        · rw [Table.find?_of_mem stored] at found
          cases found

theorem Step.attempt_source (taken : Step hashes s label s') (sound : Sound s) (member : t' ∈ s'.db.attempts) :
    (t'.status = .reserved ∧ t'.retained = none ∧ t'.payment_metadata.decisionId ≠ none) ∨
      ∃ t ∈ s.db.attempts, AttemptStep s label s'.db t t' := by
  refine (taken.attempt_origin sound member).imp_left ?_
  rintro ⟨id, input, gate, mode, reservationId, rfl⟩
  exact ⟨rfl, rfl, by simp [preparedAttempt, preparedMetadata, X402PaymentMetadata.merge]⟩

end AgentOps.Payments
