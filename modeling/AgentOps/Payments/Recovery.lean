import AgentOps.Payments.CallSteps
import AgentOps.Payments.Coherence

namespace AgentOps.Payments
open Lib Identity

variable {hashes : Hashes} {db db' : Db} {s s' : State} {call : Call} {t : X402AttemptRow}
  {settlement : RuntimeX402SettlementResult} {account : AccountId}

/-! # The end of a payment call -/

structure RuntimeX402SettlementResult.Storable (settlement : RuntimeX402SettlementResult) : Prop where
  reported : ∀ text ∈ reportedTexts settlement, storableText text = true
  network : ∀ answer, settlement.payment = some answer → answer.status = .settled → storableText answer.network = true
  error : recordedStatus settlement ≠ .settled → storableText (terminalErrorCode settlement) = true

section Finalize

variable {now : Time} {auth : ConnectionAuthResult} {payment : PreparedPaidHttpPayment} {eventId : EventId}
  {result : RuntimeX402PaymentResult}

end Finalize

section Statements

variable {payment : PreparedPaidHttpPayment} {effect : Effect} {event : CallEvent} {eventId : EventId}

def State.after (s : State) (call : Call) (effect : Effect) : State :=
  ⟨effect.approvals, effect.db, s.calls.put { call with phase := effect.phase }⟩

end Statements

end AgentOps.Payments
