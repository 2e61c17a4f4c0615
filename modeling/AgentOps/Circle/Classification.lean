import AgentOps.Circle.Settlement

namespace AgentOps.Circle
open Lib Payments

/-! # The status of a payment, by what has come back -/

variable {decode : DecodeHeader} {input : SettlementInput} {seller : SellerAnswer} {receipt : Receipt}
  {network expectedPayer : String} {answer : SellerResponse}

def receiptOf? (decode : DecodeHeader) (answer : SellerResponse) : Option Receipt :=
  match paidHttpResponseHeader answer with
  | none => none
  | some encodedReceipt => if encodedReceipt = "" then none else (decode encodedReceipt).bind Receipt.ofJson?

def Denied (decode : DecodeHeader) (network : String) (seller : SellerAnswer) : Prop :=
  ∃ answer receipt, seller = .ok answer ∧ receiptOf? decode answer = some receipt ∧ receipt.network = network ∧
    receipt.success = false

def Receipt.WellFormed (receipt : Receipt) : Prop :=
  receipt.success = true → receipt.network ≠ "" ∧ blank receipt.transaction = false ∧ blank receipt.payer = false

structure Receipt.Confirms (receipt : Receipt) (network expectedPayer : String) : Prop where
  success : receipt.success = true
  network : receipt.network = network
  transaction : blank receipt.transaction = false
  payer : receipt.payer.map lower = some (lower expectedPayer)

def Confirmed (decode : DecodeHeader) (network expectedPayer : String) (seller : SellerAnswer) : Prop :=
  ∃ answer receipt, seller = .ok answer ∧ receiptOf? decode answer = some receipt ∧ receipt.WellFormed ∧
    receipt.Confirms network expectedPayer

theorem developerResponsePayment_unread (network : String) (unread : receiptOf? decode answer = none) :
    ∃ code network', developerResponsePayment decode network expectedPayer answer =
      ⟨some code, network', none, .unknown, none⟩ ∧ storableText code = true := by
  cases header : paidHttpResponseHeader answer with
  | none => exact ⟨"payment_response_missing", network, by simp only [developerResponsePayment, header], by decide⟩
  | some encodedReceipt =>
    simp only [receiptOf?, header] at unread
    simp only [developerResponsePayment, header]
    by_cases present : encodedReceipt = ""
    · exact ⟨_, _, if_pos present, by decide⟩
    · rw [if_neg present] at unread
      simp only [if_neg present]
      cases decodes : decode encodedReceipt with
      | none => exact ⟨_, _, rfl, by decide⟩
      | some decoded =>
        rw [decodes, Option.bind_some] at unread
        exact ⟨"payment_response_malformed", (networkOf? decoded).getD network, by simp [unread], by decide⟩

theorem developerResponsePayment_read (read : receiptOf? decode answer = some receipt) :
    developerResponsePayment decode network expectedPayer answer =
      if receipt.incomplete then receipt.payment .unknown (some "payment_response_malformed")
      else if receipt.network ≠ network then receipt.payment .unknown (some "payment_response_network_mismatch")
      else if receipt.paidByOther expectedPayer then receipt.payment .unknown (some "payment_response_payer_mismatch")
      else if receipt.success then receipt.payment .settled none
      else receipt.payment .failed (some (receipt.errorReason.getD "payment_settlement_failed")) := by
  cases header : paidHttpResponseHeader answer with
  | none => simp [receiptOf?, header] at read
  | some encodedReceipt =>
    simp only [receiptOf?, header] at read
    split_ifs at read with present
    obtain ⟨decoded, decodes, formed⟩ := Option.bind_eq_some_iff.mp read
    simp only [developerResponsePayment, header, if_neg present, decodes, formed]

theorem developerResponsePayment_status (read : receiptOf? decode answer = some receipt) :
    (developerResponsePayment decode network expectedPayer answer).status =
      if receipt.incomplete then .unknown
      else if receipt.network ≠ network then .unknown
      else if receipt.paidByOther expectedPayer then .unknown
      else if receipt.success then .settled
      else .failed := by
  rw [developerResponsePayment_read read]
  split_ifs <;> rfl

theorem Receipt.wellFormed_iff : receipt.WellFormed ↔ receipt.incomplete = false := by
  unfold Receipt.WellFormed Receipt.incomplete
  cases receipt.success <;> simp [and_assoc]

theorem Receipt.paidByOther_iff (success : receipt.success = true) (payer : blank receipt.payer = false) :
    receipt.paidByOther expectedPayer = false ↔ receipt.payer.map lower = some (lower expectedPayer) := by
  unfold Receipt.paidByOther
  cases named : receipt.payer with
  | none => simp [named, blank] at payer
  | some payer => simp [success]

theorem developerResponsePayment_settled : (developerResponsePayment decode network expectedPayer answer).status = .settled ↔
    Confirmed decode network expectedPayer (.ok answer) := by
  constructor
  · intro settled
    cases read : receiptOf? decode answer with
    | none =>
      obtain ⟨code, network', same, -⟩ := developerResponsePayment_unread network read
      rw [same] at settled
      cases settled
    | some receipt =>
      rw [developerResponsePayment_status read] at settled
      split_ifs at settled with incomplete elsewhere other success
      have formed : receipt.WellFormed := Receipt.wellFormed_iff.mpr (Bool.eq_false_of_not_eq_true incomplete)
      have payer := (Receipt.paidByOther_iff success (formed success).2.2).mp (Bool.eq_false_of_not_eq_true other)
      exact ⟨answer, receipt, rfl, read, formed, success, not_not.mp elsewhere, (formed success).2.1, payer⟩
  · rintro ⟨_, receipt, ⟨⟩, read, formed, success, rfl, -, payer⟩
    have own := (Receipt.paidByOther_iff success (formed success).2.2).mpr payer
    simp [developerResponsePayment_status read, Receipt.wellFormed_iff.mp formed, own, success]

theorem developerResponsePayment_failed : (developerResponsePayment decode network expectedPayer answer).status = .failed ↔
    Denied decode network (.ok answer) := by
  constructor
  · intro failed
    cases read : receiptOf? decode answer with
    | none =>
      obtain ⟨code, network', same, -⟩ := developerResponsePayment_unread network read
      rw [same] at failed
      cases failed
    | some receipt =>
      rw [developerResponsePayment_status read] at failed
      split_ifs at failed with incomplete elsewhere other success
      exact ⟨answer, receipt, rfl, read, not_not.mp elsewhere, Bool.eq_false_of_not_eq_true success⟩
  · rintro ⟨_, receipt, ⟨⟩, read, rfl, unsuccessful⟩
    simp [developerResponsePayment_status read, Receipt.incomplete, Receipt.paidByOther, unsuccessful]

theorem status_unknown {status : ProviderPaymentStatus} : status = .unknown ↔ status ≠ .settled ∧ status ≠ .failed := by
  cases status <;> simp

/-- A payment is settled exactly by a confirming receipt, failed exactly where nothing was sent or the receipt denies it,
and its outcome is not known otherwise. The request is sent as soon as it is signed. -/
theorem settlement_classified {ε : Type} (decode : DecodeHeader) (input : SettlementInput) (exchange : Exchange) :
    ∃ result payment, (@executeSignedX402 ε decode input exchange).value = .ok result ∧ result.payment = some payment ∧
      (payment.status = .settled ↔ ∃ seller, (@executeSignedX402 ε decode input exchange).sent = some seller ∧
        Confirmed decode input.network input.expectedPayer seller) ∧
      (payment.status = .failed ↔ (@executeSignedX402 ε decode input exchange).sent = none ∨
        ∃ seller, (@executeSignedX402 ε decode input exchange).sent = some seller ∧ Denied decode input.network seller) ∧
      (payment.status = .unknown ↔ ∃ seller, (@executeSignedX402 ε decode input exchange).sent = some seller ∧
        ¬Confirmed decode input.network input.expectedPayer seller ∧ ¬Denied decode input.network seller) ∧
      (@executeSignedX402 ε decode input exchange).sent =
        (exchange.createPayload.toOption.map fun _ => exchange.execute) := by
  unfold executeSignedX402
  cases exchange.createPayload with
  | error code => exact ⟨_, _, rfl, rfl, by simp, by simp, by simp, rfl⟩
  | ok =>
    cases exchange.execute with
    | error code =>
      refine ⟨_, _, rfl, rfl, ?_⟩
      simp [Confirmed, Denied, Except.toOption]
    | ok answer =>
      refine ⟨_, developerResponsePayment decode input.network input.expectedPayer answer, rfl, rfl, ?_⟩
      simp only [Option.some.injEq, exists_eq_left', reduceCtorEq, false_or]
      rw [status_unknown, ne_eq, ne_eq, developerResponsePayment_settled, developerResponsePayment_failed]
      exact ⟨Iff.rfl, Iff.rfl, Iff.rfl, rfl⟩

end AgentOps.Circle
