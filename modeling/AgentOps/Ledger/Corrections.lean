import AgentOps.Lib.Rounding
import AgentOps.Lib.Transition
import AgentOps.Payments.Tables

namespace AgentOps.Ledger
open Lib Identity Payments

/-! # Postings and their corrections -/

abbrev PostingId := Nat

abbrev JobId := Nat

structure Posting where
  id : PostingId
  org_id : OrgId
  agent_id : Option AgentId
  mode : PaymentMode
  chain : Option PaymentChain
  entry_type : LedgerEntryType
  amount_usdc : ℤ
  reservation_id : Option ReservationId
  attempt_id : Option AttemptId
  job_id : Option JobId
  corrects_posting_id : Option PostingId
  reason_code : String
  created_by : String
  deriving DecidableEq

structure WritePostingInput where
  orgId : OrgId
  agentId : Option AgentId := none
  mode : PaymentMode
  chain : Option PaymentChain := none
  entryType : LedgerEntryType
  amountUsdc : ℤ
  reservationId : Option ReservationId := none
  attemptId : Option AttemptId := none
  jobId : Option JobId := none
  reasonCode : String
  createdBy : String
  deriving DecidableEq

structure CorrectPostingInput where
  postingId : PostingId
  reasonCode : String
  createdBy : Option String := none
  deriving DecidableEq

structure DeriveSpentUsdcInput where
  orgId : OrgId
  agentId : AgentId
  mode : PaymentMode
  deriving DecidableEq

/-! ## The statements

The rows of `ledger_postings` stand the latest first. None is ever changed or deleted. -/

def insertPosting (rows : List Posting) (row : Posting) : Except Failure (List Posting) :=
  if rows.any (·.id = row.id) then .error (.constraint "ledger_postings_pkey")
  else if 10 ^ 20 ≤ row.amount_usdc.natAbs then .error (.constraint "numeric_value_out_of_range")
  else if row.reservation_id = none ∧ row.attempt_id = none ∧ row.job_id = none ∧ row.corrects_posting_id = none then
    .error (.constraint "ledger_postings_check")
  else .ok (row :: rows)

def WritePostingInput.row (input : WritePostingInput) (id : PostingId) : Posting where
  id
  org_id := input.orgId
  agent_id := input.agentId
  mode := input.mode
  chain := input.chain
  entry_type := input.entryType
  amount_usdc := input.amountUsdc
  reservation_id := input.reservationId
  attempt_id := input.attemptId
  job_id := input.jobId
  corrects_posting_id := none
  reason_code := input.reasonCode
  created_by := input.createdBy

def writePosting (rows : List Posting) (id : PostingId) (input : WritePostingInput) : Except Failure (List Posting) :=
  insertPosting rows (input.row id)

/-- `(-Number(amount)).toFixed(6)`, read back as a `numeric`. The amounts of the column are finite as numbers. -/
def offsetAmount (amount : ℤ) : ℤ :=
  match numericNumber amount with
  | .finite value => toFixedMillionths (-value)
  | _ => 0

def CorrectPostingInput.row (input : CorrectPostingInput) (id : PostingId) (original : Posting) : Posting where
  id
  org_id := original.org_id
  agent_id := original.agent_id
  mode := original.mode
  chain := original.chain
  entry_type := .correction
  amount_usdc := offsetAmount original.amount_usdc
  reservation_id := none
  attempt_id := none
  job_id := none
  corrects_posting_id := some input.postingId
  reason_code := input.reasonCode
  created_by := input.createdBy.getD "system"

def correctPosting (rows : List Posting) (id : PostingId) (input : CorrectPostingInput) : Except Failure (List Posting) :=
  match rows.find? (·.id = input.postingId) with
  | none => .error (.thrown "ledger_posting_not_found")
  | some original => insertPosting rows (input.row id original)

/-- `LEFT JOIN ledger_postings corrected ON corrected.id = p.corrects_posting_id` -/
def corrected (rows : List Posting) (posting : Posting) : Option Posting :=
  posting.corrects_posting_id.bind fun id => rows.find? (·.id = id)

def Posting.isOf (posting : Posting) (input : DeriveSpentUsdcInput) : Bool :=
  posting.org_id = input.orgId && posting.agent_id = some input.agentId && posting.mode = input.mode

def counts (rows : List Posting) (input : DeriveSpentUsdcInput) (posting : Posting) : Bool :=
  posting.isOf input && (posting.entry_type = .settle || (corrected rows posting).any (·.entry_type = .settle))

/-- `SUM(p.amount_usdc)` -/
def derivedTotal (rows : List Posting) (input : DeriveSpentUsdcInput) : ℤ :=
  ((rows.filter (counts rows input)).map (·.amount_usdc)).sum

def deriveSpentUsdc (rows : List Posting) (input : DeriveSpentUsdcInput) : String :=
  toFixed6 (numericNumber (derivedTotal rows input))

inductive LedgerLabel where
  | post (id : PostingId) (input : WritePostingInput)
  | correct (id : PostingId) (input : CorrectPostingInput)

/-- A call that throws leaves the table as it is. -/
def ledgerStep (rows : List Posting) : LedgerLabel → Option (List Posting)
  | .post id input => some ((writePosting rows id input).toOption.getD rows)
  | .correct id input => some ((correctPosting rows id input).toOption.getD rows)

/-! ## What corrections are for -/

def descends : List Posting → PostingId → PostingId → Bool
  | [], _, _ => false
  | row :: older, id, ancestor =>
    if row.id = id then row.corrects_posting_id.any fun named => named = ancestor || descends older named ancestor
    else descends older id ancestor

def settles (input : DeriveSpentUsdcInput) (posting : Posting) : Bool := posting.isOf input && posting.entry_type = .settle

def correctionsUnder (rows : List Posting) (posting : Posting) : ℤ :=
  ((rows.filter fun row => descends rows row.id posting.id).map (·.amount_usdc)).sum

def correctedTotal (rows : List Posting) (input : DeriveSpentUsdcInput) : ℤ :=
  ((rows.filter (settles input)).map fun row => row.amount_usdc + correctionsUnder rows row).sum

structure Cancels (rows : List Posting) : Prop where
  negated : ∀ correction ∈ rows, ∀ posting ∈ corrected rows correction, correction.amount_usdc = -posting.amount_usdc
  derived : ∀ input, deriveSpentUsdc rows input = numericText (correctedTotal rows input)

/-! ## The table as it grows -/

variable {rows : List Posting} {row posting : Posting} {input : DeriveSpentUsdcInput}

structure Follows (rows : List Posting) (row : Posting) : Prop where
  column : |row.amount_usdc| < 10 ^ 20
  fresh : ∀ other ∈ rows, other.id ≠ row.id
  corrects : ∀ named ∈ row.corrects_posting_id, ∃ original ∈ rows, original.id = named
  settled : row.entry_type = .settle → row.corrects_posting_id = none

def Appended : List Posting → Prop
  | [] => True
  | row :: rows => Follows rows row ∧ Appended rows

structure Accepts (rows : List Posting) (row : Posting) : Prop where
  fresh : ∀ other ∈ rows, other.id ≠ row.id
  column : |row.amount_usdc| < 10 ^ 20
  refers : row.reservation_id ≠ none ∨ row.attempt_id ≠ none ∨ row.job_id ≠ none ∨ row.corrects_posting_id ≠ none

theorem insertPosting_accepts (accepts : Accepts rows row) : insertPosting rows row = .ok (row :: rows) := by
  have fresh := accepts.fresh
  have column := accepts.column
  have refers := accepts.refers
  have known : ¬rows.any (·.id = row.id) = true := by simpa using fresh
  have narrow : ¬10 ^ 20 ≤ row.amount_usdc.natAbs := by
    rw [Int.abs_eq_natAbs] at column
    omega
  rw [insertPosting, if_neg known, if_neg narrow, if_neg (by tauto)]

theorem insertPosting_refuses (refused : ¬Accepts rows row) : ∃ failure, insertPosting rows row = .error failure := by
  unfold insertPosting
  split_ifs with known wide nothing
  · exact ⟨_, rfl⟩
  · exact ⟨_, rfl⟩
  · exact ⟨_, rfl⟩
  · have narrow : |row.amount_usdc| < 10 ^ 20 := by
      rw [Int.abs_eq_natAbs]
      omega
    exact absurd ⟨by simpa using known, narrow, by tauto⟩ refused

/-! ## Descent -/

theorem descends_cons_ne {id ancestor : PostingId} (other : row.id ≠ id) :
    descends (row :: rows) id ancestor = descends rows id ancestor := by
  rw [descends, if_neg other]

theorem descends_cons_self {ancestor : PostingId} : descends (row :: rows) row.id ancestor =
    row.corrects_posting_id.any fun named => named = ancestor || descends rows named ancestor := by
  rw [descends, if_pos rfl]

theorem descends_absent (appended : Appended rows) {id ancestor : PostingId} (absent : ∀ other ∈ rows, other.id ≠ ancestor) :
    descends rows id ancestor = false := by
  induction rows generalizing id with
  | nil => rfl
  | cons row rows ih =>
    have later := fun {id} => @ih appended.2 id fun other member => absent other (List.mem_cons_of_mem _ member)
    by_cases here : row.id = id
    · subst here
      rw [descends_cons_self, Option.any_eq_false]
      intro named correction
      obtain ⟨original, member, rfl⟩ := appended.1.corrects named correction
      simp [later, absent original (List.mem_cons_of_mem _ member)]
    · rw [descends_cons_ne here, later]

theorem descends_root {id ancestor : PostingId} (root : ∀ other ∈ rows, other.id = id → other.corrects_posting_id = none) :
    descends rows id ancestor = false := by
  induction rows with
  | nil => rfl
  | cons row rows ih =>
    by_cases here : row.id = id
    · subst here
      rw [descends_cons_self, root row List.mem_cons_self rfl]
      rfl
    · rw [descends_cons_ne here]
      exact ih fun other member => root other (List.mem_cons_of_mem _ member)

/-! ## What a row adds -/

theorem Appended.corrects (appended : Appended rows) :
    ∀ posting ∈ rows, ∀ named ∈ posting.corrects_posting_id, ∃ original ∈ rows, original.id = named := by
  induction rows with
  | nil => exact fun _ member => absurd member List.not_mem_nil
  | cons row rows ih =>
    intro posting member named correction
    have older : ∃ original ∈ rows, original.id = named := by
      rcases List.mem_cons.mp member with rfl | member
      · exact appended.1.corrects named correction
      · exact ih appended.2 posting member named correction
    obtain ⟨original, member, same⟩ := older
    exact ⟨original, List.mem_cons_of_mem _ member, same⟩

theorem Appended.settled (appended : Appended rows) :
    ∀ posting ∈ rows, posting.entry_type = .settle → posting.corrects_posting_id = none := by
  induction rows with
  | nil => exact fun _ member => absurd member List.not_mem_nil
  | cons row rows ih =>
    intro posting member
    rcases List.mem_cons.mp member with rfl | member
    · exact appended.1.settled
    · exact ih appended.2 posting member

theorem Appended.nodup (appended : Appended rows) : (rows.map (·.id)).Nodup := by
  induction rows with
  | nil => exact List.nodup_nil
  | cons row rows ih =>
    rw [List.map_cons, List.nodup_cons, List.mem_map]
    exact ⟨fun ⟨other, member, same⟩ => appended.1.fresh other member same, ih appended.2⟩

theorem corrected_cons (appended : Appended (row :: rows)) (member : posting ∈ row :: rows) :
    corrected (row :: rows) posting = corrected rows posting := by
  unfold corrected
  cases correction : posting.corrects_posting_id with
  | none => rfl
  | some named =>
    have other : row.id ≠ named := by
      rcases List.mem_cons.mp member with rfl | member
      · obtain ⟨original, older, rfl⟩ := appended.1.corrects named correction
        exact (appended.1.fresh original older).symm
      · obtain ⟨original, older, rfl⟩ := appended.2.corrects posting member named correction
        exact (appended.1.fresh original older).symm
    rw [Option.bind_some, Option.bind_some, List.find?_cons_of_neg (by simpa using other)]

theorem counts_cons (appended : Appended (row :: rows)) (member : posting ∈ row :: rows) :
    counts (row :: rows) input posting = counts rows input posting := by
  rw [counts, counts, corrected_cons appended member]

theorem derivedTotal_cons (appended : Appended (row :: rows)) : derivedTotal (row :: rows) input =
    (if counts rows input row = true then row.amount_usdc else 0) + derivedTotal rows input := by
  have older : rows.filter (counts (row :: rows) input) = rows.filter (counts rows input) :=
    List.filter_congr fun posting member => counts_cons appended (List.mem_cons_of_mem _ member)
  unfold derivedTotal
  rw [List.filter_cons, counts_cons appended List.mem_cons_self, older]
  split_ifs
  · rw [List.map_cons, List.sum_cons]
  · rw [zero_add]

theorem correctionsUnder_cons (follows : Follows rows row) : correctionsUnder (row :: rows) posting =
    (if descends (row :: rows) row.id posting.id = true then row.amount_usdc else 0) + correctionsUnder rows posting := by
  have older : rows.filter (fun other => descends (row :: rows) other.id posting.id) =
      rows.filter fun other => descends rows other.id posting.id :=
    List.filter_congr fun other member => descends_cons_ne (follows.fresh other member).symm
  unfold correctionsUnder
  rw [List.filter_cons, older]
  split_ifs
  · rw [List.map_cons, List.sum_cons]
  · rw [zero_add]

theorem correctionsUnder_self (appended : Appended (row :: rows)) : correctionsUnder (row :: rows) row = 0 := by
  have older : rows.filter (fun other => descends rows other.id row.id) = [] :=
    List.filter_eq_nil_iff.mpr fun other _ => by rw [descends_absent appended.2 appended.1.fresh]; exact Bool.false_ne_true
  have own : descends (row :: rows) row.id row.id = false := by
    rw [descends_cons_self, Option.any_eq_false]
    intro named correction
    obtain ⟨original, member, rfl⟩ := appended.1.corrects named correction
    simp [appended.1.fresh original member, descends_absent appended.2 appended.1.fresh]
  rw [correctionsUnder_cons appended.1, own, correctionsUnder, older]
  rfl

theorem sum_ite {α : Type} (amounts : α → ℤ) (p : α → Bool) (amount : ℤ) (l : List α) :
    (l.map fun a => amounts a + if p a = true then amount else 0).sum = (l.map amounts).sum + l.countP p * amount := by
  induction l with
  | nil => simp
  | cons a l ih =>
    rw [List.map_cons, List.sum_cons, ih, List.map_cons, List.sum_cons, List.countP_cons]
    split_ifs <;> push_cast <;> ring

theorem correctedTotal_cons (appended : Appended (row :: rows)) : correctedTotal (row :: rows) input =
    (if settles input row = true then row.amount_usdc else 0) + (correctedTotal rows input +
      (rows.filter (settles input)).countP (fun settled => descends (row :: rows) row.id settled.id) * row.amount_usdc) := by
  have older : ((rows.filter (settles input)).map fun settled => settled.amount_usdc + correctionsUnder (row :: rows) settled).sum =
      correctedTotal rows input +
        (rows.filter (settles input)).countP (fun settled => descends (row :: rows) row.id settled.id) * row.amount_usdc := by
    rw [correctedTotal, ← sum_ite]
    congr 1
    refine List.map_congr_left fun settled _ => ?_
    rw [correctionsUnder_cons appended.1]
    ring
  unfold correctedTotal
  rw [List.filter_cons]
  split_ifs
  · rw [List.map_cons, List.sum_cons, older, correctionsUnder_self appended, add_zero, correctedTotal]
  · rw [older, zero_add, correctedTotal]

/-! ## When the totals agree -/

def Agrees (rows : List Posting) : Prop := ∀ input, derivedTotal rows input = correctedTotal rows input

theorem cancels_iff (agrees : Agrees rows) : Cancels rows ↔
    (∀ correction ∈ rows, ∀ posting ∈ corrected rows correction, correction.amount_usdc = -posting.amount_usdc) ∧
      ∀ input, KeepsMillionths (correctedTotal rows input) := by
  have derived (input : DeriveSpentUsdcInput) : deriveSpentUsdc rows input = numericText (correctedTotal rows input) ↔
      KeepsMillionths (correctedTotal rows input) := by
    rw [deriveSpentUsdc, agrees, toFixed6_eq_iff]
  constructor
  · exact fun cancels => ⟨cancels.negated, fun input => (derived input).mp (cancels.derived input)⟩
  · exact fun ⟨negated, keeps⟩ => ⟨negated, fun input => (derived input).mpr (keeps input)⟩

def Balanced (rows : List Posting) (row : Posting) : Prop := ∀ input,
  derivedTotal (row :: rows) input = correctedTotal (row :: rows) input ∨ derivedTotal (row :: rows) input = derivedTotal rows input

theorem agrees_cons (agrees : Agrees rows) (cancels : Cancels rows) (balanced : Balanced rows row)
    (cancels' : Cancels (row :: rows)) : Agrees (row :: rows) := by
  intro input
  rcases balanced input with same | still
  · exact same
  · have before := cancels.derived input
    have after := cancels'.derived input
    rw [deriveSpentUsdc, still, ← deriveSpentUsdc, before] at after
    rw [still, agrees]
    exact numericText_injective after

theorem cancels_cons (appended : Appended (row :: rows)) (agrees : Agrees rows) (cancels : Cancels rows)
    (balanced : Balanced rows row) : Cancels (row :: rows) ↔
      (∀ posting ∈ corrected rows row, row.amount_usdc = -posting.amount_usdc) ∧ Agrees (row :: rows) ∧
        ∀ input, KeepsMillionths (correctedTotal (row :: rows) input) := by
  constructor
  · intro cancels'
    have agrees' := agrees_cons agrees cancels balanced cancels'
    refine ⟨?_, agrees', ((cancels_iff agrees').mp cancels').2⟩
    have own := cancels'.negated row List.mem_cons_self
    rwa [corrected_cons appended List.mem_cons_self] at own
  · rintro ⟨own, agrees', keeps⟩
    refine (cancels_iff agrees').mpr ⟨fun correction member => ?_, keeps⟩
    rw [corrected_cons appended member]
    rcases List.mem_cons.mp member with rfl | older
    · exact own
    · exact cancels.negated correction older

/-! ## One call -/

theorem Appended.find? (appended : Appended rows) {original : Posting} {id : PostingId}
    (found : rows.find? (·.id = id) = some original) : original ∈ rows ∧ original.id = id ∧
      ∀ other ∈ rows, other.id = id → other = original := by
  have member := List.mem_of_find?_eq_some found
  have same : original.id = id := by simpa using List.find?_some found
  exact ⟨member, same, fun other among alike => List.inj_on_of_nodup_map appended.nodup among member (alike.trans same.symm)⟩

theorem Appended.post (appended : Appended rows) {id : PostingId} {input : WritePostingInput}
    (accepts : Accepts rows (input.row id)) :
    Appended (input.row id :: rows) :=
  ⟨⟨accepts.column, accepts.fresh, nofun, fun _ => rfl⟩, appended⟩

theorem Appended.correct (appended : Appended rows) {id : PostingId} {input : CorrectPostingInput} {original : Posting}
    (found : rows.find? (·.id = input.postingId) = some original) (accepts : Accepts rows (input.row id original)) :
    Appended (input.row id original :: rows) := by
  obtain ⟨member, same, -⟩ := appended.find? found
  refine ⟨⟨accepts.column, accepts.fresh, ?_, nofun⟩, appended⟩
  rintro named ⟨rfl⟩
  exact ⟨original, member, same⟩

/-- What a call must keep to: the amount corrected and the totals come back from `Number` and `toFixed(6)`, and what is corrected is no
correction of a settle posting, or of nothing. -/
def Keeps (rows : List Posting) : LedgerLabel → Prop
  | .post id input => Accepts rows (input.row id) →
    ∀ spent, settles spent (input.row id) = true → KeepsMillionths (correctedTotal rows spent + input.amountUsdc)
  | .correct id input => ∀ original ∈ rows.find? (·.id = input.postingId), Accepts rows (input.row id original) →
    KeepsMillionths original.amount_usdc ∧
      (∀ spent, ∀ settled ∈ rows, settles spent settled = true → descends rows original.id settled.id = true → original.amount_usdc = 0) ∧
      ∀ spent, settles spent original = true → KeepsMillionths (correctedTotal rows spent - original.amount_usdc)

section

variable {id : PostingId}

theorem post_totals (appended : Appended rows) {input : WritePostingInput} (accepts : Accepts rows (input.row id))
    (spent : DeriveSpentUsdcInput) :
    derivedTotal (input.row id :: rows) spent =
        (if settles spent (input.row id) = true then input.amountUsdc else 0) + derivedTotal rows spent ∧
      correctedTotal (input.row id :: rows) spent =
        (if settles spent (input.row id) = true then input.amountUsdc else 0) + correctedTotal rows spent := by
  have appended' := appended.post accepts
  have counted : counts rows spent (input.row id) = settles spent (input.row id) := by
    simp [counts, settles, corrected, WritePostingInput.row]
  have rootless : (fun settled : Posting => descends (input.row id :: rows) (input.row id).id settled.id) = fun _ => false :=
    funext fun settled => by rw [descends_cons_self]; rfl
  rw [derivedTotal_cons appended', correctedTotal_cons appended', counted, rootless]
  simp [WritePostingInput.row]

theorem cancels_post (appended : Appended rows) (agrees : Agrees rows) (cancels : Cancels rows) {input : WritePostingInput}
    (accepts : Accepts rows (input.row id)) : Cancels (input.row id :: rows) ↔
      ∀ spent, settles spent (input.row id) = true → KeepsMillionths (correctedTotal rows spent + input.amountUsdc) := by
  have totals := post_totals appended accepts
  have agrees' : Agrees (input.row id :: rows) := fun spent => by rw [(totals spent).1, (totals spent).2, agrees]
  have keeps := ((cancels_iff agrees).mp cancels).2
  rw [cancels_cons (appended.post accepts) agrees cancels fun spent => .inl (agrees' spent)]
  constructor
  · rintro ⟨-, -, keeps'⟩ spent settled
    have kept := keeps' spent
    rwa [(totals spent).2, if_pos settled, add_comm] at kept
  · intro condition
    have nothing : corrected rows (input.row id) = none := rfl
    refine ⟨by simp [nothing], agrees', fun spent => ?_⟩
    rw [(totals spent).2]
    split_ifs with settled
    · rw [add_comm]
      exact condition spent settled
    · rw [zero_add]
      exact keeps spent

theorem correct_totals (appended : Appended rows) {input : CorrectPostingInput} {original : Posting}
    (found : rows.find? (·.id = input.postingId) = some original) (accepts : Accepts rows (input.row id original))
    (spent : DeriveSpentUsdcInput) :
    derivedTotal (input.row id original :: rows) spent =
        (if settles spent original = true then offsetAmount original.amount_usdc else 0) + derivedTotal rows spent ∧
      correctedTotal (input.row id original :: rows) spent = correctedTotal rows spent + (rows.filter (settles spent)).countP
        (fun settled => original.id = settled.id || descends rows original.id settled.id) * offsetAmount original.amount_usdc := by
  have appended' := appended.correct found accepts
  obtain ⟨-, same, -⟩ := appended.find? found
  have named : corrected rows (input.row id original) = some original := by
    simp [corrected, CorrectPostingInput.row, found]
  have counted : counts rows spent (input.row id original) = settles spent original := by
    rw [counts, named]
    rfl
  have unsettled : settles spent (input.row id original) = false := by simp [settles, CorrectPostingInput.row]
  have under : (fun settled : Posting => descends (input.row id original :: rows) (input.row id original).id settled.id) =
      fun settled => (original.id = settled.id || descends rows original.id settled.id : Bool) := by
    funext settled
    rw [descends_cons_self, same]
    simp [CorrectPostingInput.row]
  rw [derivedTotal_cons appended', correctedTotal_cons appended', counted, unsettled, under]
  simp [CorrectPostingInput.row]

theorem offsetAmount_eq_iff {m : ℤ} (column : |m| < 10 ^ 20) : offsetAmount m = -m ↔ KeepsMillionths m := by
  obtain ⟨x, number, keeps⟩ := keepsMillionths_iff column
  simp only [offsetAmount, number, keeps, toFixedMillionths_neg, neg_inj]

theorem Appended.column (appended : Appended rows) : ∀ posting ∈ rows, |posting.amount_usdc| < 10 ^ 20 := by
  induction rows with
  | nil => exact fun _ member => absurd member List.not_mem_nil
  | cons row rows ih => exact List.forall_mem_cons.mpr ⟨appended.1.column, ih appended.2⟩

theorem countP_settled (appended : Appended rows) {original : Posting} (member : original ∈ rows)
    (settled : original.entry_type = .settle)
    (spent : DeriveSpentUsdcInput) : (rows.filter (settles spent)).countP
      (fun other => original.id = other.id || descends rows original.id other.id) = if settles spent original = true then 1 else 0 := by
  have own : ∀ other ∈ rows, other.id = original.id → other = original := fun other among alike =>
    List.inj_on_of_nodup_map appended.nodup among member alike
  have root (ancestor : PostingId) : descends rows original.id ancestor = false :=
    descends_root fun other among alike => own other among alike ▸ appended.settled original member settled
  simp only [root, Bool.or_false]
  have distinct : (rows.filter (settles spent)).Nodup := (List.Nodup.of_map _ appended.nodup).filter _
  have counted : (rows.filter (settles spent)).countP (fun other => original.id = other.id) =
      (rows.filter (settles spent)).count original := by
    rw [List.count]
    refine List.countP_congr fun other among => ?_
    simp only [decide_eq_true_eq, beq_iff_eq]
    exact ⟨fun alike => own other (List.mem_of_mem_filter among) alike.symm, fun alike => alike ▸ rfl⟩
  rw [counted]
  split_ifs with spends
  · exact List.count_eq_one_of_mem distinct (List.mem_filter.mpr ⟨member, spends⟩)
  · exact List.count_eq_zero_of_not_mem fun among => spends (List.mem_filter.mp among).2

theorem countP_unsettled (appended : Appended rows) {original : Posting} (member : original ∈ rows)
    (unsettled : original.entry_type ≠ .settle) (spent : DeriveSpentUsdcInput) : (rows.filter (settles spent)).countP
      (fun other => original.id = other.id || descends rows original.id other.id) = 0 ↔
      ∀ settled ∈ rows, settles spent settled = true → descends rows original.id settled.id = false := by
  rw [List.countP_eq_zero]
  simp only [List.mem_filter, and_imp, Bool.or_eq_true, decide_eq_true_eq, not_or, Bool.not_eq_true]
  refine forall_congr' fun settled => forall_congr' fun among => forall_congr' fun spends => and_iff_right fun alike => ?_
  have same := List.inj_on_of_nodup_map appended.nodup member among alike
  simp [settles, ← same, unsettled] at spends

theorem correct_balanced (appended : Appended rows) (agrees : Agrees rows) {input : CorrectPostingInput} {original : Posting}
    (found : rows.find? (·.id = input.postingId) = some original) (accepts : Accepts rows (input.row id original)) :
    Balanced rows (input.row id original) := by
  have member := (appended.find? found).1
  intro spent
  obtain ⟨derived, total⟩ := correct_totals appended found accepts spent
  by_cases settled : original.entry_type = .settle
  · left
    rw [derived, total, countP_settled appended member settled, agrees]
    split_ifs <;> push_cast <;> ring
  · right
    have spends : settles spent original = false := by simp [settles, settled]
    simp [derived, spends]

theorem cancels_correct (appended : Appended rows) (agrees : Agrees rows) (cancels : Cancels rows) {input : CorrectPostingInput}
    {original : Posting} (found : rows.find? (·.id = input.postingId) = some original)
    (accepts : Accepts rows (input.row id original)) : Cancels (input.row id original :: rows) ↔
      KeepsMillionths original.amount_usdc ∧
        (∀ spent, ∀ settled ∈ rows, settles spent settled = true → descends rows original.id settled.id = true →
          original.amount_usdc = 0) ∧
        ∀ spent, settles spent original = true → KeepsMillionths (correctedTotal rows spent - original.amount_usdc) := by
  have member := (appended.find? found).1
  have totals := correct_totals appended found accepts
  have named : corrected rows (input.row id original) = some original := by
    simp [corrected, CorrectPostingInput.row, found]
  have keeps := ((cancels_iff agrees).mp cancels).2
  have negates : (∀ posting ∈ corrected rows (input.row id original), (input.row id original).amount_usdc = -posting.amount_usdc) ↔
      KeepsMillionths original.amount_usdc := by
    rw [named, ← offsetAmount_eq_iff (appended.column original member)]
    simp [CorrectPostingInput.row]
  rw [cancels_cons (appended.correct found accepts) agrees cancels (correct_balanced appended agrees found accepts), negates]
  refine and_congr_right fun kept => ?_
  have offset := (offsetAmount_eq_iff (appended.column original member)).mpr kept
  simp only [offset] at totals
  by_cases settled : original.entry_type = .settle
  · have rootless : ∀ other ∈ rows, descends rows original.id other.id = false := by
      intro other _
      refine descends_root fun alike among same => ?_
      rw [List.inj_on_of_nodup_map appended.nodup among member same]
      exact appended.settled original member settled
    constructor
    · rintro ⟨-, keeps'⟩
      refine ⟨fun spent other among _ under => ?_, fun spent spends => ?_⟩
      · rw [rootless other among] at under
        cases under
      · have kept' := keeps' spent
        rwa [(totals spent).2, countP_settled appended member settled, if_pos spends, Nat.cast_one, one_mul, ← sub_eq_add_neg] at kept'
    · rintro ⟨-, condition⟩
      refine ⟨fun spent => ?_, fun spent => ?_⟩
      · rw [(totals spent).1, (totals spent).2, countP_settled appended member settled, agrees]
        split_ifs <;> push_cast <;> ring
      · rw [(totals spent).2, countP_settled appended member settled]
        split_ifs with spends
        · rw [Nat.cast_one, one_mul, ← sub_eq_add_neg]
          exact condition spent spends
        · rw [Nat.cast_zero, zero_mul, add_zero]
          exact keeps spent
  · have apart (spent : DeriveSpentUsdcInput) : settles spent original = false := by simp [settles, settled]
    have unchanged (spent : DeriveSpentUsdcInput) : derivedTotal (input.row id original :: rows) spent = correctedTotal rows spent := by
      simp [(totals spent).1, apart spent, agrees spent]
    constructor
    · rintro ⟨agrees', -⟩
      refine ⟨fun spent other among spends under => ?_, fun spent spends => ?_⟩
      · have still := agrees' spent
        rw [unchanged, (totals spent).2, left_eq_add, mul_eq_zero, Nat.cast_eq_zero,
          countP_unsettled appended member settled spent] at still
        rcases still with none | zero
        · rw [none other among spends] at under
          cases under
        · exact neg_eq_zero.mp zero
      · rw [apart spent] at spends
        cases spends
    · rintro ⟨condition, -⟩
      have still (spent : DeriveSpentUsdcInput) : correctedTotal (input.row id original :: rows) spent = correctedTotal rows spent := by
        rw [(totals spent).2, add_eq_left, mul_eq_zero, Nat.cast_eq_zero, countP_unsettled appended member settled spent]
        by_cases zero : original.amount_usdc = 0
        · exact .inr (neg_eq_zero.mpr zero)
        · left
          intro other among spends
          by_contra under
          exact zero (condition spent other among spends (Bool.not_eq_false _ ▸ under))
      exact ⟨fun spent => by rw [unchanged, still], fun spent => by rw [still]; exact keeps spent⟩

end

/-! ## Every run -/

theorem ledgerStep_cases {rows' : List Posting} {label : LedgerLabel} (taken : ledgerStep rows label = some rows') :
    (rows' = rows ∧ Keeps rows label) ∨
      (∃ id input, label = .post id input ∧ Accepts rows (input.row id) ∧ rows' = input.row id :: rows) ∨
      ∃ id input original, label = .correct id input ∧ rows.find? (·.id = input.postingId) = some original ∧
        Accepts rows (input.row id original) ∧ rows' = input.row id original :: rows := by
  cases label with
  | post id input =>
    simp only [ledgerStep, writePosting] at taken
    by_cases accepts : Accepts rows (input.row id)
    · rw [insertPosting_accepts accepts] at taken
      exact .inr (.inl ⟨id, input, rfl, accepts, (Option.some.inj taken).symm⟩)
    · obtain ⟨failure, refused⟩ := insertPosting_refuses accepts
      rw [refused] at taken
      exact .inl ⟨(Option.some.inj taken).symm, fun accepted => absurd accepted accepts⟩
  | correct id input =>
    simp only [ledgerStep, correctPosting] at taken
    cases found : rows.find? (·.id = input.postingId) with
    | none =>
      rw [found] at taken
      refine .inl ⟨(Option.some.inj taken).symm, fun original named => ?_⟩
      rw [found] at named
      cases named
    | some original =>
      rw [found] at taken
      by_cases accepts : Accepts rows (input.row id original)
      · simp only [insertPosting_accepts accepts] at taken
        exact .inr (.inr ⟨id, input, original, rfl, found, accepts, (Option.some.inj taken).symm⟩)
      · obtain ⟨failure, refused⟩ := insertPosting_refuses accepts
        simp only [refused] at taken
        refine .inl ⟨(Option.some.inj taken).symm, fun other named accepted => ?_⟩
        rw [found] at named
        obtain rfl := Option.some.inj named
        exact absurd accepted accepts

theorem appended_step {rows' : List Posting} {label : LedgerLabel} (appended : Appended rows)
    (taken : ledgerStep rows label = some rows') : Appended rows' := by
  rcases ledgerStep_cases taken with ⟨rfl, -⟩ | ⟨id, input, -, accepts, rfl⟩ | ⟨id, input, original, -, found, accepts, rfl⟩
  · exact appended
  · exact appended.post accepts
  · exact appended.correct found accepts

theorem cancels_step {rows' : List Posting} {label : LedgerLabel} (appended : Appended rows) (agrees : Agrees rows)
    (cancels : Cancels rows) (taken : ledgerStep rows label = some rows') :
    (Cancels rows' ↔ Keeps rows label) ∧ (Cancels rows' → Agrees rows') := by
  rcases ledgerStep_cases taken with ⟨rfl, keeps⟩ | ⟨id, input, rfl, accepts, rfl⟩ | ⟨id, input, original, rfl, found, accepts, rfl⟩
  · exact ⟨iff_of_true cancels keeps, fun _ => agrees⟩
  · refine ⟨(cancels_post appended agrees cancels accepts).trans ⟨fun kept _ => kept, fun keeps => keeps accepts⟩, fun _ spent => ?_⟩
    rw [(post_totals appended accepts spent).1, (post_totals appended accepts spent).2, agrees]
  · refine ⟨(cancels_correct appended agrees cancels found accepts).trans ⟨fun kept other named _ => ?_, fun keeps => ?_⟩,
      agrees_cons agrees cancels (correct_balanced appended agrees found accepts)⟩
    · rw [found] at named
      obtain rfl := Option.some.inj named
      exact kept
    · exact keeps original found accepts

theorem cancels_nil : Cancels [] := by
  have agrees : Agrees [] := fun _ => rfl
  exact (cancels_iff agrees).mpr ⟨by simp, fun _ => keepsMillionths_small (by simp [correctedTotal])⟩

/-- The corrections cancel all along a run if and only if every call keeps to its condition. -/
theorem corrections_cancel_iff {events : List (List Posting × LedgerLabel)} (run : Run ledgerStep [] events rows) :
    ((∀ e ∈ events, Cancels e.1) ∧ Cancels rows) ↔ Conforms Keeps events := by
  have whole : Appended rows ∧ (((∀ e ∈ events, Cancels e.1) ∧ Cancels rows) → Agrees rows) ∧
      (((∀ e ∈ events, Cancels e.1) ∧ Cancels rows) ↔ Conforms Keeps events) := by
    induction run with
    | start => exact ⟨trivial, fun _ _ => rfl, by simp [cancels_nil]⟩
    | @next events rows rows' label before taken ih =>
      obtain ⟨appended, agrees, kept⟩ := ih
      have step := fun cancels => cancels_step appended (agrees cancels) cancels.2 taken
      have earlier : (∀ e ∈ events ++ [(rows, label)], Cancels e.1) ↔ (∀ e ∈ events, Cancels e.1) ∧ Cancels rows := by
        simp [or_imp, forall_and]
      refine ⟨appended_step appended taken, fun ⟨cancels, last⟩ => (step (earlier.mp cancels)).2 last, ?_⟩
      rw [earlier, conforms_append, conforms_singleton, ← kept]
      exact and_congr_right fun cancels => (step cancels).1
  exact whole.2.2

/-! ## A correction of a correction -/

def settledDollar : WritePostingInput where
  orgId := 1
  agentId := some 1
  mode := .live
  entryType := .settle
  amountUsdc := 1000000
  reservationId := some 1
  reasonCode := "payment_settled"
  createdBy := "system"

def mistake (postingId : PostingId) : CorrectPostingInput := ⟨postingId, "mistake", none⟩

theorem corrections_do_not_cancel : ¬∀ (events : List (List Posting × LedgerLabel)) (rows : List Posting),
    Run ledgerStep [] events rows → (∀ e ∈ events, Cancels e.1) ∧ Cancels rows := by
  intro claimed
  obtain ⟨events, rows, run, apart⟩ : ∃ events rows, Run ledgerStep [] events rows ∧
      deriveSpentUsdc rows ⟨1, 1, .live⟩ = "0.000000" ∧ numericText (correctedTotal rows ⟨1, 1, .live⟩) = "1.000000" :=
    exists_run [.post 1 settledDollar, .correct 2 (mistake 1), .correct 3 (mistake 2)] _ (by decide +kernel)
  have same := (claimed events rows run).2.derived ⟨1, 1, .live⟩
  rw [apart.1, apart.2] at same
  revert same
  decide

def dollarRow : Posting := settledDollar.row 1

/-- A dollar is settled, and the settlement corrected. -/
theorem corrections_cancel_dollar : (∀ e ∈ [([], LedgerLabel.post 1 settledDollar), ([dollarRow], .correct 2 (mistake 1))], Cancels e.1) ∧
    Cancels [(mistake 1).row 2 dollarRow, dollarRow] := by
  have first : ledgerStep [] (.post 1 settledDollar) = some [dollarRow] := by decide +kernel
  have second : ledgerStep [dollarRow] (.correct 2 (mistake 1)) = some [(mistake 1).row 2 dollarRow, dollarRow] := by decide +kernel
  refine (corrections_cancel_iff ((Run.next .start first).next second)).mpr ?_
  refine List.forall_mem_cons.mpr ⟨?_, List.forall_mem_singleton.mpr ?_⟩
  · intro _ spent _
    have nothing : correctedTotal [] spent = 0 := rfl
    rw [nothing]
    exact keepsMillionths_small (by decide)
  · rintro original ⟨rfl⟩ -
    refine ⟨keepsMillionths_small (by decide), fun spent settled member _ under => ?_, fun spent spends => ?_⟩
    · obtain rfl := List.mem_singleton.mp member
      exact absurd under (by decide)
    · have once : correctedTotal [dollarRow] spent = 1000000 := by
        simp [correctedTotal, spends, correctionsUnder]
        decide
      rw [once]
      exact keepsMillionths_small (by decide)

end AgentOps.Ledger
