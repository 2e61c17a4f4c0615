import AgentOps.Payments.Books
import Mathlib.Algebra.Ring.Int.Defs

namespace AgentOps.Payments
open Lib Identity

variable {hashes : Hashes} {db db' : Db} {s s' : State} {call : Call} {label : Label} {account : AccountId}

/-! # The ledger and the counters it mirrors -/

def postingTotal (postings : List LedgerPostingRow) (account : AccountId) (types : List LedgerEntryType) : Int :=
  ((postings.filter fun p => p.account = account ∧ p.entry_type ∈ types).map LedgerPostingRow.amount_usdc).sum

/-- `deriveSpentUsdc`, where no posting is a correction -/
def deriveSpentUsdc (db : Db) (account : AccountId) (mode : PaymentMode) : Int :=
  ((db.postings.filter fun p => p.account = account ∧ p.mode = mode ∧ p.entry_type = .settle).map
    LedgerPostingRow.amount_usdc).sum

@[simp] theorem postingTotal_nil (account : AccountId) (types : List LedgerEntryType) :
    postingTotal [] account types = 0 := rfl

@[simp] theorem postingTotal_cons (p : LedgerPostingRow) (postings : List LedgerPostingRow) (account : AccountId)
    (types : List LedgerEntryType) : postingTotal (p :: postings) account types =
      (if p.account = account ∧ p.entry_type ∈ types then p.amount_usdc else 0) + postingTotal postings account types := by
  by_cases counted : p.account = account ∧ p.entry_type ∈ types
  · simp [postingTotal, counted]
  · simp [postingTotal, counted]

def reserving : List LedgerEntryType := [.reserve, .release, .settle]

theorem deriveSpentUsdc_modes (db : Db) (account : AccountId) :
    deriveSpentUsdc db account .test + deriveSpentUsdc db account .live = postingTotal db.postings account [.settle] := by
  unfold deriveSpentUsdc
  induction db.postings with
  | nil => rfl
  | cons p postings ih =>
    rw [postingTotal_cons, ← ih]
    by_cases counted : p.account = account ∧ p.entry_type = .settle
    · obtain ⟨inAccount, type⟩ := counted
      cases mode : p.mode <;> simp [inAccount, type, mode] <;> omega
    · have skipped (mode : PaymentMode) : ¬(p.account = account ∧ p.mode = mode ∧ p.entry_type = .settle) :=
        fun all => counted ⟨all.1, all.2.2⟩
      simp [skipped, counted]

def Reconstructed (account : AccountId) (db : Db) : Prop :=
  (spentOf db.accounts account : Int) = postingTotal db.postings account [.settle] ∧
    (reservedOf db.accounts account : Int) = -postingTotal db.postings account reserving

inductive Mirrored (accounts : Table AgentPaymentAccountRow.key) (counted : AccountId) (amount : Nat)
    (accounts' : Table AgentPaymentAccountRow.key) (posting : LedgerPostingRow) : Prop where
  | reserve (type : posting.entry_type = .reserve) (signed : posting.amount_usdc = -amount)
      (recounted : Recounted accounts counted (· + amount) id accounts')
  | release (type : posting.entry_type = .release) (signed : posting.amount_usdc = amount)
      (recounted : Recounted accounts counted (· - amount) id accounts') (covers : Covers accounts counted amount)
  | settle (type : posting.entry_type = .settle) (signed : posting.amount_usdc = amount)
      (recounted : Recounted accounts counted (· - amount) (· + amount) accounts')
      (covers : Covers accounts counted amount)

theorem Mirrored.recounted {accounts accounts' : Table AgentPaymentAccountRow.key} {counted : AccountId} {amount : Nat}
    {posting : LedgerPostingRow} (mirrored : Mirrored accounts counted amount accounts' posting) :
    ∃ reserved spent, Recounted accounts counted reserved spent accounts' := by
  cases mirrored with
  | reserve type signed recounted => exact ⟨_, _, recounted⟩
  | release type signed recounted => exact ⟨_, _, recounted⟩
  | settle type signed recounted => exact ⟨_, _, recounted⟩

namespace Reconstructed

theorem congr (reconstructed : Reconstructed account db) (postings : db'.postings = db.postings)
    (reserved : reservedOf db'.accounts account = reservedOf db.accounts account)
    (spent : spentOf db'.accounts account = spentOf db.accounts account) : Reconstructed account db' := by
  unfold Reconstructed
  rw [postings, reserved, spent]
  exact reconstructed

theorem post {counted : AccountId} {amount : Nat} {posting : LedgerPostingRow}
    (reconstructed : Reconstructed account db) (mirrored : Mirrored db.accounts counted amount db'.accounts posting)
    (owner : posting.account = counted) (stored : ∃ row, db.accounts.find? counted = some row)
    (postings : db'.postings = posting :: db.postings) : Reconstructed account db' := by
  obtain ⟨spent, reserved⟩ := reconstructed
  unfold Reconstructed
  rw [postings, postingTotal_cons, postingTotal_cons, owner]
  by_cases same : counted = account
  · subst same
    cases mirrored with
    | reserve type signed recounted =>
      obtain ⟨reservedIs, spentIs⟩ := recounted.counters stored counted
      simp only [if_true, id] at reservedIs spentIs
      simp [type, signed, reserving] at reserved ⊢
      omega
    | release type signed recounted covers =>
      have enough := covers.le stored
      obtain ⟨reservedIs, spentIs⟩ := recounted.counters stored counted
      simp only [if_true, id] at reservedIs spentIs
      simp [type, signed, reserving] at reserved ⊢
      omega
    | settle type signed recounted covers =>
      have enough := covers.le stored
      obtain ⟨reservedIs, spentIs⟩ := recounted.counters stored counted
      simp only [if_true] at reservedIs spentIs
      simp [type, signed, reserving] at reserved ⊢
      omega
  · obtain ⟨reservedFn, spentFn, recounted⟩ := mirrored.recounted
    obtain ⟨reservedIs, spentIs⟩ := counters_congr (recounted.other (Ne.symm same))
    simp only [same, false_and, if_false, zero_add]
    omega

end Reconstructed

/-- What is cancelled as stranded was released before, and what is released on proof is of an agent with an account. -/
def LedgerKept (account : AccountId) (s : State) : Label → Prop
  | .call id .commitStranded => ∀ call candidates db, s.calls.find? id = some call →
      call.phase = .cancelling candidates → accountOf call.auth = account →
      cancelCandidates call.auth s.db candidates = .ok db →
      ∀ candidate ∈ candidates, ∀ r, s.db.reservations.find? candidate.reservation_id = some r → r.status ≠ .reserved
  | .releaseOnProof reservationId _ => ∀ r, s.db.reservations.find? reservationId = some r → r.account = account →
      ∃ row, s.db.accounts.find? account = some row
  | _ => True

theorem cancelCandidates_passed {auth : ConnectionAuthResult} {candidates : List StrandedCandidate}
    (cancelled : cancelCandidates auth db candidates = .ok db')
    (closed : ∀ candidate ∈ candidates, ∀ r, db.reservations.find? candidate.reservation_id = some r →
      r.status ≠ .reserved) : db' = db := by
  refine cancelCandidates_invariant (· = db) cancelled rfl ?_
  rintro candidate member db₁ db₂ rfl one
  cases one with
  | passed => rfl
  | released foundReservation isOpen => exact (closed candidate member _ foundReservation isOpen).elim

theorem cancelCandidates_postings {auth : ConnectionAuthResult} {candidates : List StrandedCandidate}
    (cancelled : cancelCandidates auth db candidates = .ok db') : db'.postings = db.postings := by
  refine cancelCandidates_invariant (fun db' => db'.postings = db.postings) cancelled rfl ?_
  rintro candidate - db₁ db₂ same one
  cases one <;> exact same

namespace Reconstructed

theorem operator (reconstructed : Reconstructed account s.db) (linked : Linked s.db) (recorded : Recorded s.db)
    (kept : LedgerKept account s label) (write : OperatorWrite hashes s label db) : Reconstructed account db := by
  cases write with
  | unchanged | registry | jobCreated => exact reconstructed
  | configured free configured =>
    obtain ⟨reserved, spent⟩ := configured.counters account
    cases configured <;> exact reconstructed.congr rfl reserved spent
  | resolved free resolved =>
    obtain ⟨row, found, isOpen, ⟨event, member, names, -⟩, resolved⟩ := resolveUnknownAttempt_ok resolved
    have stored := linked.stored (Table.mem_of_find? found) (recorded.isX402 found member names)
    cases resolved with
    | failed counted covers => exact reconstructed.post (.release rfl rfl counted covers) rfl stored rfl
    | settled counted covers => exact reconstructed.post (.settle rfl rfl counted covers) rfl stored rfl
  | released free released =>
    obtain ⟨row, accounts, found, isOpen, counted, covers, rfl⟩ := releaseOnProof_ok released
    by_cases same : row.account = account
    · have stored := kept row found same
      rw [← same] at stored
      exact reconstructed.post (.release rfl rfl counted covers) rfl stored rfl
    · obtain ⟨reservedIs, spentIs⟩ := counters_congr (counted.other (Ne.symm same))
      unfold Reconstructed
      rw [postingTotal_cons, postingTotal_cons, reservedIs, spentIs]
      have other : (row.org_id, row.agent_id) ≠ account := same
      simpa [LedgerPostingRow.account, other, Reconstructed] using reconstructed
  | purged => exact reconstructed
  | jobFunded funded =>
    cases fundEscrowJob_ok funded with
    | funded found isOpen inserted => exact reconstructed
  | jobMoved moved =>
    obtain ⟨reservations, rfl, -⟩ := moved.tables
    exact reconstructed

theorem finalize {now : Time} {payment : PreparedPaidHttpPayment} {settlement : RuntimeX402SettlementResult}
    {eventId : EventId} {result : RuntimeX402PaymentResult} (reconstructed : Reconstructed account db)
    (stored : ∃ row, db.accounts.find? (accountOf call.auth) = some row)
    (finalized : Finalized db now call.auth payment settlement eventId db' result) : Reconstructed account db' := by
  cases finalized with
  | settled answered status inScope counted covers debited inserted =>
    exact reconstructed.post (.settle rfl rfl counted covers) rfl stored rfl
  | failed status inScope counted covers inserted =>
    exact reconstructed.post (.release rfl rfl counted covers) rfl stored rfl
  | unknown status inScope inserted => exact reconstructed

theorem write (reconstructed : Reconstructed account s.db) (sound : Sound s) (recorded : Recorded s.db)
    (kept : LedgerKept account s label) (write : Write hashes s label db) : Reconstructed account db := by
  cases write with
  | unchanged => exact reconstructed
  | operator write => exact reconstructed.operator sound.linked recorded kept write
  | @call id event call db found write =>
    cases write with
    | unchanged => exact reconstructed
    | stranded phase free cancelled =>
      by_cases same : accountOf call.auth = account
      · rw [cancelCandidates_passed cancelled (kept _ _ _ found phase same cancelled)]
        exact reconstructed
      · obtain ⟨reserved, spent⟩ := counters_congr (cancelCandidates_other cancelled (Ne.symm same))
        exact reconstructed.congr (cancelCandidates_postings cancelled) reserved spent
    | scrubbed | revised => exact reconstructed
    | prepared phase written =>
      obtain ⟨fresh, -⟩ := sound.known found phase
      obtain ⟨attempts, reservations, accounts, -, -, counted, rfl⟩ := (sound.prepared found phase written).tables
      exact reconstructed.post (.reserve rfl rfl counted) rfl ⟨_, fresh.1.1⟩ rfl
    | finalized phase free finalized =>
      have ok : PaymentOk s.db call _ 1 := sound.known found phase
      obtain ⟨r, located, reason, inAccount, -⟩ := ok.row
      have stored := sound.linked.account r (Table.mem_of_find? located) _ reason
      rw [inAccount] at stored
      exact reconstructed.finalize stored (finalizePaidHttpPayment_ok finalized)

end Reconstructed

/-- The counters of an account that is there are what its postings add up to. -/
def LedgerReconstructs (account : AccountId) (db : Db) : Prop :=
  ∀ row ∈ db.accounts.find? account, (row.spent_usdc : Int) = postingTotal db.postings account [.settle] ∧
    (row.reserved_usdc : Int) = -postingTotal db.postings account reserving

instance : Decidable (LedgerReconstructs account db) := by
  unfold LedgerReconstructs
  infer_instance

theorem ledgerReconstructs_of_kept {s₀ : State} {events : List (State × Label)} (initial : Initial s₀)
    (run : Run (step hashes) s₀ events s) (kept : Conforms (LedgerKept account) events) :
    LedgerReconstructs account s.db := by
  have invariant : Sound s ∧ Recorded s.db ∧ Reconstructed account s.db := by
    refine run.invariant (fun s => Sound s ∧ Recorded s.db ∧ Reconstructed account s.db) kept
      ⟨initial.sound, initial.recorded, ?_⟩ ?_
    · simp [Reconstructed, reservedOf, spentOf, initial.accounts, initial.postings]
    · rintro s label s' ⟨sound, recorded, reconstructed⟩ kept taken
      have moved := step_inversion taken
      exact ⟨sound.step moved, recorded.write sound moved.write, reconstructed.write sound recorded kept moved.write⟩
  obtain ⟨-, -, spent, reserved⟩ := invariant
  intro row found
  rw [Option.mem_def] at found
  simp only [reservedOf, spentOf, found, Option.map_some, Option.getD_some] at spent reserved
  exact ⟨spent, reserved⟩

/-- As long as the ledger is kept, an account's counters are what its postings add up to, and what is spent is what
`deriveSpentUsdc` finds in the two modes. -/
theorem ledger_reconstructs_while_kept {s₀ : State} {events : List (State × Label)} (initial : Initial s₀)
    (run : Run (step hashes) s₀ events s) (kept : Conforms (LedgerKept account) events) :
    LedgerReconstructs account s.db ∧ ∀ row ∈ s.db.accounts.find? account,
      (row.spent_usdc : Int) = deriveSpentUsdc s.db account .test + deriveSpentUsdc s.db account .live := by
  have reconstructs := ledgerReconstructs_of_kept initial run kept
  refine ⟨reconstructs, fun row found => ?_⟩
  rw [deriveSpentUsdc_modes]
  exact (reconstructs row found).1

/-- A reserved payment expires and is cancelled: the counter returns to zero, and the ledger still holds 5 micros. -/
theorem ledger_misses_cancellation : ∃ events s, Run (step Workspace.hashes) (Workspace.state .circleWallets) events s ∧
    postingTotal s.db.postings (1, 1) reserving = -5 ∧ ¬LedgerReconstructs (1, 1) s.db :=
  exists_run (.setAgentPaymentAccess 1 1 (Workspace.access 50) :: Workspace.pays 100 Workspace.prepares ++
    .approvals (.tick fifteenMinutes) :: Workspace.pays 101 [.selectStranded, .commitStranded]) _ (by decide)

def plainLedger (s : State) : Label → Bool
  | .releaseOnProof _ _ => false
  | .call _ .commitStranded => s.db.reservations.rows.all fun r => r.status ≠ .reserved
  | _ => true

theorem ledgerKept_of_plain (plain : plainLedger s label = true) : LedgerKept account s label := by
  cases label with
  | releaseOnProof reservationId proof => cases plain
  | call id event =>
    cases event with
    | commitStranded =>
      intro call candidates db _ _ _ _ candidate _ r found
      simpa using List.all_eq_true.mp plain r (Table.mem_of_find? found)
    | _ => trivial
  | _ => trivial

theorem ledger_reconstructs_settled : ∃ events s, Run (step Workspace.hashes) (Workspace.state .circleWallets) events s ∧
    deriveSpentUsdc s.db (1, 1) .test = 5 ∧ LedgerReconstructs (1, 1) s.db := by
  obtain ⟨events, s, run, kept, settled⟩ : ∃ events s, Run (step Workspace.hashes) (Workspace.state .circleWallets) events s ∧
      Conforms (LedgerKept (1, 1)) events ∧ deriveSpentUsdc s.db (1, 1) .test = 5 :=
    exists_conforming_run (.setAgentPaymentAccess 1 1 (Workspace.access 50) :: Workspace.pays 100 Workspace.settles)
      plainLedger _ (fun _ _ => ledgerKept_of_plain) (by decide)
  exact ⟨events, s, run, settled, (ledger_reconstructs_while_kept (Workspace.state_initial _) run kept).1⟩

end AgentOps.Payments
