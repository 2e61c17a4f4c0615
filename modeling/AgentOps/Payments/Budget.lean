import AgentOps.Payments.Books

namespace AgentOps.Payments
open Lib Identity

variable {hashes : Hashes} {db db' : Db} {s s' : State} {call : Call} {label : Label} {account : AccountId} {budget : Nat}

/-! # The budget of an agent -/

/-- The agent's budget is held, and none of its reservations is released on proof. -/
def BudgetHeld (account : AccountId) (budget : Nat) (s : State) (label : Label) : Prop :=
  NoProof account s label ∧
    match label with
    | .setAgentPaymentAccess orgId agentId input => (orgId, agentId) = account → input.budget_usdc = budget
    | _ => True

def WithinBudget (account : AccountId) (budget : Nat) (accounts : Table AgentPaymentAccountRow.key) : Prop :=
  ∀ row, accounts.find? account = some row → row.budget_usdc = budget ∧ row.spent_usdc + row.reserved_usdc ≤ budget

namespace WithinBudget

theorem recount {accounts accounts' : Table AgentPaymentAccountRow.key} {counted : AccountId} {reserved spent : Nat → Nat}
    (within : WithinBudget account budget accounts) (recounted : Recounted accounts counted reserved spent accounts')
    (fits : counted = account → ∀ row, accounts.find? account = some row →
      spent row.spent_usdc + reserved row.reserved_usdc ≤ budget) : WithinBudget account budget accounts' := by
  by_cases same : counted = account
  · subst same
    intro row' found'
    have moved (row : AgentPaymentAccountRow) (found : accounts.find? counted = some row) := recounted.find? found
    cases recounted with
    | missing none =>
      rw [none] at found'
      cases found'
    | @counted row found =>
      obtain rfl := Option.some.inj (found'.symm.trans (moved row found))
      exact ⟨(within row found).1, fits rfl row found⟩
  · intro row found
    rw [recounted.other (Ne.symm same)] at found
    exact within row found

theorem release {accounts accounts' : Table AgentPaymentAccountRow.key} {counted : AccountId} {amount : Nat}
    (within : WithinBudget account budget accounts) (recounted : Recounted accounts counted (· - amount) id accounts') :
    WithinBudget account budget accounts' := by
  refine within.recount recounted fun _ row found => ?_
  have fits := (within row found).2
  simp only [id]
  omega

theorem settle {accounts accounts' : Table AgentPaymentAccountRow.key} {counted : AccountId} {amount : Nat}
    (within : WithinBudget account budget accounts)
    (recounted : Recounted accounts counted (· - amount) (· + amount) accounts')
    (covers : Covers accounts counted amount) : WithinBudget account budget accounts' := by
  refine within.recount recounted fun same row found => ?_
  have fits := (within row found).2
  have enough := covers row (by rw [same]; exact found)
  omega

theorem operator (within : WithinBudget account budget s.db.accounts) (held : BudgetHeld account budget s label)
    (write : OperatorWrite hashes s label db) : WithinBudget account budget db.accounts := by
  cases write with
  | unchanged | registry | jobCreated | purged => exact within
  | @configured orgId agentId input db free configured =>
    by_cases same : (orgId, agentId) = account
    · have set : input.budget_usdc = budget := held.2 same
      subst same
      intro row' found'
      cases configured with
      | @updated row found =>
        have located : s.db.accounts.find? row.key = some row := Table.find?_of_mem (Table.mem_of_find? found)
        have updated := Table.find?_put_self (r := row.configure input) located
        rw [← Table.key_of_find? found] at found'
        obtain rfl := Option.some.inj (found'.symm.trans updated)
        have fits := (within row found).2
        exact ⟨set, fits⟩
      | @opened row accounts key missing inserted unused opening =>
        have opened := Table.find?_insert?_self inserted
        rw [key] at opened
        obtain rfl := Option.some.inj (found'.symm.trans opened)
        exact ⟨opening.trans set, by rw [unused.1, unused.2]; exact Nat.zero_le _⟩
    · intro row found
      rw [configured.other (Ne.symm same)] at found
      exact within row found
  | resolved free resolved =>
    obtain ⟨row, found, isOpen, -, resolved⟩ := resolveUnknownAttempt_ok resolved
    cases resolved with
    | failed counted covers => exact within.release counted
    | settled counted covers => exact within.settle counted covers
  | released free released =>
    obtain ⟨row, accounts, found, isOpen, counted, covers, rfl⟩ := releaseOnProof_ok released
    exact within.release counted
  | jobFunded funded =>
    cases fundEscrowJob_ok funded with
    | funded found isOpen inserted => exact within
  | jobMoved moved =>
    obtain ⟨reservations, rfl, -⟩ := moved.tables
    exact within

theorem cancelAll {auth : ConnectionAuthResult} {candidates : List StrandedCandidate}
    (within : WithinBudget account budget db.accounts) (cancelled : cancelCandidates auth db candidates = .ok db') :
    WithinBudget account budget db'.accounts := by
  refine cancelCandidates_invariant (fun db' => WithinBudget account budget db'.accounts) cancelled within ?_
  rintro candidate - db₁ db₂ within₁ one
  cases one with
  | passed => exact within₁
  | released foundReservation isOpen foundAccount covers foundAttempt reserved =>
    have counted : Recounted db₁.accounts (accountOf auth) (· - candidate.amount_usdc) id _ := .counted foundAccount
    exact within₁.release counted

theorem write (within : WithinBudget account budget s.db.accounts) (sound : Sound s)
    (held : BudgetHeld account budget s label) (write : Write hashes s label db) :
    WithinBudget account budget db.accounts := by
  cases write with
  | unchanged => exact within
  | operator write => exact within.operator held write
  | call found write =>
    cases write with
    | unchanged | scrubbed | revised => exact within
    | stranded phase free cancelled => exact within.cancelAll cancelled
    | prepared phase written =>
      obtain ⟨fresh, -, -, limits⟩ := sound.known found phase
      obtain ⟨attempts, reservations, accounts, -, -, counted, rfl⟩ := (sound.prepared found phase written).tables
      refine within.recount counted fun same row located => ?_
      have locked := fresh.1.1
      rw [same, located] at locked
      obtain rfl := Option.some.inj locked
      have budgetIs := (within _ located).1
      unfold Limits at limits
      simp only [id]
      omega
    | finalized phase free finalized =>
      cases finalizePaidHttpPayment_ok finalized with
      | settled answered status inScope counted covers debited inserted => exact within.settle counted covers
      | failed status inScope counted covers inserted => exact within.release counted
      | unknown status inScope inserted => exact within

end WithinBudget

theorem CoherentFor.finalizesReserved (coherent : CoherentFor account s.db) (sound : Sound s) (label : Label) :
    FinalizesReserved account s label := by
  cases label with
  | call id event =>
    cases event with
    | finalize eventId =>
      intro call payment settlement result found phase same _ finalized r located
      have ok : PaymentOk s.db call payment 1 := sound.known found phase
      obtain ⟨r', located', reason, inAccount, -⟩ := ok.row
      obtain rfl : r = r' := Option.some.inj (located.symm.trans located')
      obtain ⟨row, inScope⟩ := (finalizePaidHttpPayment_ok finalized).inScope
      have sameId : row.id = payment.attempt.id := Table.key_of_find? inScope.found
      refine (coherent r (Table.mem_of_find? located) (inAccount.trans same) row ?_ inScope.located).open? ?_
      · rw [sameId, reason]
      · rw [inScope.status]
        decide
    | _ => trivial
  | _ => trivial

theorem NoProof.releases (unproved : NoProof account s label) : ReleasesPayments account s label := by
  cases label with
  | releaseOnProof reservationId proof => exact fun r found inAccount => (unproved r found inAccount).elim
  | _ => trivial

/-- What an agent has settled and reserved, and what its budget allows -/
def BudgetSafe (account : AccountId) (db : Db) : Prop :=
  ∀ row ∈ db.accounts.find? account,
    db.reservationTotal account .settled + db.reservationTotal account .reserved ≤ row.budget_usdc

instance : Decidable (BudgetSafe account db) := by
  unfold BudgetSafe
  infer_instance

theorem budget_safe_without_escrow {s₀ : State} {events : List (State × Label)} (initial : Initial s₀)
    (run : Run (step hashes) s₀ events s) (held : Conforms (BudgetHeld account budget) events)
    (others : Conforms (FundsOthers hashes account) events) : BudgetSafe account s.db := by
  have both : Conforms (fun s label => BudgetHeld account budget s label ∧ FundsOthers hashes account s label) events :=
    fun e member => ⟨held e member, others e member⟩
  have invariant : Sound s ∧ Recorded s.db ∧ CoherentFor account s.db ∧ OnlyPayments account s.db ∧
      Balanced account s.db ∧ WithinBudget account budget s.db.accounts := by
    refine run.invariant (fun s => Sound s ∧ Recorded s.db ∧ CoherentFor account s.db ∧ OnlyPayments account s.db ∧
      Balanced account s.db ∧ WithinBudget account budget s.db.accounts) both
      ⟨initial.sound, initial.recorded, ?_, ?_, initial.balanced account, ?_⟩ ?_
    · simp [CoherentFor, initial.reservations]
    · simp [OnlyPayments, initial.reservations]
    · simp [WithinBudget, initial.accounts]
    · rintro s label s' ⟨sound, recorded, coherent, only, balanced, within⟩ ⟨held, others⟩ taken
      have moved := step_inversion taken
      have kept : BooksKept account s label := ⟨coherent.finalizesReserved sound label, held.1.releases⟩
      exact ⟨sound.step moved, recorded.write sound moved.write, coherent.write sound recorded held.1 moved.write,
        only.write sound others moved.write, balanced.write sound recorded kept moved.write,
        within.write sound held moved.write⟩
  obtain ⟨-, -, -, only, ⟨reservedIs, spentIs⟩, within⟩ := invariant
  intro row found
  rw [Option.mem_def] at found
  simp only [reservedOf, spentOf, found, Option.map_some, Option.getD_some, only.total] at reservedIs spentIs
  obtain ⟨budgetIs, fits⟩ := within row found
  omega

/-- A budget of 50 micros, and a job funded with 20000 -/
theorem budget_exceeded_by_escrow : ∃ events s, Run (step Workspace.hashes) (Workspace.state .simulation) events s ∧
    ((s.db.accounts.find? (1, 1)).map AgentPaymentAccountRow.budget_usdc = some 50 ∧ ¬BudgetSafe (1, 1) s.db) :=
  exists_run [.setAgentPaymentAccess 1 1 (Workspace.access 50), .createEscrowJob 1 1 ⟨1, 1, .base, 20000, 10⟩,
    .fundEscrowJob 1 1 (.ok ())] _ (by decide)

def plainBudget (budget : Nat) (_ : State) : Label → Bool
  | .fundEscrowJob _ _ _ | .releaseOnProof _ _ => false
  | .setAgentPaymentAccess _ _ input => input.budget_usdc = budget
  | _ => true

theorem budgetHeld_of_plain (plain : plainBudget budget s label = true) :
    BudgetHeld account budget s label ∧ FundsOthers hashes account s label := by
  cases label with
  | releaseOnProof | fundEscrowJob => cases plain
  | setAgentPaymentAccess orgId agentId input => exact ⟨⟨trivial, fun _ => of_decide_eq_true plain⟩, trivial⟩
  | _ => exact ⟨⟨trivial, trivial⟩, trivial⟩

/-- The whole budget is spent. -/
theorem budget_safe_spent : ∃ events s, Run (step Workspace.hashes) (Workspace.state .circleWallets) events s ∧
    s.db.reservationTotal (1, 1) .settled = 5 ∧ BudgetSafe (1, 1) s.db := by
  obtain ⟨events, s, run, both, settled⟩ : ∃ events s, Run (step Workspace.hashes) (Workspace.state .circleWallets) events s ∧
      Conforms (fun s label => BudgetHeld (1, 1) 5 s label ∧ FundsOthers Workspace.hashes (1, 1) s label) events ∧
      s.db.reservationTotal (1, 1) .settled = 5 :=
    exists_conforming_run (.setAgentPaymentAccess 1 1 (Workspace.access 5) :: Workspace.pays 100 Workspace.settles)
      (plainBudget 5) _ (fun _ _ => budgetHeld_of_plain) (by decide)
  exact ⟨events, s, run, settled, budget_safe_without_escrow (Workspace.state_initial _) run
    (both.mono fun _ _ ok => ok.1) (both.mono fun _ _ ok => ok.2)⟩

end AgentOps.Payments
