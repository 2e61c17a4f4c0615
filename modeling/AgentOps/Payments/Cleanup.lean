import AgentOps.Payments.Budget

namespace AgentOps.Payments
open Lib Identity

variable {hashes : Hashes} {db db' : Db} {s s' : State} {label : Label} {account : AccountId}
  {auth : ConnectionAuthResult} {candidate other : StrandedCandidate} {candidates : List StrandedCandidate}

/-! # Stranded reservations can be cancelled -/

structure Consistent (account : AccountId) (s : State) : Prop where
  sound : Sound s
  recorded : Recorded s.db
  coherent : CoherentFor account s.db
  balanced : Balanced account s.db

theorem Initial.consistent {s : State} (initial : Initial s) (account : AccountId) : Consistent account s where
  sound := initial.sound
  recorded := initial.recorded
  coherent := by simp [CoherentFor, initial.reservations]
  balanced := initial.balanced account

theorem Consistent.step (consistent : Consistent account s) (unproved : NoProof account s label)
    (taken : Step hashes s label s') : Consistent account s' where
  sound := consistent.sound.step taken
  recorded := consistent.recorded.write consistent.sound taken.write
  coherent := consistent.coherent.write consistent.sound consistent.recorded unproved taken.write
  balanced := consistent.balanced.write consistent.sound consistent.recorded
    ⟨consistent.coherent.finalizesReserved consistent.sound label, unproved.releases⟩ taken.write

theorem consistent_of_run {s₀ : State} {events : List (State × Label)} (initial : Initial s₀)
    (run : Run (step hashes) s₀ events s) (unproved : Conforms (NoProof account) events) : Consistent account s :=
  run.invariant (Consistent account) unproved (initial.consistent account)
    fun _ _ _ consistent unproved taken => consistent.step unproved (step_inversion taken)

theorem Balanced.covers (balanced : Balanced account db) {r : PaymentReservationRow} (member : r ∈ db.reservations)
    (inAccount : r.account = account) (isOpen : r.status = .reserved) (reason : r.reason_code.isX402 = true)
    {row : AgentPaymentAccountRow} (found : db.accounts.find? account = some row) : r.amount_usdc ≤ row.reserved_usdc := by
  have counted := Table.weight_le_sum (fun r : PaymentReservationRow =>
    if r.account = account ∧ r.status = .reserved ∧ r.reason_code.isX402 = true then r.amount_usdc else 0) member
  rw [if_pos ⟨inAccount, isOpen, reason⟩] at counted
  have reserved := balanced.1
  simp only [reservedOf, found, Option.map_some, Option.getD_some] at reserved
  rw [reserved]
  exact counted

def Cancellable (db : Db) (auth : ConnectionAuthResult) (candidate : StrandedCandidate) : Prop :=
  ∃ r, db.reservations.find? candidate.reservation_id = some r ∧ r.account = accountOf auth ∧
    r.amount_usdc = candidate.amount_usdc ∧ r.reason_code = .x402Attempt candidate.attempt_id ∧
    (r.status = .released ∨ r.status = .reserved ∧ ∃ t, db.attempts.find? candidate.attempt_id = some t ∧
      t.org_id = auth.org_id ∧ t.agent_id = auth.agent_id ∧ t.status = .reserved)

def Released (db : Db) (candidate : StrandedCandidate) : Prop :=
  ∃ r, db.reservations.find? candidate.reservation_id = some r ∧ r.status = .released

theorem Released.keep (released : Released db candidate) (amends : Amends db db') : Released db' candidate := by
  obtain ⟨r, found, closed⟩ := released
  obtain ⟨r', found', same⟩ := amends.reservations.grows _ _ found
  refine ⟨r', found', ?_⟩
  rw [same.closed (by simp [closed]), closed]

theorem cancelCandidate_enabled (linked : Linked db) (balanced : Balanced (accountOf auth) db)
    (cancellable : Cancellable db auth candidate) :
    ∃ db', cancelCandidate db auth candidate = .ok db' ∧ Released db' candidate := by
  obtain ⟨r, found, inAccount, amount, reason, released | ⟨isOpen, t, foundAttempt, org, agent, reserved⟩⟩ := cancellable
  · refine ⟨db, ?_, r, found, released⟩
    simp [cancelCandidate, found, released]
  · have member := Table.mem_of_find? found
    have located : db.reservations.find? r.id = some r := Table.find?_of_mem member
    obtain ⟨row, foundAccount⟩ := linked.account r member _ reason
    rw [inAccount] at foundAccount
    have inOrg : r.org_id = auth.org_id := congrArg Prod.fst inAccount
    have enough := balanced.covers member inAccount isOpen (by rw [reason]; rfl) foundAccount
    rw [amount] at enough
    have eligible : ¬(r.org_id ≠ auth.org_id ∨ r.status ≠ .reserved) := by simp [inOrg, isOpen]
    have inScope : ¬(t.org_id ≠ auth.org_id ∨ t.agent_id ≠ auth.agent_id ∨ t.status ≠ .reserved) := by
      simp [org, agent, reserved]
    refine ⟨{ db with
      reservations := db.reservations.put { r with status := .released }
      accounts := db.accounts.put { row with reserved_usdc := row.reserved_usdc - candidate.amount_usdc }
      attempts := db.attempts.put { t with status := .failed, error_code := some candidate.error_code } }, ?_,
      { r with status := .released }, ?_, rfl⟩
    · simp only [cancelCandidate, found, if_neg eligible, foundAccount, if_neg (Nat.not_lt.mpr enough), foundAttempt,
        if_neg inScope]
    · rw [← Table.key_of_find? found]
      exact Table.find?_put_self (r := { r with status := ReservationStatus.released }) located

theorem Cancellable.keep (cancellable : Cancellable db auth other) (linked : Linked db)
    (first : Cancellable db auth candidate) (cancelled : Cancelled db auth candidate db') :
    Cancellable db' auth other := by
  cases cancelled with
  | passed => exact cancellable
  | @released reservation account attempt foundReservation isOpen foundAccount covers foundAttempt reserved =>
    obtain ⟨r₁, found₁, -, -, reason₁, -⟩ := first
    obtain rfl : reservation = r₁ := Option.some.inj (foundReservation.symm.trans found₁)
    obtain ⟨r, found, inAccount, amount, reason, status⟩ := cancellable
    have attemptId : attempt.id = candidate.attempt_id := Table.key_of_find? foundAttempt
    have after := Table.find?_put (r := { reservation with status := ReservationStatus.released }) found
    by_cases same : reservation.id = other.reservation_id
    · rw [if_pos same] at after
      have isRow : reservation = r := by
        rw [← same, Table.find?_of_mem (Table.mem_of_find? foundReservation)] at found
        exact Option.some.inj found
      subst isRow
      exact ⟨_, after, inAccount, amount, reason, .inl rfl⟩
    · rw [if_neg same] at after
      refine ⟨r, after, inAccount, amount, reason, ?_⟩
      rcases status with released | ⟨open', t, stored, org, agent, reserved'⟩
      · exact .inl released
      · -- the attempts of two reservations are two
        have apart : attempt.id ≠ other.attempt_id := by
          intro sameAttempt
          rw [← attemptId, sameAttempt] at reason₁
          have one := linked.single reservation (Table.mem_of_find? foundReservation) r (Table.mem_of_find? found) _
            reason₁ reason
          rw [one, Table.key_of_find? found] at same
          exact same rfl
        refine .inr ⟨open', t, ?_, org, agent, reserved'⟩
        exact (Table.find?_put_ne (r := { attempt with
          status := X402AttemptStatus.failed, error_code := some candidate.error_code }) apart).trans stored

theorem CandidateOk.of_cancellable (cancellable : Cancellable db auth candidate) : CandidateOk db auth candidate := by
  obtain ⟨r, found, inAccount, amount, reason, -⟩ := cancellable
  exact ⟨r, found, inAccount, amount, reason⟩

theorem Cancelled.linked (cancelled : Cancelled db auth candidate db') (linked : Linked db) : Linked db' := by
  refine linked.amend cancelled.amends ?_
  cases cancelled <;> exact .refl db

theorem cancelCandidates_enabled (linked : Linked db) (balanced : Balanced (accountOf auth) db)
    (cancellable : ∀ candidate ∈ candidates, Cancellable db auth candidate) :
    ∃ db', cancelCandidates auth db candidates = .ok db' ∧ ∀ candidate ∈ candidates, Released db' candidate := by
  induction candidates generalizing db with
  | nil => exact ⟨db, rfl, by simp⟩
  | cons candidate candidates ih =>
    have first := cancellable candidate (List.mem_cons_self ..)
    obtain ⟨db₁, taken, released⟩ := cancelCandidate_enabled linked balanced first
    have cancelled := cancelCandidate_ok taken
    have rest : ∀ other ∈ candidates, Cancellable db₁ auth other := fun other member =>
      (cancellable other (List.mem_cons_of_mem _ member)).keep linked first cancelled
    obtain ⟨db', all, releasedAll⟩ := ih (cancelled.linked linked) (balanced.cancel (.of_cancellable first) cancelled) rest
    refine ⟨db', by simp [cancelCandidates, taken, all], fun other member => ?_⟩
    rcases List.mem_cons.mp member with rfl | member
    · exact released.keep (cancelCandidates_amends all)
    · exact releasedAll other member

theorem cancellable_of_stranded {approvals : Approvals.Requests} {now : Time}
    (member : candidate ∈ strandedCandidates db approvals now auth) : Cancellable db auth candidate := by
  obtain ⟨r, found, inAccount, amount, reason⟩ := candidateOk_of_stranded member
  obtain ⟨t, stored, r', storedRow, stranded, rfl⟩ := mem_strandedCandidates member
  obtain rfl : r' = r := Option.some.inj ((Table.find?_of_mem storedRow).symm.trans found)
  simp only [isStranded, decide_eq_true_eq] at stranded
  obtain ⟨org, agent, -, -, -, reserved, isOpen, -⟩ := stranded
  exact ⟨r', found, inAccount, amount, reason, .inr ⟨isOpen, t, Table.find?_of_mem stored, org, agent, reserved⟩⟩

theorem cleanup_enabled (linked : Linked db) (balanced : Balanced (accountOf auth) db) (approvals : Approvals.Requests)
    (now : Time) : ∃ db', cancelCandidates auth db (strandedCandidates db approvals now auth) = .ok db' ∧
      ∀ candidate ∈ strandedCandidates db approvals now auth, Released db' candidate :=
  cancelCandidates_enabled linked balanced fun _ member => cancellable_of_stranded member

theorem reserved_before (cancelled : cancelCandidates auth db candidates = .ok db') :
    (∀ t ∈ db'.attempts, t.status = .reserved → t ∈ db.attempts) ∧
      ∀ r ∈ db'.reservations, r.status = .reserved → r ∈ db.reservations := by
  refine cancelCandidates_invariant (fun db' => (∀ t ∈ db'.attempts, t.status = .reserved → t ∈ db.attempts) ∧
    ∀ r ∈ db'.reservations, r.status = .reserved → r ∈ db.reservations) cancelled ⟨fun _ member _ => member,
      fun _ member _ => member⟩ ?_
  rintro candidate - db₁ db₂ ⟨attempts, reservations⟩ one
  cases one with
  | passed => exact ⟨attempts, reservations⟩
  | released =>
    constructor
    · intro t member reserved
      rcases Table.mem_put.mp member with ⟨earlier, -⟩ | ⟨rfl, -⟩
      · exact attempts t earlier reserved
      · cases reserved
    · intro r member reserved
      rcases Table.mem_put.mp member with ⟨earlier, -⟩ | ⟨rfl, -⟩
      · exact reservations r earlier reserved
      · cases reserved

theorem candidateOf_mem {approvals : Approvals.Requests} {now : Time} {t : X402AttemptRow} {r : PaymentReservationRow}
    (stored : t ∈ db.attempts) (storedRow : r ∈ db.reservations) (stranded : isStranded approvals now auth t r = true) :
    candidateOf approvals now t r ∈ strandedCandidates db approvals now auth := by
  rw [strandedCandidates, List.mem_insertionSort, List.mem_flatMap]
  exact ⟨t, stored, List.mem_map_of_mem (List.mem_filter.mpr ⟨storedRow, stranded⟩)⟩

/-- In every state reached cleaning up succeeds, releases all that is stranded, and leaves nothing to be found again. -/
theorem stranded_cleaned {s₀ : State} {events : List (State × Label)} (initial : Initial s₀)
    (run : Run (step hashes) s₀ events s) (unproved : Conforms (NoProof (accountOf auth)) events) (now : Time) :
    ∃ db', cancelCandidates auth s.db (strandedCandidates s.db s.approvals.approvals now auth) = .ok db' ∧
      (∀ candidate ∈ strandedCandidates s.db s.approvals.approvals now auth, Released db' candidate) ∧
      strandedCandidates db' s.approvals.approvals now auth = [] := by
  have consistent := consistent_of_run initial run unproved
  obtain ⟨db', cancelled, released⟩ := cleanup_enabled consistent.sound.linked consistent.balanced s.approvals.approvals now
  refine ⟨db', cancelled, released, List.eq_nil_iff_forall_not_mem.mpr fun candidate member => ?_⟩
  obtain ⟨t, stored, r, storedRow, stranded, rfl⟩ := mem_strandedCandidates member
  have open? := stranded
  simp only [isStranded, decide_eq_true_eq] at open?
  obtain ⟨-, -, -, -, -, reserved, isOpen, -⟩ := open?
  obtain ⟨attempts, reservations⟩ := reserved_before cancelled
  obtain ⟨r', found, closed⟩ := released _ (candidateOf_mem (attempts t stored reserved) (reservations r storedRow isOpen) stranded)
  obtain rfl : r = r' := Option.some.inj ((Table.find?_of_mem storedRow).symm.trans found)
  rw [isOpen] at closed
  cases closed

def withoutProof (_ : State) : Label → Bool
  | .releaseOnProof .. => false
  | _ => true

theorem noProof_of_withoutProof (s : State) (label : Label) (without : withoutProof s label = true) :
    NoProof account s label := by
  cases label with
  | releaseOnProof => cases without
  | _ => trivial

/-- A payment is prepared and never submitted, and its reservation expires. -/
theorem stranded_cleaned_expired : ∃ events s, Run (step Workspace.hashes) (Workspace.state .circleWallets) events s ∧
    (strandedCandidates s.db s.approvals.approvals s.now Workspace.auth).length = 1 ∧
    ∃ db', cancelCandidates Workspace.auth s.db (strandedCandidates s.db s.approvals.approvals s.now Workspace.auth) = .ok db' ∧
      strandedCandidates db' s.approvals.approvals s.now Workspace.auth = [] := by
  obtain ⟨events, s, run, unproved, one⟩ : ∃ events s, Run (step Workspace.hashes) (Workspace.state .circleWallets) events s ∧
      Conforms (NoProof (accountOf Workspace.auth)) events ∧
      (strandedCandidates s.db s.approvals.approvals s.now Workspace.auth).length = 1 :=
    exists_conforming_run (.setAgentPaymentAccess 1 1 (Workspace.access 5) :: Workspace.pays 100 Workspace.prepares ++
      [.approvals (.tick fifteenMinutes)]) withoutProof
      (fun s : State => (strandedCandidates s.db s.approvals.approvals s.now Workspace.auth).length = 1)
      (fun s label => noProof_of_withoutProof s label) (by decide +kernel)
  obtain ⟨db', cancelled, -, none⟩ := stranded_cleaned (Workspace.state_initial _) run unproved s.now
  exact ⟨events, s, run, one, db', cancelled, none⟩

end AgentOps.Payments
