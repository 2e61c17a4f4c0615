import AgentOps.Payments.Coherence

namespace AgentOps.Payments
open Lib Identity

variable {hashes : Hashes} {db db' : Db} {s s' : State} {call : Call} {label : Label} {account : AccountId}

/-! # The counters of an account and its reservations -/

def ReasonCode.isX402 : ReasonCode → Bool
  | .x402Attempt _ => true
  | .escrowJob _ => false

theorem ReasonCode.isX402_iff {reason : ReasonCode} : reason.isX402 = true ↔ ∃ id, reason = .x402Attempt id := by
  cases reason <;> simp [isX402]

/-- The sum of `amount_usdc` over an agent's reservations of one status -/
def Db.reservationTotal (db : Db) (account : AccountId) (status : ReservationStatus) : Nat :=
  db.reservations.sum fun r => if r.account = account ∧ r.status = status then r.amount_usdc else 0

def Db.x402Total (db : Db) (account : AccountId) (status : ReservationStatus) : Nat :=
  db.reservations.sum fun r =>
    if r.account = account ∧ r.status = status ∧ r.reason_code.isX402 = true then r.amount_usdc else 0

def reservedOf (accounts : Table AgentPaymentAccountRow.key) (account : AccountId) : Nat :=
  ((accounts.find? account).map AgentPaymentAccountRow.reserved_usdc).getD 0

def spentOf (accounts : Table AgentPaymentAccountRow.key) (account : AccountId) : Nat :=
  ((accounts.find? account).map AgentPaymentAccountRow.spent_usdc).getD 0

def Balanced (account : AccountId) (db : Db) : Prop :=
  reservedOf db.accounts account = db.x402Total account .reserved ∧
    spentOf db.accounts account = db.x402Total account .settled

theorem Recounted.find? {accounts accounts' : Table AgentPaymentAccountRow.key} {counted : AccountId}
    {reserved spent : Nat → Nat} (recounted : Recounted accounts counted reserved spent accounts')
    {row : AgentPaymentAccountRow} (found : accounts.find? counted = some row) :
    accounts'.find? counted = some (row.recount reserved spent) := by
  cases recounted with
  | missing none =>
    rw [found] at none
    cases none
  | @counted row' found' =>
    obtain rfl : row = row' := Option.some.inj (found.symm.trans found')
    have sameKey : row.key = counted := Table.key_of_find? found
    subst sameKey
    exact Table.find?_put_self (r := row.recount reserved spent) found

theorem counters_congr {accounts accounts' : Table AgentPaymentAccountRow.key}
    (same : accounts'.find? account = accounts.find? account) :
    reservedOf accounts' account = reservedOf accounts account ∧ spentOf accounts' account = spentOf accounts account := by
  simp only [reservedOf, spentOf, same, and_self]

theorem Recounted.counters {accounts accounts' : Table AgentPaymentAccountRow.key} {counted : AccountId}
    {reserved spent : Nat → Nat} (recounted : Recounted accounts counted reserved spent accounts')
    (stored : ∃ row, accounts.find? counted = some row) (account : AccountId) :
    reservedOf accounts' account =
        (if counted = account then reserved (reservedOf accounts account) else reservedOf accounts account) ∧
      spentOf accounts' account =
        (if counted = account then spent (spentOf accounts account) else spentOf accounts account) := by
  by_cases same : counted = account
  · subst same
    obtain ⟨row, found⟩ := stored
    simp only [reservedOf, spentOf, found, recounted.find? found, if_true, Option.map_some, Option.getD_some]
    exact ⟨rfl, rfl⟩
  · rw [if_neg same, if_neg same]
    exact counters_congr (recounted.other (Ne.symm same))

theorem Covers.le {accounts : Table AgentPaymentAccountRow.key} {amount : Nat} (covers : Covers accounts account amount)
    (stored : ∃ row, accounts.find? account = some row) : amount ≤ reservedOf accounts account := by
  obtain ⟨row, found⟩ := stored
  simp only [reservedOf, found, Option.map_some, Option.getD_some]
  exact covers row found

def x402Amount (account : AccountId) (row : PaymentReservationRow) : Nat :=
  if row.account = account ∧ row.reason_code.isX402 = true then row.amount_usdc else 0

theorem x402Total_close (db' : Db) (account : AccountId) {row : PaymentReservationRow} {id : ReservationId}
    {status : ReservationStatus}
    (found : db.reservations.find? id = some row) (isOpen : row.status = .reserved) (closing : status ≠ .reserved)
    (reservations : db'.reservations = db.reservations.put { row with status }) :
    db'.x402Total account .reserved + x402Amount account row = db.x402Total account .reserved ∧
      db'.x402Total account .settled =
        db.x402Total account .settled + (if status = .settled then x402Amount account row else 0) := by
  have located : db.reservations.find? row.id = some row := by
    rw [Table.key_of_find? found]
    exact found
  have moved (w : PaymentReservationRow → Nat) :
      (db.reservations.put { row with status }).sum w + w row = db.reservations.sum w + w { row with status } :=
    Table.sum_put w located
  unfold Db.x402Total
  rw [reservations]
  have open' := moved fun r =>
    if r.account = account ∧ r.status = .reserved ∧ r.reason_code.isX402 = true then r.amount_usdc else 0
  have settled' := moved fun r =>
    if r.account = account ∧ r.status = .settled ∧ r.reason_code.isX402 = true then r.amount_usdc else 0
  have sameAccount : PaymentReservationRow.account { row with status } = row.account := rfl
  simp only [sameAccount, isOpen, closing, true_and, false_and, and_false, if_false, reduceCtorEq] at open' settled'
  constructor
  · exact open'
  · cases status with
    | reserved => exact (closing rfl).elim
    | settled => simpa [x402Amount] using settled'
    | released => simpa using settled'

theorem x402Total_insert (db' : Db) (account : AccountId) {row : PaymentReservationRow}
    {reservations : Table PaymentReservationRow.id}
    (inserted : db.reservations.insert? row = some reservations) (same : db'.reservations = reservations)
    (isOpen : row.status = .reserved) :
    db'.x402Total account .reserved = x402Amount account row + db.x402Total account .reserved ∧
      db'.x402Total account .settled = db.x402Total account .settled := by
  unfold Db.x402Total
  rw [same, Table.sum_insert? _ inserted, Table.sum_insert? _ inserted]
  simp [x402Amount, isOpen]

theorem Configured.counters {configured : AccountId} {input : SetAgentPaymentAccessInput}
    (changed : Configured db configured input db') (account : AccountId) :
    reservedOf db'.accounts account = reservedOf db.accounts account ∧
      spentOf db'.accounts account = spentOf db.accounts account := by
  cases changed with
  | @updated row found =>
    by_cases here : row.key = account
    · subst here
      have located : db.accounts.find? row.key = some row := Table.find?_of_mem (Table.mem_of_find? found)
      have updated : (db.accounts.put (row.configure input)).find? row.key = some (row.configure input) :=
        Table.find?_put_self (r := row.configure input) located
      simp only [reservedOf, spentOf, located, updated, Option.map_some, Option.getD_some]
      exact ⟨rfl, rfl⟩
    · exact counters_congr (Table.find?_put_ne here)
  | @opened row accounts key missing inserted unused budget =>
    by_cases here : row.key = account
    · subst here
      have found := Table.find?_insert?_self inserted
      have absent := (Table.insert?_eq_some inserted).2
      simp [reservedOf, spentOf, found, absent, unused]
    · exact counters_congr (Table.find?_insert?_ne inserted here)

theorem Balanced.of_counters (balanced : Balanced account db) (reservations : db'.reservations = db.reservations)
    (reserved : reservedOf db'.accounts account = reservedOf db.accounts account)
    (spent : spentOf db'.accounts account = spentOf db.accounts account) : Balanced account db' := by
  unfold Balanced Db.x402Total
  rw [reservations, reserved, spent]
  exact balanced

theorem Balanced.congr (balanced : Balanced account db) (reservations : db'.reservations = db.reservations)
    (accounts : db'.accounts.find? account = db.accounts.find? account) : Balanced account db' := by
  obtain ⟨reserved, spent⟩ := counters_congr accounts
  exact balanced.of_counters reservations reserved spent

theorem Balanced.close {row : PaymentReservationRow} {id : ReservationId} {status : ReservationStatus}
    {spent : Nat → Nat} (balanced : Balanced account db) (found : db.reservations.find? id = some row)
    (isOpen : row.status = .reserved) (reason : row.reason_code.isX402 = true) (closing : status ≠ .reserved)
    (reservations : db'.reservations = db.reservations.put { row with status })
    (counted : Recounted db.accounts row.account (· - row.amount_usdc) spent db'.accounts)
    (covers : Covers db.accounts row.account row.amount_usdc)
    (stored : ∃ accountRow, db.accounts.find? row.account = some accountRow)
    (gains : ∀ n, spent n = n + if status = .settled then row.amount_usdc else 0) : Balanced account db' := by
  obtain ⟨openRows, settledRows⟩ := x402Total_close db' account found isOpen closing reservations
  obtain ⟨reservedIs, spentIs⟩ := counted.counters stored account
  unfold Balanced at *
  rw [gains] at spentIs
  unfold x402Amount at openRows settledRows
  by_cases same : row.account = account
  · subst same
    have enough := covers.le stored
    simp only [reason, and_self, if_true] at openRows settledRows reservedIs spentIs
    omega
  · simp only [same, false_and, if_false, ite_self] at openRows settledRows reservedIs spentIs
    omega

def FinalizesReserved (account : AccountId) (s : State) : Label → Prop
  | .call id (.finalize eventId) => ∀ call payment settlement result, s.calls.find? id = some call →
      call.phase = .evidenced payment settlement → accountOf call.auth = account →
      recordedStatus settlement ≠ .unknown →
      finalizePaidHttpPayment s.db s.now call.auth payment settlement eventId = .ok result →
      ∀ r, s.db.reservations.find? payment.reservationId = some r → r.status = .reserved
  | _ => True

def ReleasesPayments (account : AccountId) (s : State) : Label → Prop
  | .releaseOnProof reservationId _ => ∀ r, s.db.reservations.find? reservationId = some r → r.account = account →
      r.reason_code.isX402 = true
  | _ => True

def BooksKept (account : AccountId) (s : State) (label : Label) : Prop :=
  FinalizesReserved account s label ∧ ReleasesPayments account s label

theorem Linked.stored {row : PaymentReservationRow} (linked : Linked db) (member : row ∈ db.reservations)
    (reason : row.reason_code.isX402 = true) : ∃ accountRow, db.accounts.find? row.account = some accountRow := by
  obtain ⟨id, reason⟩ := ReasonCode.isX402_iff.mp reason
  exact linked.account row member id reason

theorem Recorded.isX402 (recorded : Recorded db) {row : PaymentReservationRow} {id : ReservationId}
    (found : db.reservations.find? id = some row) {event : PaymentEventRow} (member : event ∈ db.events)
    (names : event.reservation_id = id) : row.reason_code.isX402 = true := by
  obtain ⟨r, t, foundRow, reason, -⟩ := recorded.event event member
  rw [names] at foundRow
  obtain rfl : row = r := Option.some.inj (found.symm.trans foundRow)
  exact ReasonCode.isX402_iff.mpr ⟨_, reason⟩

theorem Balanced.other {counted : AccountId} {reserved spent : Nat → Nat} (balanced : Balanced account db)
    (recounted : Recounted db.accounts counted reserved spent db'.accounts) (apart : counted ≠ account)
    (reserved' : db'.x402Total account .reserved = db.x402Total account .reserved)
    (settled' : db'.x402Total account .settled = db.x402Total account .settled) : Balanced account db' := by
  obtain ⟨reservedIs, spentIs⟩ := counters_congr (recounted.other apart.symm)
  unfold Balanced
  rw [reservedIs, spentIs, reserved', settled']
  exact balanced

theorem x402Total_close_job (db' : Db) (account : AccountId) {row : PaymentReservationRow} {id : ReservationId} {orgId : OrgId}
    {status : ReservationStatus} (found : db.reservations.find? id = some row) (closing : status ≠ .reserved)
    (job : row.reason_code.isX402 = false)
    (reservations : db'.reservations = (db.closeReservation id orgId status).reservations) :
    db'.x402Total account .reserved = db.x402Total account .reserved ∧
      db'.x402Total account .settled = db.x402Total account .settled := by
  by_cases eligible : row.org_id = orgId ∧ row.status = .reserved
  · rw [closeReservation_of_open _ found eligible.1 eligible.2] at reservations
    have closed := x402Total_close db' account found eligible.2 closing reservations
    simpa [x402Amount, job] using closed
  · have same : (db.closeReservation id orgId status).reservations = db.reservations := by
      simp [Db.closeReservation, found, eligible]
    simp [Db.x402Total, reservations, same]

theorem Balanced.operator (balanced : Balanced account s.db) (linked : Linked s.db) (recorded : Recorded s.db)
    (kept : BooksKept account s label) (write : OperatorWrite hashes s label db) : Balanced account db := by
  cases write with
  | unchanged | registry | jobCreated => exact balanced
  | configured free configured =>
    obtain ⟨reserved, spent⟩ := configured.counters account
    cases configured <;> exact balanced.of_counters rfl reserved spent
  | resolved free resolved =>
    obtain ⟨row, found, isOpen, ⟨event, member, names, -⟩, resolved⟩ := resolveUnknownAttempt_ok resolved
    have reason := recorded.isX402 found member names
    have stored := linked.stored (Table.mem_of_find? found) reason
    cases resolved with
    | failed counted covers => exact balanced.close found isOpen reason (by simp) rfl counted covers stored (by simp)
    | settled counted covers => exact balanced.close found isOpen reason (by simp) rfl counted covers stored (by simp)
  | released free released =>
    obtain ⟨row, accounts, found, isOpen, counted, covers, rfl⟩ := releaseOnProof_ok released
    cases reason : row.reason_code.isX402 with
    | true =>
      have stored := linked.stored (Table.mem_of_find? found) reason
      exact balanced.close found isOpen reason (by simp) rfl counted covers stored (by simp)
    | false =>
      have apart : row.account ≠ account := by
        intro same
        rw [kept.2 row found same] at reason
        cases reason
      have same := x402Total_close { s.db with reservations := s.db.reservations.put { row with status := .released } }
        account found isOpen (by simp) rfl
      simp only [x402Amount, reason, Bool.false_eq_true, and_false, if_false, ite_self, Nat.add_zero] at same
      exact balanced.other counted apart same.1 same.2
  | @purged locked batchLimit =>
    obtain ⟨attempts, purged, -⟩ := purge_scrubbed s.db s.now locked batchLimit
    rw [purged]
    exact balanced
  | jobFunded funded =>
    cases fundEscrowJob_ok funded with
    | @funded job source reservations found isOpen inserted =>
      have same := x402Total_insert { s.db with reservations } account inserted rfl rfl
      simp only [x402Amount, escrowReservation, ReasonCode.isX402, Bool.false_eq_true, and_false, if_false,
        Nat.zero_add] at same
      unfold Balanced at *
      rw [← same.1, ← same.2] at balanced
      exact balanced
  | @jobMoved label job job' db moved =>
    obtain ⟨reservations, rfl, outcome⟩ := moved.tables
    rcases outcome with rfl | ⟨id, status, reserved, closing, rfl⟩
    · exact balanced
    · obtain ⟨row, found, reason⟩ := linked.job job (Table.mem_of_find? moved.found) id reserved
      have same := x402Total_close_job
        { s.db with reservations := (s.db.closeReservation id job.org_id status).reservations } account found closing
        (by rw [reason]; rfl) rfl
      unfold Balanced at *
      rw [← same.1, ← same.2] at balanced
      exact balanced

theorem Balanced.cancel {auth : ConnectionAuthResult} {candidate : StrandedCandidate} (balanced : Balanced account db)
    (known : CandidateOk db auth candidate) (cancelled : Cancelled db auth candidate db') : Balanced account db' := by
  obtain ⟨r, found, inAccount, amount, reason⟩ := known
  cases cancelled with
  | passed => exact balanced
  | @released reservation accountRow attempt foundReservation isOpen foundAccount covers foundAttempt reserved =>
    obtain rfl : reservation = r := Option.some.inj (foundReservation.symm.trans found)
    have stored : db.accounts.find? reservation.account = some accountRow := by
      rw [inAccount]
      exact foundAccount
    have covered : Covers db.accounts reservation.account reservation.amount_usdc := by
      intro row found'
      obtain rfl : accountRow = row := Option.some.inj (stored.symm.trans found')
      rw [amount]
      exact covers
    have counted : Recounted db.accounts reservation.account (· - reservation.amount_usdc) id
        (db.accounts.put (accountRow.recount (· - candidate.amount_usdc) id)) := by
      rw [← amount]
      exact .counted stored
    exact balanced.close found isOpen (by rw [reason]; rfl) (by simp) rfl counted covered ⟨accountRow, stored⟩ (by simp)

theorem Balanced.cancelAll {auth : ConnectionAuthResult} {candidates : List StrandedCandidate}
    (balanced : Balanced account db) (known : ∀ candidate ∈ candidates, CandidateOk db auth candidate)
    (cancelled : cancelCandidates auth db candidates = .ok db') : Balanced account db' := by
  have kept : Balanced account db' ∧ Amends db db' := by
    refine cancelCandidates_invariant (fun db' => Balanced account db' ∧ Amends db db') cancelled
      ⟨balanced, .refl db⟩ ?_
    rintro candidate member db₁ db₂ ⟨balanced₁, amends₁⟩ one
    exact ⟨balanced₁.cancel ((known candidate member).keep amends₁.keeps) one, amends₁.trans one.amends⟩
  exact kept.1

theorem Balanced.prepare {began : Time} {auth : ConnectionAuthResult} {key : String} {requestHash : Hash}
    {quote : RuntimeQuote} {source : PaymentSourceRow} {resource : JsonObject} {gate : PolicyGate}
    {attemptId : AttemptId} {reservationId : ReservationId} {payment : PreparedPaidHttpPayment}
    (balanced : Balanced account db)
    (prepared : Prepared hashes db began auth key requestHash quote source resource gate attemptId reservationId db' payment)
    (stored : ∃ accountRow, db.accounts.find? (accountOf auth) = some accountRow) : Balanced account db' := by
  obtain ⟨attempts, reservations, accounts, -, inserted, counted, rfl⟩ := prepared.tables
  obtain ⟨reservedIs, spentIs⟩ := counted.counters stored account
  have total := x402Total_insert { db with reservations } account inserted rfl rfl
  have sameAccount : (reservationOf reservationId began auth quote source attemptId payment.quoteHash
      payment.quotePayload).account = accountOf auth := rfl
  unfold x402Amount at total
  rw [sameAccount] at total
  simp only [reservationOf, ReasonCode.isX402, and_true] at total
  unfold Balanced at *
  show reservedOf accounts account = ({ db with reservations } : Db).x402Total account .reserved ∧
    spentOf accounts account = ({ db with reservations } : Db).x402Total account .settled
  by_cases same : accountOf auth = account
  · simp only [same, if_true, id] at total reservedIs spentIs
    omega
  · simp only [same, if_false] at total reservedIs spentIs
    omega

theorem Balanced.finalize {now : Time} {payment : PreparedPaidHttpPayment} {settlement : RuntimeX402SettlementResult}
    {eventId : EventId} {result : RuntimeX402PaymentResult} (balanced : Balanced account db) (linked : Linked db)
    (ok : PaymentOk db call payment 1)
    (isOpen : accountOf call.auth = account → recordedStatus settlement ≠ .unknown →
      ∀ r, db.reservations.find? payment.reservationId = some r → r.status = .reserved)
    (finalized : Finalized db now call.auth payment settlement eventId db' result) : Balanced account db' := by
  obtain ⟨r, found, reason, inAccount, inOrg, amount⟩ := ok.row
  have isX402 : r.reason_code.isX402 = true := by
    rw [reason]
    rfl
  have stored := linked.stored (Table.mem_of_find? found) isX402
  -- a reservation of another account, open or not
  have other (status : ReservationStatus) {spent : Nat → Nat} {accounts : Table AgentPaymentAccountRow.key}
      {db'' : Db} (closing : status ≠ .reserved)
      (counted : Recounted db.accounts (accountOf call.auth) (· - payment.quote.amountMicros) spent accounts)
      (apart : accountOf call.auth ≠ account)
      (reservations : db''.reservations = (db.closeReservation payment.reservationId call.auth.org_id status).reservations)
      (accountsIs : db''.accounts = accounts) : Balanced account db'' := by
    subst accountsIs
    have totals : db''.x402Total account .reserved = db.x402Total account .reserved ∧
        db''.x402Total account .settled = db.x402Total account .settled := by
      by_cases reserved : r.status = .reserved
      · rw [closeReservation_of_open _ found inOrg reserved] at reservations
        have closed := x402Total_close db'' account found reserved closing reservations
        simpa [x402Amount, inAccount, apart] using closed
      · rw [closeReservation_of_closed _ found reserved] at reservations
        simp [Db.x402Total, reservations]
    exact balanced.other counted apart totals.1 totals.2
  cases finalized with
  | settled answered status inScope counted covers debited inserted =>
    by_cases same : accountOf call.auth = account
    · have reserved := isOpen same (by rw [recordedStatus_settled answered status]; simp) r found
      rw [← amount, ← inAccount] at counted covers
      have closed : (db.closeReservation payment.reservationId call.auth.org_id .settled).reservations =
          db.reservations.put { r with status := .settled } := by
        rw [closeReservation_of_open _ found inOrg reserved]
      exact balanced.close found reserved isX402 (by simp) closed counted covers stored (by simp)
    · exact other .settled (by simp) counted same rfl rfl
  | failed status inScope counted covers inserted =>
    by_cases same : accountOf call.auth = account
    · have reserved := isOpen same (by rw [recordedStatus_failed status]; simp) r found
      rw [← amount, ← inAccount] at counted covers
      have closed : (db.closeReservation payment.reservationId call.auth.org_id .released).reservations =
          db.reservations.put { r with status := .released } := by
        rw [closeReservation_of_open _ found inOrg reserved]
      exact balanced.close found reserved isX402 (by simp) closed counted covers stored (by simp)
    · exact other .released (by simp) counted same rfl rfl
  | unknown status inScope inserted => exact balanced

theorem Balanced.write (balanced : Balanced account s.db) (sound : Sound s) (recorded : Recorded s.db)
    (kept : BooksKept account s label) (write : Write hashes s label db) : Balanced account db := by
  cases write with
  | unchanged => exact balanced
  | operator write => exact balanced.operator sound.linked recorded kept write
  | call found write =>
    cases write with
    | unchanged => exact balanced
    | stranded phase free cancelled => exact balanced.cancelAll (sound.known found phase) cancelled
    | scrubbed | revised => exact balanced
    | prepared phase written =>
      obtain ⟨fresh, -⟩ := sound.known found phase
      exact balanced.prepare (sound.prepared found phase written) ⟨_, fresh.1.1⟩
    | finalized phase free finalized =>
      exact balanced.finalize sound.linked (sound.known found phase)
        (fun same known => kept.1 _ _ _ _ found phase same known finalized) (finalizePaidHttpPayment_ok finalized)

theorem Initial.balanced {s : State} (initial : Initial s) (account : AccountId) : Balanced account s.db := by
  simp [Balanced, reservedOf, spentOf, Db.x402Total, initial.accounts, initial.reservations]

def CountersExact (account : AccountId) (db : Db) : Prop :=
  ∀ row ∈ db.accounts.find? account,
    row.reserved_usdc = db.reservationTotal account .reserved ∧ row.spent_usdc = db.reservationTotal account .settled

instance : Decidable (CountersExact account db) := by
  unfold CountersExact
  infer_instance

def FundsOthers (hashes : Hashes) (account : AccountId) (s : State) : Label → Prop
  | .fundEscrowJob id reservationId onchain => ∀ job db, s.db.escrowJobs.find? id = some job →
      (job.org_id, job.client_agent_id) = account →
      fundEscrowJob hashes s.db s.now id reservationId onchain ≠ .ok db
  | _ => True

def CountersKept (hashes : Hashes) (account : AccountId) (s : State) (label : Label) : Prop :=
  FundsOthers hashes account s label ∧ FinalizesReserved account s label

def OnlyPayments (account : AccountId) (db : Db) : Prop :=
  ∀ r ∈ db.reservations, r.account = account → r.reason_code.isX402 = true

theorem OnlyPayments.amend (only : OnlyPayments account db) (amends : Amends db db') : OnlyPayments account db' := by
  intro r' member inAccount
  obtain ⟨r, found, same⟩ := amends.reservations.source (Table.find?_of_mem member)
  rw [same.account] at inAccount
  rw [same.same]
  exact only r (Table.mem_of_find? found) inAccount

theorem OnlyPayments.insert {row : PaymentReservationRow} {reservations : Table PaymentReservationRow.id}
    (only : OnlyPayments account db) (inserted : db.reservations.insert? row = some reservations)
    (same : db'.reservations = reservations) (ok : row.account = account → row.reason_code.isX402 = true) :
    OnlyPayments account db' := by
  intro r member inAccount
  rw [same] at member
  rcases (Table.mem_insert? inserted).mp member with rfl | member
  · exact ok inAccount
  · exact only r member inAccount

theorem OnlyPayments.write (only : OnlyPayments account s.db) (sound : Sound s)
    (others : FundsOthers hashes account s label) (write : Write hashes s label db) : OnlyPayments account db := by
  cases write with
  | unchanged => exact only
  | operator write =>
    rcases write.amends with ⟨amends, -⟩ | ⟨id, reservationId, onchain, rfl, taken⟩
    · exact only.amend amends
    · cases fundEscrowJob_ok taken with
      | funded found isOpen inserted =>
        refine only.insert inserted rfl fun same => ?_
        exact (others _ _ found same taken).elim
  | call found write =>
    rcases sound.call_amends found write with amends | ⟨tx, quote, source, gate, attemptId, reservationId, payment, prepared⟩
    · exact only.amend amends
    · obtain ⟨attempts, reservations, accounts, -, inserted, -, rfl⟩ := prepared.tables
      exact only.insert inserted rfl fun _ => rfl

theorem OnlyPayments.total (only : OnlyPayments account db) (status : ReservationStatus) :
    db.x402Total account status = db.reservationTotal account status := by
  refine Table.sum_congr fun r member => ?_
  by_cases inAccount : r.account = account
  · simp [inAccount, only r member inAccount]
  · simp [inAccount]

theorem OnlyPayments.releases (only : OnlyPayments account s.db) (label : Label) : ReleasesPayments account s label := by
  cases label with
  | releaseOnProof reservationId proof => exact fun r found inAccount => only r (Table.mem_of_find? found) inAccount
  | _ => trivial

theorem counters_exact_while_kept {s₀ : State} {events : List (State × Label)} (initial : Initial s₀)
    (run : Run (step hashes) s₀ events s) (kept : Conforms (CountersKept hashes account) events) :
    CountersExact account s.db := by
  have invariant : Sound s ∧ Recorded s.db ∧ OnlyPayments account s.db ∧ Balanced account s.db := by
    refine run.invariant (fun s => Sound s ∧ Recorded s.db ∧ OnlyPayments account s.db ∧ Balanced account s.db) kept
      ⟨initial.sound, initial.recorded, ?_, initial.balanced account⟩ ?_
    · simp [OnlyPayments, initial.reservations]
    · rintro s label s' ⟨sound, recorded, only, balanced⟩ ⟨others, reserved⟩ taken
      have moved := step_inversion taken
      refine ⟨sound.step moved, recorded.write sound moved.write, only.write sound others moved.write, ?_⟩
      exact balanced.write sound recorded ⟨reserved, only.releases label⟩ moved.write
  obtain ⟨-, -, only, reservedIs, spentIs⟩ := invariant
  intro row found
  rw [Option.mem_def] at found
  simp only [reservedOf, spentOf, found, Option.map_some, Option.getD_some] at reservedIs spentIs
  rw [reservedIs, spentIs, only.total, only.total]
  exact ⟨rfl, rfl⟩

/-- A job of the agent is funded with 20000 micros, which its counters never see. -/
theorem counters_miss_escrow : ∃ events s, Run (step Workspace.hashes) (Workspace.state .simulation) events s ∧
    s.db.reservationTotal (1, 1) .reserved = 20000 ∧ ¬CountersExact (1, 1) s.db :=
  exists_run [.setAgentPaymentAccess 1 1 (Workspace.access 50), .createEscrowJob 1 1 ⟨1, 1, .base, 20000, 10⟩,
    .fundEscrowJob 1 1 (.ok ())] _ (by decide)

def plainBooks (s : State) : Label → Bool
  | .fundEscrowJob _ _ _ => false
  | .call _ (.finalize _) => s.db.reservations.rows.all fun r => r.status = .reserved
  | _ => true

theorem countersKept_of_plain (plain : plainBooks s label = true) : CountersKept hashes account s label := by
  constructor
  · cases label <;> trivial
  · cases label with
    | call id event =>
      cases event with
      | finalize eventId =>
        intro call payment settlement result _ _ _ _ _ r found
        simpa using List.all_eq_true.mp plain r (Table.mem_of_find? found)
      | _ => trivial
    | _ => trivial

theorem counters_exact_settled : ∃ events s, Run (step Workspace.hashes) (Workspace.state .circleWallets) events s ∧
    s.db.reservationTotal (1, 1) .settled = 5 ∧ CountersExact (1, 1) s.db := by
  obtain ⟨events, s, run, kept, settled⟩ : ∃ events s, Run (step Workspace.hashes) (Workspace.state .circleWallets) events s ∧
      Conforms (CountersKept Workspace.hashes (1, 1)) events ∧ s.db.reservationTotal (1, 1) .settled = 5 :=
    exists_conforming_run (.setAgentPaymentAccess 1 1 (Workspace.access 50) :: Workspace.pays 100 Workspace.settles)
      plainBooks _ (fun _ _ => countersKept_of_plain) (by decide)
  exact ⟨events, s, run, settled, counters_exact_while_kept (Workspace.state_initial _) run kept⟩

end AgentOps.Payments
