import AgentOps.Payments.CallSteps
import AgentOps.Payments.OperatorEffects

namespace AgentOps.Payments
open Lib Identity

variable {hashes : Hashes} {s s' : State} {label : Label}

/-! # The steps of the system by their outcomes -/

inductive OperatorWrite (hashes : Hashes) (s : State) : Label → Db → Prop where
  | unchanged {label : Label} : OperatorWrite hashes s label s.db
  | registry {label : Label} {orgs : Table OrgRow.id} {agents : Table AgentRow.id} {allowlist : Table AllowlistRow.key}
      {sources : Table PaymentSourceRow.id} (kept : Table.Grows SameSource s.db.sources sources) :
      OperatorWrite hashes s label { s.db with orgs, agents, allowlist, sources }
  | configured {orgId : OrgId} {agentId : AgentId} {input : SetAgentPaymentAccessInput} {db : Db}
      (free : s.accountLocked (orgId, agentId) = false) (configured : Configured s.db (orgId, agentId) input db) :
      OperatorWrite hashes s (.setAgentPaymentAccess orgId agentId input) db
  | resolved {actorId : String} {orgId : OrgId} {reservationId : ReservationId} {outcome : ResolveUnknownAttemptOutcome}
      {db : Db} (free : reservationAccountLocked s reservationId = false)
      (resolved : resolveUnknownAttempt s.db actorId orgId reservationId outcome = .ok db) :
      OperatorWrite hashes s (.resolveUnknownAttempt actorId orgId reservationId outcome) db
  | released {reservationId : ReservationId} {proof : DeathPredicate} {db : Db}
      (free : reservationAccountLocked s reservationId = false)
      (released : releaseOnProof s.db s.now reservationId proof = .ok db) :
      OperatorWrite hashes s (.releaseOnProof reservationId proof) db
  | purged {locked : List AttemptId} {batchLimit : Nat} :
      OperatorWrite hashes s (.purgeExpiredX402Results locked batchLimit)
        (purgeExpiredX402Results s.db s.now locked batchLimit)
  | jobCreated {label : Label} {job : EscrowJobRow} {escrowJobs : Table EscrowJobRow.id}
      (unfunded : job.reservation_id = none) (inserted : s.db.escrowJobs.insert? job = some escrowJobs) :
      OperatorWrite hashes s label { s.db with escrowJobs }
  | jobFunded {id : EscrowJobId} {reservationId : ReservationId} {onchain : Except Failure Unit} {db : Db}
      (funded : fundEscrowJob hashes s.db s.now id reservationId onchain = .ok db) :
      OperatorWrite hashes s (.fundEscrowJob id reservationId onchain) db
  | jobMoved {label : Label} {job job' : EscrowJobRow} {db : Db} (moved : JobMoved s.db job job' db) :
      OperatorWrite hashes s label db

inductive Step (hashes : Hashes) (s : State) : Label → State → Prop where
  | approvals {label : Approvals.Label} {approvals : Approvals.State} (mayRun : consumerMayRun s label = true)
      (taken : Approvals.step s.approvals label = some approvals) :
      Step hashes s (.approvals label) { s with approvals }
  | operator {label : Label} {db : Db} (write : OperatorWrite hashes s label db) : Step hashes s label { s with db }
  | opened {id : CallId} {auth : ConnectionAuthResult} {idempotencyKey : String} {requestHash : Hash}
      {calls : Table Call.id} (auths : authenticated s.db auth = true)
      (inserted : s.calls.insert? ⟨id, auth, idempotencyKey, requestHash, .started⟩ = some calls) :
      Step hashes s (.payRuntimeX402 id auth idempotencyKey requestHash) { s with calls }
  | called {id : CallId} {event : CallEvent} {call : Call} {effect : Effect} (found : s.calls.find? id = some call)
      (taken : CallStep hashes s call event effect) :
      Step hashes s (.call id event) ⟨effect.approvals, effect.db, s.calls.put { call with phase := effect.phase }⟩

theorem Step.commit {result : Except Failure Db}
    (write : ∀ db, result = .ok db → OperatorWrite hashes s label db) : Step hashes s label (s.commit result) := by
  cases result with
  | error failure => exact .operator .unchanged
  | ok db => exact .operator (write db rfl)

theorem setOrgFrozen_write {orgId : OrgId} {frozen : Bool} {db : Db} (set : setOrgFrozen s.db orgId frozen = .ok db) :
    OperatorWrite hashes s label db := by
  unfold setOrgFrozen at set
  split at set
  · cases set
  · obtain rfl := Except.ok.inj set
    exact .registry (.refl SameSource.refl _)

theorem setAgentStatus_write {orgId : OrgId} {agentId : AgentId} {status : AgentStatus} {db : Db}
    (set : setAgentStatus s.db orgId agentId status = .ok db) : OperatorWrite hashes s label db := by
  unfold setAgentStatus at set
  split at set
  · cases set
  · obtain rfl := Except.ok.inj set
    exact .registry (.refl SameSource.refl _)

theorem setDestination_write (row : AllowlistRow) : OperatorWrite hashes s label (setDestination s.db row) := by
  unfold setDestination
  split <;> exact .registry (.refl SameSource.refl _)

theorem createPaymentSource_write {row : PaymentSourceRow} {db : Db} (created : createPaymentSource s.db row = .ok db) :
    OperatorWrite hashes s label db := by
  unfold createPaymentSource at created
  split at created
  · cases created
  · rename_i inserted
    obtain rfl := Except.ok.inj created
    exact .registry (Table.grows_insert? SameSource.refl inserted)

theorem syncPaymentSource_write (id : SourceId) (address externalWalletId : Option String) :
    OperatorWrite hashes s label (syncPaymentSource s.db id address externalWalletId) := by
  unfold syncPaymentSource
  split
  · exact .unchanged
  · rename_i row found
    have located : s.db.sources.find? row.id = some row := by rw [Table.key_of_find? found]; exact found
    have same : SameSource row { row with address, external_wallet_id := externalWalletId } := ⟨rfl, rfl, rfl, rfl⟩
    exact .registry (Table.revised_put SameSource.refl (r := { row with address, external_wallet_id := externalWalletId })
      located same).grows

theorem step_inversion (taken : step hashes s label = some s') : Step hashes s label s' := by
  cases label with
  | approvals label =>
    simp only [step, Option.ite_none_right_eq_some, Option.map_eq_some_iff] at taken
    obtain ⟨mayRun, approvals, taken, rfl⟩ := taken
    exact .approvals mayRun taken
  | freezeOrg orgId | unfreezeOrg orgId =>
    obtain rfl := Option.some.inj taken
    exact .commit fun db set => setOrgFrozen_write set
  | setAgentStatus orgId agentId status =>
    obtain rfl := Option.some.inj taken
    exact .commit fun db set => setAgentStatus_write set
  | setAgentPaymentAccess orgId agentId input =>
    simp only [step, Option.ite_none_left_eq_some, Option.some.injEq] at taken
    obtain ⟨free, rfl⟩ := taken
    exact .commit fun db configured => .configured (by simpa using free) (setAgentPaymentAccess_ok configured)
  | setDestination row =>
    obtain rfl := Option.some.inj taken
    exact .operator (setDestination_write row)
  | createPaymentSource row =>
    obtain rfl := Option.some.inj taken
    exact .commit fun db created => createPaymentSource_write created
  | syncPaymentSource id address externalWalletId =>
    obtain rfl := Option.some.inj taken
    exact .operator (syncPaymentSource_write id address externalWalletId)
  | resolveUnknownAttempt actorId orgId reservationId outcome =>
    simp only [step, Option.ite_none_left_eq_some, Option.some.injEq] at taken
    obtain ⟨free, rfl⟩ := taken
    exact .commit fun db resolved => .resolved (by simpa using free) resolved
  | releaseOnProof reservationId proof =>
    simp only [step, Option.ite_none_left_eq_some, Option.some.injEq] at taken
    obtain ⟨free, rfl⟩ := taken
    exact .commit fun db released => .released (by simpa using free) released
  | purgeExpiredX402Results locked batchLimit =>
    obtain rfl := Option.some.inj taken
    exact .operator .purged
  | createEscrowJob id onchainJobId input =>
    obtain rfl := Option.some.inj taken
    refine .commit fun db created => ?_
    obtain ⟨job, escrowJobs, -, -, unfunded, inserted, rfl⟩ := createEscrowJob_ok created
    exact .jobCreated unfunded inserted
  | fundEscrowJob id reservationId onchain =>
    obtain rfl := Option.some.inj taken
    exact .commit fun db funded => .jobFunded funded
  | applyEscrowStateChange id next sent =>
    obtain rfl := Option.some.inj taken
    refine .commit fun db applied => ?_
    obtain ⟨job, job', moved⟩ := applyEscrowStateChange_ok applied
    exact .jobMoved moved
  | reconcileEscrowJob id onchain =>
    obtain rfl := Option.some.inj taken
    refine .commit fun db reconciled => ?_
    rcases reconcileEscrowJob_ok reconciled with rfl | ⟨job, job', moved⟩
    · exact .unchanged
    · exact .jobMoved moved
  | payRuntimeX402 id auth idempotencyKey requestHash =>
    simp only [step, Option.ite_none_right_eq_some, Option.map_eq_some_iff] at taken
    obtain ⟨auths, calls, inserted, rfl⟩ := taken
    exact .opened auths inserted
  | call id event =>
    simp only [step] at taken
    split at taken
    · cases taken
    · rename_i call found
      obtain ⟨effect, moved, rfl⟩ := Option.map_eq_some_iff.mp taken
      exact .called found (callStep_inversion moved)

inductive CallWrite (hashes : Hashes) (s : State) (call : Call) : CallEvent → Db → Prop where
  | unchanged {event : CallEvent} : CallWrite hashes s call event s.db
  | stranded {candidates : List StrandedCandidate} {db : Db} (phase : call.phase = .cancelling candidates)
      (free : candidates = [] ∨ s.accountLocked (accountOf call.auth) = false)
      (cancelled : cancelCandidates call.auth s.db candidates = .ok db) :
      CallWrite hashes s call .commitStranded db
  | scrubbed {event : CallEvent} {now : Time} {attempts : Table X402AttemptRow.id}
      (scrubbed : Scrubbed now s.db.attempts attempts) : CallWrite hashes s call event { s.db with attempts }
  | prepared {tx : Preparation} {quote : RuntimeQuote} {source : PaymentSourceRow} {gate : PolicyGate}
      {approvalRequired : Option String} {attemptId : AttemptId} {reservationId : ReservationId} {db : Db}
      {payment : PreparedPaidHttpPayment} (phase : call.phase = .cleared tx quote source gate approvalRequired)
      (written : writePrepared hashes s.db tx.began call.auth call.idempotencyKey call.requestHash quote source
        tx.required.resource gate attemptId reservationId = .ok (db, payment)) :
      CallWrite hashes s call (.commitPrepare attemptId reservationId) db
  | revised {event : CallEvent} {row row' : X402AttemptRow} (found : s.db.attempts.find? row'.id = some row)
      (revises : Revises row row') (early : row'.status.stage < 2) :
      CallWrite hashes s call event { s.db with attempts := s.db.attempts.put row' }
  | finalized {payment : PreparedPaidHttpPayment} {settlement : RuntimeX402SettlementResult} {eventId : EventId}
      {db : Db} {result : RuntimeX402PaymentResult} (phase : call.phase = .evidenced payment settlement)
      (free : recordedStatus settlement = .unknown ∨ s.accountLocked (accountOf call.auth) = false)
      (finalized : finalizePaidHttpPayment s.db s.now call.auth payment settlement eventId = .ok (db, result)) :
      CallWrite hashes s call (.finalize eventId) db

theorem CallStep.write {call : Call} {event : CallEvent} {effect : Effect} (taken : CallStep hashes s call event effect) :
    CallWrite hashes s call event effect.db := by
  cases taken with
  | commitStranded phase free cancelled => exact .stranded phase free cancelled
  | findAttempt phase read =>
    obtain ⟨attempts, rfl, scrubbed⟩ := findAttempt_scrubbed read
    exact .scrubbed scrubbed
  | raced phase read same =>
    obtain ⟨attempts, rfl, scrubbed⟩ := findAttempt_scrubbed read
    exact .scrubbed scrubbed
  | commitPrepare phase written goes => exact .prepared phase written
  | @markRetryable payment failure phase =>
    rcases markRetryable_cases s.db call.auth payment.attempt.id (preflightReason failure) with same | ⟨row, inScope, same⟩
    · simp only [same]
      exact .unchanged
    · simp only [same]
      refine .revised inScope.located (withResumeReason_revises row _) ?_
      show row.status.stage < 2
      rw [inScope.status]
      decide
  | markSubmitting phase marked =>
    obtain ⟨row, inScope, rfl⟩ := markSubmitting_ok marked
    exact .revised inScope.located (submitting_revises inScope.status) (by simp [X402AttemptStatus.stage])
  | persistEvidence phase persisted =>
    obtain ⟨row, inScope, rfl⟩ := persistEvidence_ok persisted
    refine .revised inScope.located (withEvidence_revises row _ _) ?_
    show row.status.stage < 2
    rw [inScope.status]
    decide
  | finalize phase free finalized => exact .finalized phase free finalized
  | ends | selectStranded | discover | snapshotAccount | lockAccount | fresh | selectQuote | selectSource | permitted
  | approvalRequested | checkLimits | readReservation | readSource | readApproval | readEvidence | preflighted | unready
  | consumeApproval | consumed | simulateSettlement | callProvider | answer => exact .unchanged

inductive Write (hashes : Hashes) (s : State) : Label → Db → Prop where
  | unchanged {label : Label} : Write hashes s label s.db
  | operator {label : Label} {db : Db} (write : OperatorWrite hashes s label db) : Write hashes s label db
  | call {id : CallId} {event : CallEvent} {call : Call} {db : Db} (found : s.calls.find? id = some call)
      (write : CallWrite hashes s call event db) : Write hashes s (.call id event) db

theorem Step.write (taken : Step hashes s label s') : Write hashes s label s'.db := by
  cases taken with
  | approvals | opened => exact .unchanged
  | operator write => exact .operator write
  | called found taken => exact .call found taken.write

end AgentOps.Payments
