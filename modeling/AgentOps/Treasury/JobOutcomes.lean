import AgentOps.Treasury.Fleet

namespace AgentOps.Treasury
open Lib

/-! # What becomes of a job that moves money -/

/-- No job has moved money twice, and none that has is marked failed. -/
structure Fleet.Truthful (s : Fleet) : Prop where
  once : ∀ jobId, s.moved.count jobId ≤ 1
  notFailed : ∀ job ∈ s.circleProviderJobs, job.id ∈ s.moved → job.status ≠ .failed

/-- An execution begins with a queued job. A transfer that moves the money is reported, and once it has, no statement of
the execution fails, and the worker does not stop before the job's row is complete. -/
def Orderly (s : Fleet) : FleetLabel → Prop
  | .execute _ jobId => ∀ job, s.circleProviderJobs.find? jobId = some job → job.status = .queued
  | .transfer _ answer => ∀ error gas, answer ≠ .unreported error gas
  | .throw callId _ => ∀ call job phase, s.calls.find? callId = some call → call.phase = .executing job phase →
      job.id ∉ s.moved
  | .abandon callId => ∀ call job phase, s.calls.find? callId = some call → call.phase = .executing job phase →
      job.id ∈ s.moved → ∃ amount, phase = .completed amount
  | _ => True

def ExecutePhase.unrecorded : ExecutePhase → Bool
  | .transferred .. | .marked .. => true
  | _ => false

def CallPhase.executes (phase : CallPhase) : Prop := ∃ job at_, phase = .executing job at_

def ExecutePhase.rowStatus : ExecutePhase → Option JobStatus
  | .started | .ready | .transferred .. | .marked .. => some .queued
  | .completed _ => some .complete
  | .failing _ => none

def ExecutePhase.untransferred : ExecutePhase → Bool
  | .started | .ready | .failing _ => true
  | .transferred .. | .marked .. | .completed _ => false

structure ExecutionMatches (s : Fleet) (job : CircleProviderJob) (phase : ExecutePhase) : Prop where
  row : ∃ stored, s.circleProviderJobs.find? job.id = some stored ∧
    ∀ status, phase.rowStatus = some status → stored.status = status
  unmoved : phase.untransferred = true → job.id ∉ s.moved

structure Fleet.Recorded (s : Fleet) : Prop where
  exclusive : s.Exclusive
  once : ∀ jobId, s.moved.count jobId ≤ 1
  known : ∀ jobId ∈ s.moved, ∃ stored, s.circleProviderJobs.find? jobId = some stored ∧
    (stored.status = .complete ∨ ∃ call ∈ s.calls, ∃ job phase, call.phase = .executing job phase ∧ job.id = jobId ∧
      phase.unrecorded = true)
  calls : ∀ call ∈ s.calls, ∀ job phase, call.phase = .executing job phase → ExecutionMatches s job phase

theorem Fleet.Recorded.truthful {s : Fleet} (recorded : s.Recorded) : s.Truthful where
  once := recorded.once
  notFailed := by
    intro job member moved failed
    obtain ⟨stored, found, known⟩ := recorded.known job.id moved
    obtain rfl := Option.some.inj ((Table.find?_of_mem member).symm.trans found)
    rcases known with complete | ⟨call, callMember, snapshot, phase, executing, same, unrecorded⟩
    · rw [failed] at complete
      cases complete
    · obtain ⟨row, located, status⟩ := (recorded.calls call callMember snapshot phase executing).row
      rw [same] at located
      obtain rfl := Option.some.inj (found.symm.trans located)
      have queued : job.status = .queued := by
        cases phase with
        | transferred | marked => exact status _ rfl
        | _ => cases unrecorded
      rw [failed] at queued
      cases queued

section Step

variable {s s' : Fleet}

theorem executing_holdsLock {call : FleetCall} {job : CircleProviderJob} {phase : ExecutePhase}
    (executing : call.phase = .executing job phase) : call.phase.holdsLock = true := by rw [executing]; rfl

theorem Fleet.Exclusive.only (exclusive : s.Exclusive) {callId : Nat} {call other : FleetCall} {job job' : CircleProviderJob}
    {phase phase' : ExecutePhase} (found : s.calls.find? callId = some call) (executing : call.phase = .executing job phase)
    (member : other ∈ s.calls) (executing' : other.phase = .executing job' phase') :
    other = call ∧ job' = job ∧ phase' = phase := by
  obtain rfl := exclusive other member call (Table.mem_of_find? found) (executing_holdsLock executing')
    (executing_holdsLock executing)
  rw [executing] at executing'
  cases executing'
  exact ⟨rfl, rfl, rfl⟩

theorem ExecutionMatches.kept {job : CircleProviderJob} {phase : ExecutePhase} (agrees : ExecutionMatches s job phase)
    (moved : s'.moved = s.moved) (jobs : ∀ jobId stored, s.circleProviderJobs.find? jobId = some stored →
      s'.circleProviderJobs.find? jobId = some stored) : ExecutionMatches s' job phase := by
  obtain ⟨stored, found, status⟩ := agrees.row
  exact ⟨⟨stored, jobs _ _ found, status⟩, by rw [moved]; exact agrees.unmoved⟩

theorem Fleet.Recorded.quiet (recorded : s.Recorded) (exclusive : s'.Exclusive) (moved : s'.moved = s.moved)
    (jobs : ∀ jobId stored, s.circleProviderJobs.find? jobId = some stored →
      s'.circleProviderJobs.find? jobId = some stored)
    (calls : ∀ call, call.phase.executes → (call ∈ s'.calls ↔ call ∈ s.calls)) : s'.Recorded where
  exclusive := exclusive
  once := by
    rw [moved]
    exact recorded.once
  known := by
    intro jobId member
    rw [moved] at member
    obtain ⟨stored, found, known⟩ := recorded.known jobId member
    refine ⟨stored, jobs _ _ found, known.imp_right ?_⟩
    rintro ⟨call, callMember, job, phase, executing, same⟩
    exact ⟨call, (calls call ⟨job, phase, executing⟩).mpr callMember, job, phase, executing, same⟩
  calls := by
    intro call member job phase executing
    have before := (calls call ⟨job, phase, executing⟩).mp member
    exact (recorded.calls call before job phase executing).kept moved jobs

theorem Fleet.Recorded.put (recorded : s.Recorded) (exclusive : s'.Exclusive) {call : FleetCall} {before : FleetCall}
    (calls : s'.calls = s.calls.put call) (found : s.calls.find? call.id = some before) (apart : ¬before.phase.executes)
    (apart' : ¬call.phase.executes) (moved : s'.moved = s.moved)
    (jobs : ∀ jobId stored, s.circleProviderJobs.find? jobId = some stored →
      s'.circleProviderJobs.find? jobId = some stored) : s'.Recorded := by
  refine recorded.quiet exclusive moved jobs fun other executes => ?_
  rw [calls, Table.mem_put]
  constructor
  · rintro (⟨member, -⟩ | ⟨rfl, -⟩)
    · exact member
    · exact absurd executes apart'
  · intro member
    refine .inl ⟨member, fun same => ?_⟩
    obtain rfl := Table.eq_of_key member (Table.mem_of_find? found) (same.trans (Table.key_of_find? found).symm)
    exact apart executes

theorem Fleet.Recorded.insert (recorded : s.Recorded) {calls : Table FleetCall.id} {call : FleetCall}
    (exclusive : { s with calls := calls }.Exclusive) (inserted : s.calls.insert? call = some calls)
    (apart : ¬call.phase.executes) : { s with calls := calls }.Recorded := by
  refine recorded.quiet exclusive rfl (fun _ _ found => found) fun other executes => ?_
  refine (Table.mem_insert? inserted).trans ⟨?_, .inr⟩
  rintro (rfl | member)
  · exact absurd executes apart
  · exact member

theorem Fleet.Recorded.ended (recorded : s.Recorded) (exclusive : s'.Exclusive) {callId : Nat} {before : FleetCall}
    (calls : s'.calls = s.calls.remove callId) (found : s.calls.find? callId = some before)
    (apart : ¬before.phase.executes) (moved : s'.moved = s.moved)
    (jobs : ∀ jobId stored, s.circleProviderJobs.find? jobId = some stored →
      s'.circleProviderJobs.find? jobId = some stored) : s'.Recorded := by
  refine recorded.quiet exclusive moved jobs fun other executes => ?_
  rw [calls, Table.mem_remove]
  refine ⟨And.left, fun member => ⟨member, ?_⟩⟩
  rintro rfl
  obtain rfl := Option.some.inj ((Table.find?_of_mem member).symm.trans found)
  exact apart executes

theorem Fleet.Recorded.advance (recorded : s.Recorded) (exclusive : s'.Exclusive) {callId : Nat} {call : FleetCall}
    {job : CircleProviderJob} {phase phase' : ExecutePhase} (found : s.calls.find? callId = some call)
    (executing : call.phase = .executing job phase) (calls : s'.calls = s.calls.put ⟨callId, .executing job phase'⟩)
    (once : ∀ jobId, s'.moved.count jobId ≤ 1)
    (moved : ∀ jobId ∈ s'.moved, jobId ∈ s.moved ∨ jobId = job.id)
    (elsewhere : ∀ jobId, jobId ≠ job.id → s'.circleProviderJobs.find? jobId = s.circleProviderJobs.find? jobId)
    (agrees : ExecutionMatches s' job phase')
    (here : job.id ∈ s'.moved → ∃ stored, s'.circleProviderJobs.find? job.id = some stored ∧
      (stored.status = .complete ∨ phase'.unrecorded = true)) : s'.Recorded := by
  have identity := Table.key_of_find? found
  have mine : (⟨callId, .executing job phase'⟩ : FleetCall) ∈ s'.calls := by
    rw [calls]
    exact Table.mem_put.mpr (.inr ⟨rfl, call, Table.mem_of_find? found, identity⟩)
  refine ⟨exclusive, once, fun jobId member => ?_, fun other member job' phase'' executing' => ?_⟩
  · by_cases same : jobId = job.id
    · subst same
      obtain ⟨stored, located, known⟩ := here member
      exact ⟨stored, located, known.imp_right fun unrecorded => ⟨_, mine, job, phase', rfl, rfl, unrecorded⟩⟩
    · obtain ⟨stored, located, known⟩ := recorded.known jobId ((moved jobId member).resolve_right same)
      refine ⟨stored, (elsewhere jobId same).trans located, .inl ?_⟩
      rcases known with complete | ⟨other, otherMember, job', phase'', executing', owner, -⟩
      · exact complete
      · obtain ⟨-, rfl, -⟩ := recorded.exclusive.only found executing otherMember executing'
        exact absurd owner.symm same
  · rw [calls] at member
    rcases Table.mem_put.mp member with ⟨before, apart⟩ | ⟨rfl, -⟩
    · obtain ⟨rfl, -⟩ := recorded.exclusive.only found executing before executing'
      exact absurd identity apart
    · cases executing'
      exact agrees

theorem Fleet.Recorded.finished (recorded : s.Recorded) (exclusive : s'.Exclusive) {callId : Nat} {call : FleetCall}
    {job : CircleProviderJob} {phase : ExecutePhase} (found : s.calls.find? callId = some call)
    (executing : call.phase = .executing job phase) (calls : s'.calls = s.calls.remove callId) (moved : s'.moved = s.moved)
    (elsewhere : ∀ jobId, jobId ≠ job.id → s'.circleProviderJobs.find? jobId = s.circleProviderJobs.find? jobId)
    (here : job.id ∈ s.moved → ∃ stored, s'.circleProviderJobs.find? job.id = some stored ∧ stored.status = .complete) :
    s'.Recorded := by
  refine ⟨exclusive, by rw [moved]; exact recorded.once, fun jobId member => ?_, fun other member job' phase' executing' => ?_⟩
  · rw [moved] at member
    by_cases same : jobId = job.id
    · subst same
      obtain ⟨stored, located, complete⟩ := here member
      exact ⟨stored, located, .inl complete⟩
    · obtain ⟨stored, located, known⟩ := recorded.known jobId member
      refine ⟨stored, (elsewhere jobId same).trans located, .inl ?_⟩
      rcases known with complete | ⟨other, otherMember, job', phase', executing', owner, -⟩
      · exact complete
      · obtain ⟨-, rfl, -⟩ := recorded.exclusive.only found executing otherMember executing'
        exact absurd owner.symm same
  · rw [calls] at member
    obtain ⟨before, apart⟩ := Table.mem_remove.mp member
    obtain ⟨rfl, -⟩ := recorded.exclusive.only found executing before executing'
    exact absurd (Table.key_of_find? found) apart

theorem Fleet.Recorded.at (recorded : s.Recorded) {callId : Nat} {call : FleetCall} {job : CircleProviderJob}
    {phase : ExecutePhase} (found : s.calls.find? callId = some call) (executing : call.phase = .executing job phase) :
    ExecutionMatches s job phase := recorded.calls call (Table.mem_of_find? found) job phase executing

theorem walletsFor_cases (s : Fleet) (job : CircleProviderJob) :
    s.walletsFor job = .ready ∨ ∃ error, s.walletsFor job = .failing error := by
  unfold Fleet.walletsFor
  split
  · exact .inr ⟨_, rfl⟩
  · split
    · split
      · exact .inr ⟨_, rfl⟩
      · split
        · exact .inr ⟨_, rfl⟩
        · split
          · exact .inr ⟨_, rfl⟩
          · exact .inl rfl
    · split
      · exact .inr ⟨_, rfl⟩
      · split
        · exact .inr ⟨_, rfl⟩
        · exact .inl rfl

theorem Fleet.Recorded.before (recorded : s.Recorded) {callId : Nat} {call : FleetCall} {job : CircleProviderJob}
    {phase phase' : ExecutePhase} (exclusive : (s.updateCall ⟨callId, .executing job phase'⟩).Exclusive)
    (found : s.calls.find? callId = some call) (executing : call.phase = .executing job phase) (unmoved : job.id ∉ s.moved)
    (status : phase'.rowStatus = phase.rowStatus ∨ phase'.rowStatus = none) :
    (s.updateCall ⟨callId, .executing job phase'⟩).Recorded := by
  obtain ⟨stored, located, held⟩ := (recorded.at found executing).row
  refine recorded.advance exclusive found executing rfl recorded.once (fun _ member => .inl member) (fun _ _ => rfl)
    ⟨⟨stored, located, fun expected same => ?_⟩, fun _ => unmoved⟩ fun moved => absurd moved unmoved
  rcases status with kept | dropped
  · exact held expected (kept.symm.trans same)
  · rw [dropped] at same
    cases same

theorem Fleet.Recorded.transfer {callId : Nat} {answer : TransferAnswer} (recorded : s.Recorded) (exclusive : s'.Exclusive)
    (reported : ∀ error gas, answer ≠ .unreported error gas) (taken : s.transfer callId answer = some s') :
    s'.Recorded := by
  obtain ⟨call, job, agentId, found, executing, -, cases⟩ := Fleet.transfer_some taken
  have ready := recorded.at found executing
  have unmoved := ready.unmoved rfl
  obtain ⟨transactionId, gas, -, rfl⟩ | ⟨error, gas, unreported, -⟩ | ⟨error, rfl⟩ | ⟨-, rfl⟩ := cases
  · obtain ⟨stored, located, held⟩ := ready.row
    refine recorded.advance exclusive found executing rfl (fun jobId => ?_) (fun jobId member => ?_) (fun _ _ => rfl)
      ⟨⟨stored, located, held⟩, by rintro ⟨⟩⟩ fun _ => ⟨stored, located, .inr rfl⟩
    · show (job.id :: s.moved).count jobId ≤ 1
      by_cases same : job.id = jobId
      · subst same
        rw [List.count_cons_self, List.count_eq_zero.mpr unmoved]
      · rw [List.count_cons_of_ne same]
        exact recorded.once jobId
    · exact (List.mem_cons.mp member).symm
  · exact absurd unreported (reported error gas)
  · exact recorded.before exclusive found executing unmoved (.inr rfl)
  · exact recorded.before exclusive found executing unmoved (.inl rfl)

theorem Fleet.Recorded.complete {callId : Nat} (recorded : s.Recorded) (exclusive : s'.Exclusive)
    (taken : s.complete callId = some s') : s'.Recorded := by
  obtain ⟨call, job, amount, providerRef, found, phase, rfl⟩ := Fleet.complete_some taken
  have keyed (row : CircleProviderJob) : (Fleet.completeJob amount providerRef row).id = row.id := rfl
  obtain ⟨before, executing⟩ : ∃ before, call.phase = .executing job before :=
    phase.elim (fun transferred => ⟨_, transferred.1⟩) fun marked => ⟨_, marked⟩
  obtain ⟨stored, located, -⟩ := (recorded.at found executing).row
  have after : (s.circleProviderJobs.modify job.id (Fleet.completeJob amount providerRef)).find? job.id =
      some (Fleet.completeJob amount providerRef stored) := Table.find?_modify_self keyed located
  refine recorded.advance exclusive found executing rfl recorded.once (fun _ member => .inl member)
    (fun jobId apart => Table.find?_modify_ne keyed (Ne.symm apart)) ⟨⟨_, after, ?_⟩, by rintro ⟨⟩⟩
    fun _ => ⟨_, after, .inl rfl⟩
  rintro status ⟨⟩
  rfl

theorem Fleet.Recorded.step {label : FleetLabel} (recorded : s.Recorded) (orderly : Orderly s label)
    (taken : s.step label = some s') : s'.Recorded := by
  have exclusive := recorded.exclusive.step taken
  cases label with
  | setAllocation callId input =>
    obtain ⟨calls, inserted, rfl⟩ := Fleet.setAllocation_some taken
    exact recorded.insert exclusive inserted (by rintro ⟨_, _, ⟨⟩⟩)
  | lock callId =>
    obtain ⟨call, found, -, ⟨input, deposits, phase, rfl⟩ | ⟨agentId, phase, rfl⟩⟩ := Fleet.lock_some taken
    · exact recorded.put exclusive rfl found (by rw [phase]; rintro ⟨_, _, ⟨⟩⟩) (by rintro ⟨_, _, ⟨⟩⟩) rfl fun _ _ found => found
    · exact recorded.put exclusive rfl found (by rw [phase]; rintro ⟨_, _, ⟨⟩⟩) (by rintro ⟨_, _, ⟨⟩⟩) rfl fun _ _ found => found
  | sumOthers callId =>
    obtain ⟨call, input, deposits, found, phase, rfl⟩ := Fleet.sumOthers_some taken
    exact recorded.put exclusive rfl found (by rw [phase]; rintro ⟨_, _, ⟨⟩⟩) (by rintro ⟨_, _, ⟨⟩⟩) rfl fun _ _ found => found
  | write callId rowId =>
    obtain ⟨call, input, deposits, committed, found, phase, rfl | ⟨-, rfl⟩⟩ := Fleet.write_some taken
    · exact recorded.ended exclusive rfl found (by rw [phase]; rintro ⟨_, _, ⟨⟩⟩) rfl fun _ _ found => found
    · exact recorded.put exclusive rfl found (by rw [phase]; rintro ⟨_, _, ⟨⟩⟩) (by rintro ⟨_, _, ⟨⟩⟩) rfl fun _ _ found => found
  | commit callId =>
    obtain ⟨call, input, row, found, phase, rfl⟩ := Fleet.commit_some taken
    exact recorded.ended exclusive rfl found (by rw [phase]; rintro ⟨_, _, ⟨⟩⟩) rfl fun _ _ found => found
  | revokeAgent callId agentId =>
    obtain ⟨calls, inserted, rfl⟩ := Fleet.revokeAgent_some taken
    exact recorded.insert exclusive inserted (by rintro ⟨_, _, ⟨⟩⟩)
  | commitRevocation callId jobId =>
    obtain ⟨call, agentId, jobs, found, phase, queued, rfl⟩ := Fleet.commitRevocation_some taken
    refine recorded.ended exclusive rfl found (by rw [phase]; rintro ⟨_, _, ⟨⟩⟩) rfl fun other stored located => ?_
    rcases queued with rfl | inserted
    · exact located
    · exact Table.find?_insert?_of_find? inserted located
  | evaluateTopUps callId =>
    obtain ⟨calls, inserted, rfl⟩ := Fleet.evaluateTopUps_some taken
    exact recorded.insert exclusive inserted (by rintro ⟨_, _, ⟨⟩⟩)
  | measure callId allocation =>
    obtain ⟨call, remaining, found, phase, -, rfl | rfl⟩ := Fleet.measure_some taken
    · exact recorded.put exclusive rfl found (by rw [phase]; rintro ⟨_, _, ⟨⟩⟩) (by rintro ⟨_, _, ⟨⟩⟩) rfl fun _ _ found => found
    · exact recorded.put exclusive rfl found (by rw [phase]; rintro ⟨_, _, ⟨⟩⟩) (by rintro ⟨_, _, ⟨⟩⟩) rfl fun _ _ found => found
  | enqueueTopUp callId jobId =>
    obtain ⟨call, allocation, rawBalance, remaining, found, phase, -, rfl | ⟨jobs, -, -, inserted, rfl⟩⟩ :=
      Fleet.enqueueTopUp_some taken
    · exact recorded.put exclusive rfl found (by rw [phase]; rintro ⟨_, _, ⟨⟩⟩) (by rintro ⟨_, _, ⟨⟩⟩) rfl fun _ _ found => found
    · exact recorded.put exclusive rfl found (by rw [phase]; rintro ⟨_, _, ⟨⟩⟩) (by rintro ⟨_, _, ⟨⟩⟩) rfl
        fun _ _ located => Table.find?_insert?_of_find? inserted located
  | execute callId jobId =>
    obtain ⟨job, calls, located, free, -, inserted, rfl⟩ := Fleet.execute_some taken
    have queued := orderly job located
    obtain rfl := Table.key_of_find? located
    have idle (call : FleetCall) (member : call ∈ s.calls) : ¬call.phase.executes := by
      rintro ⟨job, phase, executing⟩
      have held := Fleet.lockFree_iff.mp free call member
      rw [executing_holdsLock executing] at held
      cases held
    refine ⟨exclusive, recorded.once, fun jobId member => ?_, fun call member snapshot phase executing => ?_⟩
    · obtain ⟨stored, found, complete | ⟨call, callMember, snapshot, phase, executing, -⟩⟩ := recorded.known jobId member
      · exact ⟨stored, found, .inl complete⟩
      · exact absurd ⟨snapshot, phase, executing⟩ (idle call callMember)
    · rcases (Table.mem_insert? inserted).mp member with rfl | before
      · cases executing
        refine ⟨⟨job, located, ?_⟩, fun _ moved => ?_⟩
        · rintro status ⟨⟩
          exact queued
        · obtain ⟨stored, found, complete | ⟨call, callMember, snapshot, phase, executing, -⟩⟩ := recorded.known job.id moved
          · obtain rfl := Option.some.inj (located.symm.trans found)
            rw [queued] at complete
            cases complete
          · exact idle call callMember ⟨snapshot, phase, executing⟩
      · exact absurd ⟨snapshot, phase, executing⟩ (idle call before)
  | findWallets callId =>
    obtain ⟨call, job, found, executing, rfl⟩ := Fleet.findWallets_some taken
    have unmoved := (recorded.at found executing).unmoved rfl
    refine recorded.before exclusive found executing unmoved ?_
    rcases walletsFor_cases s job with same | ⟨error, same⟩ <;> rw [same]
    · exact .inl rfl
    · exact .inr rfl
  | transfer callId answer => exact recorded.transfer exclusive orderly taken
  | markSwept callId =>
    obtain ⟨call, job, amount, providerRef, agentId, found, executing, -, rfl⟩ := Fleet.markSwept_some taken
    obtain ⟨stored, located, held⟩ := (recorded.at found executing).row
    exact recorded.advance exclusive found executing rfl recorded.once (fun _ member => .inl member) (fun _ _ => rfl)
      ⟨⟨stored, located, held⟩, by rintro ⟨⟩⟩ fun _ => ⟨stored, located, .inr rfl⟩
  | complete callId => exact recorded.complete exclusive taken
  | post callId =>
    obtain ⟨call, job, amount, agentId, found, executing, rfl⟩ := Fleet.post_some taken
    obtain ⟨stored, located, held⟩ := (recorded.at found executing).row
    exact recorded.finished exclusive found executing rfl rfl (fun _ _ => rfl) fun _ => ⟨stored, located, held _ rfl⟩
  | throw callId errorCode =>
    obtain ⟨call, job, phase, found, executing, -, rfl⟩ := Fleet.throw_some taken
    exact recorded.before exclusive found executing (orderly call job phase found executing) (.inr rfl)
  | recordFailure callId =>
    obtain ⟨call, job, errorCode, found, executing, rfl⟩ := Fleet.recordFailure_some taken
    have unmoved := (recorded.at found executing).unmoved rfl
    exact recorded.finished exclusive found executing rfl rfl
      (fun jobId apart => Table.find?_modify_ne (fun _ => rfl) (Ne.symm apart)) fun moved => absurd moved unmoved
  | abandon callId =>
    obtain rfl := Option.some.inj taken
    cases found : s.calls.find? callId with
    | none =>
      refine recorded.quiet exclusive rfl (fun _ _ found => found) fun call _ => Table.mem_remove.trans ⟨And.left, fun member => ?_⟩
      exact ⟨member, fun same => Table.find?_eq_none.mp found call member same⟩
    | some call =>
      by_cases executes : call.phase.executes
      · obtain ⟨job, phase, executing⟩ := executes
        obtain ⟨stored, located, held⟩ := (recorded.at found executing).row
        refine recorded.finished exclusive found executing rfl rfl (fun _ _ => rfl) fun moved => ⟨stored, located, ?_⟩
        obtain ⟨amount, rfl⟩ := orderly call job phase found executing moved
        exact held _ rfl
      · exact recorded.ended exclusive rfl found executes rfl fun _ _ found => found

end Step

structure Fleet.Unmoved (s : Fleet) : Prop where
  idle : s.calls = .empty
  unmoved : s.moved = []

theorem Fleet.Unmoved.recorded {s : Fleet} (unmoved : s.Unmoved) : s.Recorded where
  exclusive := by
    rw [Fleet.Exclusive, unmoved.idle]
    exact fun call member => absurd member (Table.not_mem_empty call)
  once := by simp [unmoved.unmoved]
  known := by simp [unmoved.unmoved]
  calls := by
    rw [unmoved.idle]
    exact fun call member => absurd member (Table.not_mem_empty call)

/-- In orderly runs every job moves money once at most, and one that has moved it is not marked failed. -/
theorem jobs_truthful {s₀ s : Fleet} {events : List (Fleet × FleetLabel)} (unmoved : s₀.Unmoved)
    (run : Run Fleet.step s₀ events s) (conforms : Conforms Orderly events) : s.Truthful :=
  (run.invariant _ conforms unmoved.recorded fun _ _ _ recorded orderly taken => recorded.step orderly taken).truthful

section Example

def queuedTopUp : Fleet where
  orgId := 1
  agents := .singleton ⟨1, 1, .active⟩
  agentAllocations := .singleton ⟨1, 1, 1, 40, 0, 10, 40, .active, "operator"⟩
  agentChainWallets := .singleton ⟨1, 1, .active⟩
  circleProviderJobs := .singleton ⟨1, 1, .agentWalletTopup, .queued, some 40, some 1, none, none⟩
  ledgerPostings := []
  treasuryWallet := true
  deposits := 100
  balances := fun _ => 0
  calls := .empty
  moved := []

theorem unmoved_queuedTopUp : queuedTopUp.Unmoved := ⟨rfl, rfl⟩

/-- The posting fails after the transfer, and the job is marked failed. A worker that listed the job while it was queued
executes it again, and moves the money twice. -/
theorem jobs_untruthful : queuedTopUp.Unmoved ∧
    (∃ events s, Run Fleet.step queuedTopUp events s ∧ s.moved = [1] ∧
      (s.circleProviderJobs.find? 1).map (·.status) = some .failed) ∧
    ∃ events s, Run Fleet.step queuedTopUp events s ∧ s.moved.count 1 = 2 := by
  refine ⟨unmoved_queuedTopUp, ?_, ?_⟩
  · exact exists_run [.execute 1 1, .findWallets 1, .transfer 1 (.succeeded "0xa" 0), .complete 1,
      .throw 1 "ledger_posting_insert_failed", .recordFailure 1] _ (by decide)
  · exact exists_run [.execute 1 1, .findWallets 1, .transfer 1 (.succeeded "0xa" 0), .complete 1, .post 1,
      .execute 2 1, .findWallets 2, .transfer 2 (.succeeded "0xb" 0)] _ (by decide)

def orderlyCheck (s : Fleet) : FleetLabel → Bool
  | .execute _ jobId => (s.circleProviderJobs.find? jobId).all (·.status = .queued)
  | .transfer _ (.unreported ..) | .throw .. | .abandon _ => false
  | _ => true

theorem orderlyCheck_orderly (s : Fleet) (label : FleetLabel) (checked : orderlyCheck s label = true) : Orderly s label := by
  cases label with
  | execute callId jobId =>
    intro job found
    simpa [orderlyCheck, found] using checked
  | transfer callId answer =>
    rintro error gas rfl
    cases checked
  | throw | abandon => cases checked
  | _ => trivial

theorem job_executed_once : ∃ s : Fleet, s.moved = [1] ∧ s.Truthful := by
  obtain ⟨events, s, run, conforms, moved⟩ : ∃ events s, Run Fleet.step queuedTopUp events s ∧
      Conforms Orderly events ∧ s.moved = [1] :=
    exists_conforming_run [.execute 1 1, .findWallets 1, .transfer 1 (.succeeded "0xa" 0), .complete 1, .post 1]
      orderlyCheck _ orderlyCheck_orderly (by decide)
  exact ⟨s, moved, jobs_truthful unmoved_queuedTopUp run conforms⟩

end Example

end AgentOps.Treasury
