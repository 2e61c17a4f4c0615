import AgentOps.Approvals.Protocol

namespace AgentOps.Approvals
open Lib Identity

inductive Step (s : State) : Label → State → Prop where
  | tick {now : Time} (later : s.now ≤ now) : Step s (.tick now) { s with now }
  | created {id : ApprovalId} {input : CreateApprovalInput} {approvals : Requests}
      (inserted : s.approvals.insert? (approvalRowOf s.now id input) = some approvals) :
      Step s (.createApprovalRequest id input) { s with approvals }
  | opened {voter : VoterId} {actorId : ActorId} {orgId : OrgId} {approvalId : ApprovalId} {voters : Table Voter.id}
      (inserted : s.voters.insert? ⟨voter, actorId, orgId, approvalId, .waiting (votesCount s.votes approvalId)⟩ =
        some voters) : Step s (.approveApproval voter actorId orgId approvalId) { s with voters }
  | lockRefused {id : VoterId} {voter : Voter} {count : Nat} {failure : Failure}
      (waiting : s.waiting? id = some (voter, count)) :
      Step s (.lockApproval id) (s.setVoter voter (.finished (.error failure)))
  | locked {id : VoterId} {voter : Voter} {count : Nat} {existing : ApprovalRow}
      (waiting : s.waiting? id = some (voter, count)) (free : s.rowLocked voter.approvalId = false)
      (checked : checkApprovable s.now voter.actorId (findScoped s.approvals voter.orgId voter.approvalId) =
        .ok existing) : Step s (.lockApproval id) (s.setVoter voter (.locked existing count))
  | voteRefused {id : VoterId} {voter : Voter} {existing : ApprovalRow} {count : Nat} {failure : Failure}
      (locked : s.locked? id = some (voter, existing, count))
      (refused : castVote s.approvals s.votes existing count voter.actorId = .error failure) :
      Step s (.castVote id) (s.setVoter voter (.finished (.error failure)))
  | voted {id : VoterId} {voter : Voter} {existing : ApprovalRow} {count : Nat} {approvals : Requests} {votes : Votes}
      (locked : s.locked? id = some (voter, existing, count))
      (cast : castVote s.approvals s.votes existing count voter.actorId = .ok (approvals, votes)) :
      Step s (.castVote id) { s.setVoter voter (.finished (.ok ())) with approvals, votes }
  | abandoned {id : VoterId} {voter : Voter} {failure : Failure} (found : s.voters.find? id = some voter) :
      Step s (.abandonVote id) (s.setVoter voter (.finished (.error failure)))
  | denyRefused {startedAt : Time} {actorId : ActorId} {orgId : OrgId} {id : ApprovalId} :
      Step s (.denyApproval startedAt actorId orgId id) s
  | denied {startedAt : Time} {actorId : ActorId} {orgId : OrgId} {id : ApprovalId} {approvals : Requests}
      (free : s.rowLocked id = false) (denied : denyApproval s.approvals startedAt actorId orgId id = .ok approvals) :
      Step s (.denyApproval startedAt actorId orgId id) { s with approvals }
  | checked {id : ConsumerId} {auth : ConnectionAuthResult} {approvalId : ApprovalId} {decisionId : DecisionId}
      {consumers : Table Consumer.id}
      (inserted : s.consumers.insert? (consumerOf s id auth approvalId decisionId) = some consumers) :
      Step s (.consumeApproval id auth approvalId decisionId) { s with consumers }
  | policyRefused {id : ConsumerId} {consumer : Consumer} {approval : ApprovalRow}
      (checked : s.checked? id = some (consumer, approval)) :
      Step s (.recheckPolicy id true) (s.setConsumer consumer (.finished (.error policyDenied)))
  | rechecked {id : ConsumerId} {consumer : Consumer} {approval : ApprovalRow}
      (checked : s.checked? id = some (consumer, approval)) :
      Step s (.recheckPolicy id false) (s.setConsumer consumer (.rechecked approval))
  | consumeRefused {id : ConsumerId} {consumer : Consumer} {approval : ApprovalRow} {failure : Failure}
      (rechecked : s.rechecked? id = some (consumer, approval)) :
      Step s (.commitConsumption id) (s.setConsumer consumer (.finished (.error failure)))
  | consumed {id : ConsumerId} {consumer : Consumer} {approval : ApprovalRow} {approvals : Requests}
      {consumptions : Consumptions} (rechecked : s.rechecked? id = some (consumer, approval))
      (free : s.rowLocked approval.id = false)
      (committed : commitConsumption s.approvals s.consumptions consumer.auth approval consumer.decisionId =
        .ok (approvals, consumptions)) :
      Step s (.commitConsumption id) { s.setConsumer consumer (.finished (.ok ())) with approvals, consumptions }

theorem step_inversion {s s' : State} {label : Label} (taken : step s label = some s') : Step s label s' := by
  cases label with
  | tick now =>
    simp only [step, Option.ite_none_right_eq_some, Option.some.injEq] at taken
    obtain ⟨later, rfl⟩ := taken
    exact .tick later
  | createApprovalRequest id input =>
    simp only [step, Option.map_eq_some_iff] at taken
    obtain ⟨approvals, inserted, rfl⟩ := taken
    exact .created inserted
  | approveApproval voter actorId orgId approvalId =>
    simp only [step, Option.map_eq_some_iff] at taken
    obtain ⟨voters, inserted, rfl⟩ := taken
    exact .opened inserted
  | lockApproval id =>
    cases waiting : s.waiting? id with
    | none => simp [step, waiting] at taken
    | some found =>
      obtain ⟨voter, count⟩ := found
      simp only [step, waiting] at taken
      split at taken
      · cases taken
      rename_i free
      split at taken <;> obtain rfl := Option.some.inj taken
      · exact .lockRefused waiting
      · rename_i checked
        exact .locked waiting (by simpa using free) checked
  | castVote id =>
    cases locked : s.locked? id with
    | none => simp [step, locked] at taken
    | some found =>
      obtain ⟨voter, existing, count⟩ := found
      simp only [step, locked] at taken
      split at taken <;> obtain rfl := Option.some.inj taken
      · rename_i refused
        exact .voteRefused locked refused
      · rename_i cast
        exact .voted locked cast
  | abandonVote id =>
    cases found : s.voters.find? id with
    | none => simp [step, found] at taken
    | some voter =>
      simp only [step, found, Option.some.injEq] at taken
      obtain rfl := taken
      exact .abandoned found
  | denyApproval startedAt actorId orgId approvalId =>
    simp only [step] at taken
    split at taken
    · cases taken
    rename_i free
    split at taken <;> obtain rfl := Option.some.inj taken
    · exact .denyRefused
    · rename_i denied
      exact .denied (by simpa using (not_or.mp free).2) denied
  | consumeApproval consumer auth approvalId decisionId =>
    simp only [step, Option.map_eq_some_iff] at taken
    obtain ⟨consumers, inserted, rfl⟩ := taken
    exact .checked inserted
  | recheckPolicy id denied =>
    cases checked : s.checked? id with
    | none => simp [step, checked] at taken
    | some found =>
      simp only [step, checked, Option.some.injEq] at taken
      obtain rfl := taken
      cases denied with
      | true => exact .policyRefused checked
      | false => exact .rechecked checked
  | commitConsumption id =>
    cases rechecked : s.rechecked? id with
    | none => simp [step, rechecked] at taken
    | some found =>
      obtain ⟨consumer, approval⟩ := found
      simp only [step, rechecked] at taken
      split at taken
      · cases taken
      rename_i free
      split at taken <;> obtain rfl := Option.some.inj taken
      · exact .consumeRefused rechecked
      · rename_i committed
        exact .consumed rechecked (by simpa using free) committed

namespace State

theorem waiting?_eq_some {s : State} {id : VoterId} {voter : Voter} {count : Nat} :
    s.waiting? id = some (voter, count) ↔ s.voters.find? id = some voter ∧ voter.phase = .waiting count := by
  unfold waiting?
  cases s.voters.find? id with
  | none => simp
  | some found => cases phase : found.phase <;> grind

theorem locked?_eq_some {s : State} {id : VoterId} {voter : Voter} {existing : ApprovalRow} {count : Nat} :
    s.locked? id = some (voter, existing, count) ↔
      s.voters.find? id = some voter ∧ voter.phase = .locked existing count := by
  unfold locked?
  cases s.voters.find? id with
  | none => simp
  | some found => cases phase : found.phase <;> grind

theorem checked?_eq_some {s : State} {id : ConsumerId} {consumer : Consumer} {approval : ApprovalRow} :
    s.checked? id = some (consumer, approval) ↔
      s.consumers.find? id = some consumer ∧ consumer.phase = .checked approval := by
  unfold checked?
  cases s.consumers.find? id with
  | none => simp
  | some found => cases phase : found.phase <;> grind

theorem rechecked?_eq_some {s : State} {id : ConsumerId} {consumer : Consumer} {approval : ApprovalRow} :
    s.rechecked? id = some (consumer, approval) ↔
      s.consumers.find? id = some consumer ∧ consumer.phase = .rechecked approval := by
  unfold rechecked?
  cases s.consumers.find? id with
  | none => simp
  | some found => cases phase : found.phase <;> grind

theorem rowLocked_eq_false {s : State} {id : ApprovalId} :
    s.rowLocked id = false ↔ ∀ voter ∈ s.voters, voter.holds id = false := by
  simp [rowLocked, Table.mem_def]

end State

def SameRequest (row row' : ApprovalRow) : Prop := row' = { row with status := row'.status }

theorem SameRequest.refl (row : ApprovalRow) : SameRequest row row := rfl

theorem SameRequest.withStatus (row : ApprovalRow) (status : ApprovalStatus) :
    SameRequest row { row with status } := rfl

theorem SameRequest.trans {a b c : ApprovalRow} (first : SameRequest a b) (second : SameRequest b c) :
    SameRequest a c := by
  unfold SameRequest at *
  rw [second, first]

structure Sound (s : State) : Prop where
  lockedRow : ∀ voter ∈ s.voters, ∀ existing count, voter.phase = .locked existing count →
    s.approvals.find? voter.approvalId = some existing ∧ existing.status = .pending ∧
      existing.requested_by ≠ voter.actorId
  exclusive : ∀ voter ∈ s.voters, ∀ voter' ∈ s.voters, ∀ id, voter.holds id → voter'.holds id → voter = voter'
  snapshot : ∀ voter ∈ s.voters, ∀ count,
    (voter.phase = .waiting count ∨ ∃ existing, voter.phase = .locked existing count) →
      count ≤ votesCount s.votes voter.approvalId
  eligible : ∀ vote ∈ s.votes, ∃ row, s.approvals.find? vote.approval_id = some row ∧
    vote.actor_id ≠ row.requested_by
  quorum : ∀ row ∈ s.approvals, row.status = .approved ∨ row.status = .consumed →
    row.required_approvals ≤ votesCount s.votes row.id
  checkedRow : ∀ consumer ∈ s.consumers, ∀ approval,
    (consumer.phase = .checked approval ∨ consumer.phase = .rechecked approval) →
      approval.id = consumer.approvalId ∧ approval.connection_id = consumer.auth.connection_id ∧
        approval.agent_id = consumer.auth.agent_id ∧ approval.decision_id = consumer.decisionId ∧
        ∃ row, s.approvals.find? approval.id = some row ∧ SameRequest approval row
  spent : ∀ consumption ∈ s.consumptions, ∃ row, s.approvals.find? consumption.approval_id = some row ∧
    row.status = .consumed

structure Initial (s : State) : Prop where
  approvals : s.approvals = .empty
  votes : s.votes = .empty
  consumptions : s.consumptions = .empty
  voters : s.voters = .empty
  consumers : s.consumers = .empty

theorem Initial.sound {s : State} (initial : Initial s) : Sound s where
  lockedRow := by simp [initial.voters]
  exclusive := by simp [initial.voters]
  snapshot := by simp [initial.voters]
  eligible := by simp [initial.votes]
  quorum := by simp [initial.approvals]
  checkedRow := by simp [initial.consumers]
  spent := by simp [initial.consumptions]

theorem Voter.holds_iff {voter : Voter} {id : ApprovalId} :
    voter.holds id = true ↔ voter.approvalId = id ∧ ∃ existing count, voter.phase = .locked existing count := by
  unfold Voter.holds
  cases phase : voter.phase <;> simp

@[simp] theorem holds_waiting (id : VoterId) (actorId : ActorId) (orgId : OrgId) (approvalId id' : ApprovalId)
    (count : Nat) : Voter.holds ⟨id, actorId, orgId, approvalId, .waiting count⟩ id' = false := by
  simp [Voter.holds]

theorem votesCount_insert {votes votes' : Votes} {vote : VoteRow} (inserted : votes.insert? vote = some votes')
    (id : ApprovalId) :
    votesCount votes' id = (if vote.approval_id = id then 1 else 0) + votesCount votes id :=
  Table.sum_insert? _ inserted

theorem Sound.putApproval {s : State} (sound : Sound s) (row : ApprovalRow) (status : ApprovalStatus)
    (found : s.approvals.find? row.id = some row) (free : s.rowLocked row.id = false)
    (reached : status = .approved ∨ status = .consumed → row.required_approvals ≤ votesCount s.votes row.id)
    (final : row.status = .consumed → status = .consumed) :
    Sound { s with approvals := s.approvals.put { row with status } } := by
  have relocated (id : ApprovalId) (row' : ApprovalRow) (found' : s.approvals.find? id = some row') :
      ∃ row'', (s.approvals.put { row with status }).find? id = some row'' ∧ SameRequest row' row'' ∧
        (row'.status = .consumed → row''.status = .consumed) := by
    by_cases same : row.id = id
    · subst same
      obtain rfl : row = row' := by rw [found] at found'; exact Option.some.inj found'
      exact ⟨_, Table.find?_put_self (r := { row with status }) found, SameRequest.withStatus row status, final⟩
    · refine ⟨row', ?_, .refl row', fun consumed => consumed⟩
      rw [Table.find?_put_ne (by simpa using same), found']
  refine ⟨?_, sound.exclusive, sound.snapshot, ?_, ?_, ?_, ?_⟩
  · intro voter member existing count phase
    obtain ⟨located, pending⟩ := sound.lockedRow voter member existing count phase
    have apart : row.id ≠ voter.approvalId := by
      intro same
      have held : voter.holds row.id = true := Voter.holds_iff.mpr ⟨same.symm, existing, count, phase⟩
      rw [State.rowLocked_eq_false.mp free voter member] at held
      cases held
    exact ⟨by rw [← located]; exact Table.find?_put_ne apart, pending⟩
  · intro vote member
    obtain ⟨row', found', other⟩ := sound.eligible vote member
    obtain ⟨row'', found'', same, -⟩ := relocated _ row' found'
    exact ⟨row'', found'', by rw [same]; exact other⟩
  · intro row' member settled
    rcases Table.mem_put.mp member with ⟨member, -⟩ | ⟨rfl, -⟩
    · exact sound.quorum row' member settled
    · exact reached settled
  · intro consumer member approval phase
    obtain ⟨same, connection, agent, decision, row', found', request⟩ := sound.checkedRow consumer member approval phase
    obtain ⟨row'', found'', request', -⟩ := relocated _ row' found'
    exact ⟨same, connection, agent, decision, row'', found'', request.trans request'⟩
  · intro consumption member
    obtain ⟨row', found', consumed⟩ := sound.spent consumption member
    obtain ⟨row'', found'', -, final'⟩ := relocated _ row' found'
    exact ⟨row'', found'', final' consumed⟩

theorem Sound.finishVoter {s : State} (sound : Sound s) (voter : Voter) (outcome : Except Failure Unit) :
    Sound (s.setVoter voter (.finished outcome)) := by
  refine ⟨?_, ?_, ?_, sound.eligible, sound.quorum, sound.checkedRow, sound.spent⟩
  · intro voter' member existing count phase
    rcases Table.mem_put.mp member with ⟨member, -⟩ | ⟨rfl, -⟩
    · exact sound.lockedRow voter' member existing count phase
    · cases phase
  · intro voter₁ member₁ voter₂ member₂ id holds₁ holds₂
    rcases Table.mem_put.mp member₁ with ⟨member₁, -⟩ | ⟨rfl, -⟩
    · rcases Table.mem_put.mp member₂ with ⟨member₂, -⟩ | ⟨rfl, -⟩
      · exact sound.exclusive voter₁ member₁ voter₂ member₂ id holds₁ holds₂
      · simp [Voter.holds] at holds₂
    · simp [Voter.holds] at holds₁
  · intro voter' member count phase
    rcases Table.mem_put.mp member with ⟨member, -⟩ | ⟨rfl, -⟩
    · exact sound.snapshot voter' member count phase
    · simp at phase

theorem Sound.lockVoter {s : State} (sound : Sound s) {voter : Voter} {count : Nat} {existing : ApprovalRow}
    (member : voter ∈ s.voters) (waiting : voter.phase = .waiting count)
    (free : s.rowLocked voter.approvalId = false)
    (checked : checkApprovable s.now voter.actorId (findScoped s.approvals voter.orgId voter.approvalId) = .ok existing) :
    Sound (s.setVoter voter (.locked existing count)) := by
  obtain ⟨found, pending, -, other⟩ := checkApprovable_ok checked
  refine ⟨?_, ?_, ?_, sound.eligible, sound.quorum, sound.checkedRow, sound.spent⟩
  · intro voter' member' existing' count' phase
    rcases Table.mem_put.mp member' with ⟨member', -⟩ | ⟨rfl, -⟩
    · exact sound.lockedRow voter' member' existing' count' phase
    · obtain ⟨rfl, rfl⟩ : existing = existing' ∧ count = count' := by simpa using phase
      exact ⟨(findScoped_eq_some.mp found).1, pending, other⟩
  · have fresh (voter' : Voter) (member' : voter' ∈ s.voters) (id : ApprovalId) (holds' : voter'.holds id = true)
        (holds : Voter.holds { voter with phase := .locked existing count } id = true) : False := by
      obtain ⟨rfl, -⟩ := Voter.holds_iff.mp holds
      rw [State.rowLocked_eq_false.mp free voter' member'] at holds'
      cases holds'
    intro voter₁ member₁ voter₂ member₂ id holds₁ holds₂
    rcases Table.mem_put.mp member₁ with ⟨member₁, -⟩ | ⟨rfl, -⟩
    · rcases Table.mem_put.mp member₂ with ⟨member₂, -⟩ | ⟨rfl, -⟩
      · exact sound.exclusive voter₁ member₁ voter₂ member₂ id holds₁ holds₂
      · exact (fresh voter₁ member₁ id holds₁ holds₂).elim
    · rcases Table.mem_put.mp member₂ with ⟨member₂, -⟩ | ⟨rfl, -⟩
      · exact (fresh voter₂ member₂ id holds₂ holds₁).elim
      · rfl
  · intro voter' member' count' phase
    rcases Table.mem_put.mp member' with ⟨member', -⟩ | ⟨rfl, -⟩
    · exact sound.snapshot voter' member' count' phase
    · obtain rfl : count = count' := by simpa using phase
      exact sound.snapshot voter member count (.inl waiting)

theorem Sound.free_of_finished {s : State} (sound : Sound s) {voter : Voter} (member : voter ∈ s.voters)
    {existing : ApprovalRow} {count : Nat} (phase : voter.phase = .locked existing count)
    (outcome : Except Failure Unit) : (s.setVoter voter (.finished outcome)).rowLocked voter.approvalId = false := by
  have held : voter.holds voter.approvalId = true := Voter.holds_iff.mpr ⟨rfl, existing, count, phase⟩
  rw [State.rowLocked_eq_false]
  intro voter' member'
  rcases Table.mem_put.mp member' with ⟨member', other⟩ | ⟨rfl, -⟩
  · cases holds : voter'.holds voter.approvalId with
    | false => rfl
    | true =>
      obtain rfl := sound.exclusive voter' member' voter member voter.approvalId holds held
      exact (other rfl).elim
  · simp [Voter.holds]

theorem Sound.insertVote {s : State} (sound : Sound s) {vote : VoteRow} {votes : Votes} (row : ApprovalRow)
    (inserted : s.votes.insert? vote = some votes) (found : s.approvals.find? vote.approval_id = some row)
    (other : vote.actor_id ≠ row.requested_by) : Sound { s with votes } := by
  have grows (id : ApprovalId) : votesCount s.votes id ≤ votesCount votes id := by
    rw [votesCount_insert inserted]
    exact Nat.le_add_left _ _
  refine ⟨sound.lockedRow, sound.exclusive, ?_, ?_, ?_, sound.checkedRow, sound.spent⟩
  · intro voter member count phase
    exact (sound.snapshot voter member count phase).trans (grows _)
  · intro vote' member
    rcases (Table.mem_insert? inserted).mp member with rfl | member
    · exact ⟨row, found, other⟩
    · exact sound.eligible vote' member
  · intro row' member settled
    exact (sound.quorum row' member settled).trans (grows _)

theorem Sound.vote {s : State} (sound : Sound s) {voter : Voter} (member : voter ∈ s.voters)
    {existing : ApprovalRow} {count : Nat} (phase : voter.phase = .locked existing count)
    {approvals : Requests} {votes : Votes}
    (cast : castVote s.approvals s.votes existing count voter.actorId = .ok (approvals, votes)) :
    Sound { s.setVoter voter (.finished (.ok ())) with approvals, votes } := by
  obtain ⟨found, pending, other⟩ := sound.lockedRow voter member existing count phase
  obtain ⟨row, located, inserted, rfl⟩ := castVote_ok cast
  obtain ⟨sameId, -⟩ : existing.id = voter.approvalId ∧ True := ⟨Table.key_of_find? found, trivial⟩
  obtain rfl : existing = row := by
    rw [← sameId, (findScoped_eq_some.mp located).1] at found
    exact (Option.some.inj found).symm
  have reached : quorumReached existing count = true →
      existing.required_approvals ≤ votesCount votes existing.id := by
    intro quorum
    have enough : existing.required_approvals ≤ count + 1 := by simpa [quorumReached] using quorum
    have seen : count ≤ votesCount s.votes existing.id := by
      rw [sameId]
      exact sound.snapshot voter member count (.inr ⟨existing, phase⟩)
    have counted := votesCount_insert inserted existing.id
    simp only [if_pos] at counted
    omega
  have afterVote := (sound.finishVoter voter (.ok ())).insertVote existing inserted
    (by simpa [State.setVoter, sameId] using found) (Ne.symm other)
  refine afterVote.putApproval existing
    (if quorumReached existing count then .approved else existing.status) ?_ ?_ ?_ ?_
  · simpa [State.setVoter, sameId] using found
  · rw [sameId]
    exact sound.free_of_finished member phase (.ok ())
  · intro settled
    apply reached
    by_contra short
    simp [short, pending] at settled
  · simp [pending]

theorem Sound.insertApproval {s : State} (sound : Sound s) {row : ApprovalRow} {approvals : Requests}
    (inserted : s.approvals.insert? row = some approvals) (pending : row.status = .pending) :
    Sound { s with approvals } := by
  have kept {id : ApprovalId} {row' : ApprovalRow} (found : s.approvals.find? id = some row') :
      approvals.find? id = some row' := Table.find?_insert?_of_find? inserted found
  refine ⟨?_, sound.exclusive, sound.snapshot, ?_, ?_, ?_, ?_⟩
  · intro voter member existing count phase
    obtain ⟨found, rest⟩ := sound.lockedRow voter member existing count phase
    exact ⟨kept found, rest⟩
  · intro vote member
    obtain ⟨row', found, other⟩ := sound.eligible vote member
    exact ⟨row', kept found, other⟩
  · intro row' member settled
    rcases (Table.mem_insert? inserted).mp member with rfl | member
    · simp [pending] at settled
    · exact sound.quorum row' member settled
  · intro consumer member approval phase
    obtain ⟨same, connection, agent, decision, row', found, request⟩ := sound.checkedRow consumer member approval phase
    exact ⟨same, connection, agent, decision, row', kept found, request⟩
  · intro consumption member
    obtain ⟨row', found, consumed⟩ := sound.spent consumption member
    exact ⟨row', kept found, consumed⟩

theorem consumerOf_phase {s : State} {id : ConsumerId} {auth : ConnectionAuthResult} {approvalId : ApprovalId}
    {decisionId : DecisionId} {approval : ApprovalRow}
    (phase : (consumerOf s id auth approvalId decisionId).phase = .checked approval) :
    findScoped s.approvals auth.org_id approvalId = some approval ∧
      checkConsumable s.now auth decisionId approval = .ok approval := by
  unfold consumerOf getApproval at phase
  cases found : findScoped s.approvals auth.org_id approvalId with
  | none => simp [found, Except.bind] at phase
  | some row =>
    cases checked : checkConsumable s.now auth decisionId row with
    | error failure => simp [found, Except.bind, checked] at phase
    | ok approval' =>
      obtain rfl := (checkConsumable_ok checked).1
      obtain rfl : approval' = approval := by simpa [found, Except.bind, checked] using phase
      exact ⟨rfl, checked⟩

theorem consumerOf_not_rechecked {s : State} {id : ConsumerId} {auth : ConnectionAuthResult} {approvalId : ApprovalId}
    {decisionId : DecisionId} {approval : ApprovalRow} :
    (consumerOf s id auth approvalId decisionId).phase ≠ .rechecked approval := by
  unfold consumerOf
  intro phase
  split at phase <;> cases phase

theorem Sound.openConsumer {s : State} (sound : Sound s) {id : ConsumerId} {auth : ConnectionAuthResult}
    {approvalId : ApprovalId} {decisionId : DecisionId} {consumers : Table Consumer.id}
    (inserted : s.consumers.insert? (consumerOf s id auth approvalId decisionId) = some consumers) :
    Sound { s with consumers } := by
  refine ⟨sound.lockedRow, sound.exclusive, sound.snapshot, sound.eligible, sound.quorum, ?_, sound.spent⟩
  intro consumer member approval phase
  rcases (Table.mem_insert? inserted).mp member with rfl | member
  · rcases phase with phase | phase
    · obtain ⟨found, checked⟩ := consumerOf_phase phase
      obtain ⟨located, -⟩ := findScoped_eq_some.mp found
      obtain ⟨-, connection, agent, decision, -⟩ := checkConsumable_ok checked
      have sameId : approval.id = approvalId := Table.key_of_find? located
      exact ⟨sameId, connection, agent, decision, approval, by rw [sameId]; exact located, .refl approval⟩
    · exact (consumerOf_not_rechecked phase).elim
  · exact sound.checkedRow consumer member approval phase

theorem Sound.setConsumer {s : State} (sound : Sound s) {consumer : Consumer} (member : consumer ∈ s.consumers)
    (phase : ConsumerPhase) (kept : ∀ approval, phase = .checked approval ∨ phase = .rechecked approval →
      consumer.phase = .checked approval ∨ consumer.phase = .rechecked approval) :
    Sound (s.setConsumer consumer phase) := by
  refine ⟨sound.lockedRow, sound.exclusive, sound.snapshot, sound.eligible, sound.quorum, ?_, sound.spent⟩
  intro consumer' member' approval phase'
  rcases Table.mem_put.mp member' with ⟨member', -⟩ | ⟨rfl, -⟩
  · exact sound.checkedRow consumer' member' approval phase'
  · exact sound.checkedRow consumer member approval (kept approval phase')

theorem Sound.consume {s : State} (sound : Sound s) {consumer : Consumer} (member : consumer ∈ s.consumers)
    {approval : ApprovalRow} {approvals : Requests} {consumptions : Consumptions}
    (free : s.rowLocked approval.id = false)
    (committed : commitConsumption s.approvals s.consumptions consumer.auth approval consumer.decisionId =
      .ok (approvals, consumptions)) :
    Sound { s.setConsumer consumer (.finished (.ok ())) with approvals, consumptions } := by
  obtain ⟨row, found, -, approved, inserted, rfl⟩ := commitConsumption_ok committed
  have sameId : row.id = approval.id := Table.key_of_find? found
  have ended := sound.setConsumer member (.finished (.ok ())) (by simp)
  have put := ended.putApproval row .consumed (by rw [sameId]; exact found)
    (by rw [sameId]; exact free) (fun _ => sound.quorum row (Table.mem_of_find? found) (.inl approved)) (fun _ => rfl)
  refine ⟨put.lockedRow, put.exclusive, put.snapshot, put.eligible, put.quorum, put.checkedRow, ?_⟩
  intro consumption consumed
  rcases (Table.mem_insert? inserted).mp consumed with rfl | consumed
  · refine ⟨{ row with status := .consumed }, ?_, rfl⟩
    rw [← sameId]
    exact Table.find?_put_self (r := { row with status := .consumed }) (by rw [← sameId] at found; exact found)
  · exact put.spent consumption consumed

theorem Sound.step {s s' : State} {label : Label} (sound : Sound s) (taken : Step s label s') : Sound s' := by
  cases taken with
  | tick later => exact ⟨sound.lockedRow, sound.exclusive, sound.snapshot, sound.eligible, sound.quorum,
      sound.checkedRow, sound.spent⟩
  | created inserted => exact sound.insertApproval inserted rfl
  | @opened voter actorId orgId approvalId voters inserted =>
    refine ⟨?_, ?_, ?_, sound.eligible, sound.quorum, sound.checkedRow, sound.spent⟩
    · intro voter' member existing count phase
      rcases (Table.mem_insert? inserted).mp member with rfl | member
      · cases phase
      · exact sound.lockedRow voter' member existing count phase
    · intro voter₁ member₁ voter₂ member₂ id holds₁ holds₂
      rcases (Table.mem_insert? inserted).mp member₁ with rfl | member₁
      · simp at holds₁
      · rcases (Table.mem_insert? inserted).mp member₂ with rfl | member₂
        · simp at holds₂
        · exact sound.exclusive voter₁ member₁ voter₂ member₂ id holds₁ holds₂
    · intro voter' member count phase
      rcases (Table.mem_insert? inserted).mp member with rfl | member
      · obtain rfl : votesCount s.votes approvalId = count := by simpa using phase
        exact le_rfl
      · exact sound.snapshot voter' member count phase
  | lockRefused waiting => exact sound.finishVoter _ _
  | locked waiting free checked =>
    obtain ⟨found, phase⟩ := State.waiting?_eq_some.mp waiting
    exact sound.lockVoter (Table.mem_of_find? found) phase free checked
  | voteRefused locked refused => exact sound.finishVoter _ _
  | voted locked cast =>
    obtain ⟨found, phase⟩ := State.locked?_eq_some.mp locked
    exact sound.vote (Table.mem_of_find? found) phase cast
  | abandoned found => exact sound.finishVoter _ _
  | denyRefused => exact sound
  | denied free denied =>
    obtain ⟨row, found, pending, rfl⟩ := denyApproval_ok denied
    have sameId : row.id = _ := Table.key_of_find? found
    refine sound.putApproval _ _ (by rw [sameId]; exact found) (by rw [sameId]; exact free) (by simp) ?_
    simp [pending]
  | checked inserted => exact sound.openConsumer inserted
  | policyRefused checked =>
    obtain ⟨found, -⟩ := State.checked?_eq_some.mp checked
    exact sound.setConsumer (Table.mem_of_find? found) _ (by simp)
  | rechecked checked =>
    obtain ⟨found, phase⟩ := State.checked?_eq_some.mp checked
    refine sound.setConsumer (Table.mem_of_find? found) _ ?_
    rintro approval (same | same)
    · cases same
    · obtain rfl := ConsumerPhase.rechecked.inj same
      exact .inl phase
  | consumeRefused rechecked =>
    obtain ⟨found, -⟩ := State.rechecked?_eq_some.mp rechecked
    exact sound.setConsumer (Table.mem_of_find? found) _ (by simp)
  | consumed rechecked free committed =>
    obtain ⟨found, -⟩ := State.rechecked?_eq_some.mp rechecked
    exact sound.consume (Table.mem_of_find? found) free committed

end AgentOps.Approvals
