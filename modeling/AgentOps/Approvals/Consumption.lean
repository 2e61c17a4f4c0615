import AgentOps.Approvals.Safety

namespace AgentOps.Approvals
open Lib Identity

variable {s s' : State} {label : Label} {consumer : Consumer} {row : ApprovalRow}

/-! # What a consumption rests on -/

def consumption? (s : State) : Label → Option (Consumer × ApprovalRow)
  | .commitConsumption id =>
    match s.rechecked? id with
    | none => none
    | some (consumer, approval) =>
      match commitConsumption s.approvals s.consumptions consumer.auth approval consumer.decisionId with
      | .error _ => none
      | .ok _ => (s.approvals.find? approval.id).map fun row => (consumer, row)
  | _ => none

structure ProperConsumption (s : State) (consumer : Consumer) (row : ApprovalRow) : Prop where
  approved : row.status = .approved
  unexpired : s.now < row.expires_at
  voted : ∃ actors : List ActorId, actors.Nodup ∧ row.required_approvals ≤ actors.length ∧
    ∀ actor ∈ actors, actor ≠ row.requested_by ∧ ∃ vote ∈ s.votes, vote.approval_id = row.id ∧ vote.actor_id = actor
  connection : row.connection_id = consumer.auth.connection_id
  agent : row.agent_id = consumer.auth.agent_id
  decision : row.decision_id = consumer.decisionId

theorem consumption?_eq_some (consumes : consumption? s label = some (consumer, row)) :
    ∃ id approval, label = .commitConsumption id ∧ s.rechecked? id = some (consumer, approval) ∧
      findScoped s.approvals consumer.auth.org_id approval.id = some row ∧ row.status = .approved := by
  unfold consumption? at consumes
  split at consumes
  · rename_i id
    split at consumes
    · cases consumes
    rename_i consumer' approval rechecked
    split at consumes
    · cases consumes
    rename_i committed
    obtain ⟨row', found, same⟩ := Option.map_eq_some_iff.mp consumes
    obtain ⟨rfl, rfl⟩ := Prod.mk.inj same
    obtain ⟨stored, located, inOrg, approved, -⟩ := commitConsumption_ok committed
    obtain rfl : row' = stored := Option.some.inj (found.symm.trans located)
    exact ⟨id, approval, rfl, rechecked, findScoped_eq_some.mpr ⟨found, inOrg⟩, approved⟩
  · cases consumes

theorem Sound.consumes {id : ConsumerId} {approval : ApprovalRow} (sound : Sound s)
    (rechecked : s.rechecked? id = some (consumer, approval))
    (selected : findScoped s.approvals consumer.auth.org_id approval.id = some row) (approved : row.status = .approved) :
    consumption? s (.commitConsumption id) = some (consumer, row) := by
  have located := (findScoped_eq_some.mp selected).1
  have free : s.consumptions.find? (ConsumptionRow.approval_id ⟨consumer.auth.org_id, approval.id, consumer.decisionId,
      consumer.auth.connection_id, approval.context_hash⟩) = none := by
    rw [Table.find?_eq_none]
    intro consumption member same
    obtain ⟨row', found, spent⟩ := sound.spent consumption member
    rw [same] at found
    obtain rfl : row = row' := Option.some.inj (located.symm.trans found)
    rw [approved] at spent
    cases spent
  obtain ⟨consumptions, inserted⟩ := Option.isSome_iff_exists.mp (Table.insert?_isSome free)
  have committed : commitConsumption s.approvals s.consumptions consumer.auth approval consumer.decisionId =
      .ok (s.approvals.put { row with status := .consumed }, consumptions) := by
    simp [commitConsumption, selected, approved, inserted]
  simp [consumption?, rechecked, committed, located]

theorem exists_voters (votes : Votes) (id : ApprovalId) : ∃ actors : List ActorId, actors.Nodup ∧
    actors.length = votesCount votes id ∧ ∀ actor ∈ actors, ∃ vote ∈ votes, vote.approval_id = id ∧ vote.actor_id = actor := by
  refine ⟨(votes.rows.filter fun vote => vote.approval_id = id).map VoteRow.actor_id, ?_, ?_, ?_⟩
  · have unique : (votes.rows.filter fun vote => vote.approval_id = id).Nodup := (votes.distinct.of_map _).filter _
    refine unique.map_on fun vote member vote' member' same => ?_
    simp only [List.mem_filter, decide_eq_true_eq] at member member'
    have sameKey : VoteRow.key vote = VoteRow.key vote' := by
      simp [VoteRow.key, same, member.2, member'.2]
    exact Table.eq_of_key (t := votes) member.1 member'.1 sameKey
  · rw [List.length_map, votesCount, Table.sum_indicator]
  · intro actor member
    obtain ⟨vote, selected, rfl⟩ := List.mem_map.mp member
    simp only [List.mem_filter, decide_eq_true_eq] at selected
    exact ⟨vote, selected.1, selected.2, rfl⟩

theorem Sound.proper (sound : Sound s) (consumes : consumption? s label = some (consumer, row))
    (unexpired : s.now < row.expires_at) : ProperConsumption s consumer row := by
  obtain ⟨id, approval, rfl, rechecked, selected, approved⟩ := consumption?_eq_some consumes
  have found := (findScoped_eq_some.mp selected).1
  obtain ⟨located, phase⟩ := State.rechecked?_eq_some.mp rechecked
  obtain ⟨-, connection, agent, decision, row', found', same⟩ :=
    sound.checkedRow consumer (Table.mem_of_find? located) approval (.inr phase)
  obtain rfl : row = row' := Option.some.inj (found.symm.trans found')
  have stored := Table.mem_of_find? found
  obtain ⟨actors, unique, counted, voted⟩ := exists_voters s.votes row.id
  refine ⟨approved, unexpired, ⟨actors, unique, ?_, ?_⟩, ?_, ?_, ?_⟩
  · rw [counted]
    exact sound.quorum row stored (.inl approved)
  · intro actor member
    obtain ⟨vote, cast, names, rfl⟩ := voted actor member
    obtain ⟨row', located', other⟩ := sound.eligible vote cast
    rw [names, Table.find?_of_mem stored] at located'
    obtain rfl := Option.some.inj located'
    exact ⟨other, vote, cast, names, rfl⟩
  · rw [same]
    exact connection
  · rw [same]
    exact agent
  · rw [same]
    exact decision

def Advances (row row' : ApprovalRow) : Prop := SameRequest row row' ∧ (row.status = .consumed → row'.status = .consumed)

theorem Advances.refl (row : ApprovalRow) : Advances row row := ⟨.refl row, fun consumed => consumed⟩

theorem Step.advances (sound : Sound s) (taken : Step s label s') : Table.Grows Advances s.approvals s'.approvals := by
  have put {row : ApprovalRow} {id : ApprovalId} {status : ApprovalStatus} (found : s.approvals.find? id = some row)
      (moves : row.status = .consumed → status = .consumed) :
      Table.Grows Advances s.approvals (s.approvals.put { row with status }) := by
    have located : s.approvals.find? row.id = some row := by
      rw [Table.key_of_find? found]
      exact found
    exact (Table.revised_put Advances.refl (r := { row with status }) located ⟨.withStatus row status, moves⟩).grows
  cases taken with
  | created inserted => exact Table.grows_insert? Advances.refl inserted
  | voted locked cast =>
    obtain ⟨found, phase⟩ := State.locked?_eq_some.mp locked
    obtain ⟨located, pending, -⟩ := sound.lockedRow _ (Table.mem_of_find? found) _ _ phase
    obtain ⟨row, inOrg, -, rfl⟩ := castVote_ok cast
    obtain ⟨stored, -⟩ := findScoped_eq_some.mp inOrg
    rw [← Table.key_of_find? located] at located
    obtain rfl := Option.some.inj (stored.symm.trans located)
    exact put stored (by simp [pending])
  | denied free denied =>
    obtain ⟨row, found, pending, rfl⟩ := denyApproval_ok denied
    exact put found (by simp [pending])
  | consumed rechecked free committed =>
    obtain ⟨row, found, -, -, -, rfl⟩ := commitConsumption_ok committed
    exact put found fun _ => rfl
  | tick | opened | lockRefused | locked | voteRefused | abandoned | denyRefused | checked | policyRefused | rechecked
  | consumeRefused => exact .refl Advances.refl _

def State.consumed (s : State) (id : ApprovalId) : Nat :=
  if (s.approvals.find? id).any fun row => row.status = .consumed then 1 else 0

def consumes (id : ApprovalId) (s : State) (label : Label) : Bool :=
  (consumption? s label).any fun c => c.2.id = id

theorem consumed_mono (grows : Table.Grows Advances s.approvals s'.approvals) (id : ApprovalId) :
    s.consumed id ≤ s'.consumed id := by
  unfold State.consumed
  cases found : s.approvals.find? id with
  | none => simp
  | some row =>
    obtain ⟨row', found', -, stays⟩ := grows id row found
    by_cases spent : row.status = .consumed
    · simp [found', spent, stays spent]
    · simp [spent]

theorem consumption_step (consumed : consumption? s label = some (consumer, row)) (taken : step s label = some s') :
    s.consumed row.id = 0 ∧ s'.consumed row.id = 1 := by
  obtain ⟨id, approval, rfl, rechecked, selected, approved⟩ := consumption?_eq_some consumed
  have found := (findScoped_eq_some.mp selected).1
  have sameId := Table.key_of_find? found
  rw [sameId]
  simp only [step, rechecked] at taken
  split at taken
  · cases taken
  split at taken
  · rename_i refused
    simp [consumption?, rechecked, refused] at consumed
  · rename_i committed
    obtain rfl := Option.some.inj taken
    obtain ⟨row', located, -, -, -, rfl⟩ := commitConsumption_ok committed
    obtain rfl : row = row' := Option.some.inj (found.symm.trans located)
    have put := Table.find?_put_self (r := { row with status := ApprovalStatus.consumed }) (by rw [sameId]; exact found)
    have after : (s.approvals.put { row with status := .consumed }).find? approval.id =
        some { row with status := .consumed } := by
      rw [← sameId]
      exact put
    simp [State.consumed, found, approved, after]

theorem consumes_once (sound : Sound s) (taken : step s label = some s') (id : ApprovalId) :
    (if consumes id s label = true then 1 else 0) + s.consumed id ≤ s'.consumed id := by
  by_cases now : consumes id s label = true
  · cases consumed : consumption? s label with
    | none => simp [consumes, consumed] at now
    | some found =>
      obtain ⟨consumer, row⟩ := found
      obtain rfl : row.id = id := by simpa [consumes, consumed] using now
      obtain ⟨before, after⟩ := consumption_step consumed taken
      rw [if_pos now, before, after]
  · rw [if_neg now, Nat.zero_add]
    exact consumed_mono ((step_inversion taken).advances sound) id

end AgentOps.Approvals
