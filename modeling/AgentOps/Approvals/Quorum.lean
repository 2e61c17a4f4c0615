import AgentOps.Approvals.Safety

namespace AgentOps.Approvals
open Lib Identity

/-! # The quorum under concurrent votes -/

/-- A request that can still be voted on, or was approved, is approved exactly when its votes reach the quorum. -/
def QuorumMet (s : State) : Prop :=
  ∀ row ∈ s.approvals, row.status = .pending ∨ row.status = .approved →
    (row.status = .approved ↔ row.required_approvals ≤ votesCount s.votes row.id)

/-- A vote that completes the quorum is cast on a count, taken when its call started, that shows it does. -/
def QuorumSeen (s : State) : Label → Prop
  | .castVote id => ∀ voter existing count result, s.locked? id = some (voter, existing, count) →
      castVote s.approvals s.votes existing count voter.actorId = .ok result →
      existing.required_approvals ≤ votesCount s.votes existing.id + 1 → existing.required_approvals ≤ count + 1
  | _ => True

theorem Initial.quorumMet {s : State} (initial : Initial s) : QuorumMet s := by
  simp [QuorumMet, initial.approvals]

theorem sound_of_run {s₀ s : State} {events : List (State × Label)} (initial : Initial s₀)
    (run : Run step s₀ events s) : Sound s :=
  run.always Sound initial.sound fun _ _ _ sound taken => sound.step (step_inversion taken)

theorem Sound.unvoted {s : State} (sound : Sound s) {id : ApprovalId} (missing : s.approvals.find? id = none) :
    votesCount s.votes id = 0 := by
  have noVote : ∀ vote ∈ s.votes, (if vote.approval_id = id then 1 else 0) = 0 := by
    intro vote member
    obtain ⟨row, found, -⟩ := sound.eligible vote member
    rw [if_neg]
    rintro rfl
    simp [missing] at found
  unfold votesCount
  rw [Table.sum_congr noVote]
  simp [Table.sum]

theorem QuorumMet.putClosed {s : State} (met : QuorumMet s) {row : ApprovalRow} {status : ApprovalStatus}
    (closed : status ≠ .pending ∧ status ≠ .approved) :
    QuorumMet { s with approvals := s.approvals.put { row with status } } := by
  intro row' member openStatus
  rcases Table.mem_put.mp member with ⟨member, -⟩ | ⟨rfl, -⟩
  · exact met row' member openStatus
  · rcases openStatus with pending | approved
    · exact (closed.1 pending).elim
    · exact (closed.2 approved).elim

theorem castVote_quorum {s : State} (sound : Sound s) {voter : Voter} (member : voter ∈ s.voters)
    {existing : ApprovalRow} {count : Nat} (phase : voter.phase = .locked existing count) {approvals : Requests}
    {votes : Votes} (cast : castVote s.approvals s.votes existing count voter.actorId = .ok (approvals, votes)) :
    existing ∈ s.approvals ∧ votesCount votes existing.id = votesCount s.votes existing.id + 1 ∧
      (∀ id, existing.id ≠ id → votesCount votes id = votesCount s.votes id) ∧
      approvals = s.approvals.put
        { existing with status := if quorumReached existing count then .approved else .pending } := by
  obtain ⟨found, pending, -⟩ := sound.lockedRow voter member existing count phase
  obtain ⟨row, located, inserted, rfl⟩ := castVote_ok cast
  have sameId : existing.id = voter.approvalId := Table.key_of_find? found
  obtain rfl : existing = row := by
    rw [← sameId, (findScoped_eq_some.mp located).1] at found
    exact (Option.some.inj found).symm
  refine ⟨Table.mem_of_find? found, ?_, ?_, by rw [pending]⟩
  · rw [votesCount_insert inserted, if_pos rfl, Nat.add_comm]
  · intro id other
    rw [votesCount_insert inserted, if_neg other, Nat.zero_add]

theorem QuorumMet.vote_iff {s : State} (met : QuorumMet s) (sound : Sound s) {id : VoterId} {voter : Voter}
    {existing : ApprovalRow} {count : Nat} (locked : s.locked? id = some (voter, existing, count))
    {approvals : Requests} {votes : Votes}
    (cast : castVote s.approvals s.votes existing count voter.actorId = .ok (approvals, votes)) :
    QuorumMet { s.setVoter voter (.finished (.ok ())) with approvals, votes } ↔ QuorumSeen s (.castVote id) := by
  obtain ⟨found, phase⟩ := State.locked?_eq_some.mp locked
  have member := Table.mem_of_find? found
  obtain ⟨existingMember, counted, others, rfl⟩ := castVote_quorum sound member phase cast
  have seen : count ≤ votesCount s.votes existing.id := by
    rw [Table.key_of_find? (sound.lockedRow voter member existing count phase).1]
    exact sound.snapshot voter member count (.inr ⟨existing, phase⟩)
  have decided : QuorumSeen s (.castVote id) ↔
      (existing.required_approvals ≤ votesCount s.votes existing.id + 1 → existing.required_approvals ≤ count + 1) := by
    constructor
    · intro quorumSeen
      exact quorumSeen voter existing count _ locked cast
    · rintro enough voter' existing' count' _ locked' -
      rw [locked] at locked'
      obtain ⟨rfl, rfl, rfl⟩ : voter = voter' ∧ existing = existing' ∧ count = count' := by simpa using locked'
      exact enough
  rw [decided]
  constructor
  · intro met' complete
    have replaced := met' _ (Table.mem_put.mpr (.inr ⟨rfl, existing, existingMember, rfl⟩))
    simp only [counted] at replaced
    by_contra short
    have missed : quorumReached existing count = false := by simpa [quorumReached] using short
    simp [missed, complete] at replaced
  · intro enough row' member' openStatus
    rcases Table.mem_put.mp member' with ⟨member', other⟩ | ⟨rfl, -⟩
    · show row'.status = .approved ↔ row'.required_approvals ≤ votesCount votes row'.id
      rw [others row'.id (Ne.symm other)]
      exact met row' member' openStatus
    · simp only [counted]
      by_cases reached : quorumReached existing count = true
      · have atLeast : existing.required_approvals ≤ count + 1 := by simpa [quorumReached] using reached
        simp only [reached, if_true, true_iff]
        omega
      · have below : ¬existing.required_approvals ≤ count + 1 := by simpa [quorumReached] using reached
        simp only [reached, Bool.false_eq_true, if_false, reduceCtorEq, false_iff]
        exact fun complete => below (enough complete)

theorem QuorumMet.step_iff {s s' : State} {label : Label} (met : QuorumMet s) (sound : Sound s)
    (taken : Step s label s') : QuorumMet s' ↔ QuorumSeen s label := by
  cases taken with
  | tick | opened | lockRefused | locked | abandoned | denyRefused | checked | policyRefused | rechecked
  | consumeRefused => exact iff_of_true met trivial
  | created inserted =>
    refine iff_of_true ?_ trivial
    intro row member openStatus
    rcases (Table.mem_insert? inserted).mp member with rfl | member
    · rename_i id input approvals
      have unvoted := sound.unvoted (Table.insert?_eq_some inserted).2
      have required := (approvalRowOf s.now id input).required_approvals_check
      have pending : (approvalRowOf s.now id input).status = .pending := rfl
      simp only [unvoted, pending, reduceCtorEq, false_iff]
      omega
    · exact met row member openStatus
  | voteRefused locked refused =>
    refine iff_of_true met ?_
    intro voter existing count result locked' cast
    rw [locked] at locked'
    obtain ⟨rfl, rfl, rfl⟩ := Prod.mk.inj (Option.some.inj locked') |>.imp_right Prod.mk.inj
    rw [refused] at cast
    cases cast
  | voted locked cast => exact met.vote_iff sound locked cast
  | denied free denied =>
    obtain ⟨row, -, -, rfl⟩ := denyApproval_ok denied
    exact iff_of_true (met.putClosed (by simp)) trivial
  | consumed rechecked free committed =>
    obtain ⟨row, -, -, -, -, rfl⟩ := commitConsumption_ok committed
    exact iff_of_true (met.putClosed (by simp)) trivial

/-- A run misses no quorum in any state it passes exactly when each vote that completes a quorum was cast on a count
that shows it. -/
theorem quorum_met_iff {s₀ s : State} {events : List (State × Label)} (initial : Initial s₀)
    (run : Run step s₀ events s) :
    Conforms QuorumSeen events ↔ ∀ t ∈ states events s, QuorumMet t := by
  induction run with
  | start => simpa [states] using initial.quorumMet
  | @next events s s' label before taken ih =>
    have sound := sound_of_run initial before
    rw [conforms_append, conforms_singleton, ih, states_append]
    constructor
    · rintro ⟨met, seen⟩ t member
      have here := met s (by simp [states])
      rcases List.mem_append.mp member with earlier | last
      · exact met t earlier
      · obtain rfl := List.mem_singleton.mp last
        exact (here.step_iff sound (step_inversion taken)).mpr seen
    · intro met
      have earlier : ∀ t ∈ states events s, QuorumMet t := fun t member => met t (List.mem_append_left _ member)
      refine ⟨earlier, ?_⟩
      exact ((earlier s (by simp [states])).step_iff sound (step_inversion taken)).mp (met s' (by simp))

def Voter.finishedOk (voter : Voter) : Bool :=
  match voter.phase with
  | .finished (.ok ()) => true
  | _ => false

def emptyState : State := ⟨0, .empty, .empty, .empty, .empty, .empty⟩

theorem emptyState_initial : Initial emptyState := ⟨rfl, rfl, rfl, rfl, rfl⟩

def twoOfTwo : CreateApprovalInput where
  orgId := 1
  agentId := 2
  connectionId := 7
  decisionId := 3
  request := ⟨none, none⟩
  contextHash := "context"
  requiredApprovals := some ⟨2, by decide⟩

def overlappingVotes : List Label :=
  [.createApprovalRequest 1 twoOfTwo, .approveApproval 1 10 1 1, .approveApproval 2 11 1 1, .lockApproval 1, .castVote 1,
    .lockApproval 2, .castVote 2]

/-- Both calls succeed, both votes are recorded, and the request stays pending. -/
theorem quorum_missed : ∃ events s, Run step emptyState events s ∧
    (∀ voter ∈ s.voters.rows, voter.finishedOk = true) ∧
      ∃ row ∈ s.approvals.rows, row.status = .pending ∧ s.now < row.expires_at ∧
        row.required_approvals ≤ votesCount s.votes row.id :=
  exists_run overlappingVotes _ (by decide)

theorem quorum_met_iff_sequential : ∃ events s, Run step emptyState events s ∧ s.votes.rows.length = 2 ∧
    (Conforms QuorumSeen events ↔ ∀ t ∈ states events s, QuorumMet t) := by
  obtain ⟨events, s, run, two⟩ : ∃ events s, Run step emptyState events s ∧ s.votes.rows.length = 2 :=
    exists_run [.createApprovalRequest 1 twoOfTwo, .approveApproval 1 10 1 1, .lockApproval 1, .castVote 1,
      .approveApproval 2 11 1 1, .lockApproval 2, .castVote 2] _ (by decide)
  exact ⟨events, s, run, two, quorum_met_iff emptyState_initial run⟩

end AgentOps.Approvals
