import AgentOps.AgentJoin.Joins
import AgentOps.Lib.Transition
import AgentOps.Lib.Window

namespace AgentOps.AgentJoin
open Lib Identity

/-! # How many agents join -/

def JoinedAgent.invited (agent : JoinedAgent) : Bool := agent.caller matches .redemption _

def AgentJoinInvite.closed (row : AgentJoinInvite) (now : Time) : Bool := row.revoked_at.isSome || row.expired now

def Redemption.late (call : Redemption) : Bool := call.begunOn.closed call.begunAt

def invitedAgents (s : JoinWorld) : Nat := (s.agents.filter JoinedAgent.invited).length

def NoneLate (s : JoinWorld) : Prop :=
  ∀ call ∈ s.redemptions, call.late → ∀ agent ∈ s.agents, agent.caller ≠ .redemption call.id

structure WithinRates (config : OpenJoinConfig) (s : JoinWorld) : Prop where
  fingerprints : ∀ fingerprint start, (inWindow JoinedAgent.created_at (fun agent => agent.fingerprint = some fingerprint)
    hour start s.agents).length ≤ config.maxPerFingerprintPerHour
  orgs : ∀ orgId start, (inWindow JoinedAgent.created_at (fun agent => agent.fingerprint.isSome && agent.org_id = orgId)
    day start s.agents).length ≤ config.maxPerOrgPerDay

/-! ## Where the limits hold -/

/-- A use is handed back only by a redemption that has created no agent. -/
def HandsBackUnused (s : JoinWorld) : JoinLabel → Prop
  | .handsBack id outcome => outcome.commits →
    ∀ call ∈ s.redemptions, call.id = id → ∀ agent error, call.stage = .handingBack agent error → agent = none
  | _ => True

/-- An open registration creates an agent only where its counts have read the events of the recent agents. -/
def CountsCurrent (s : JoinWorld) : JoinLabel → Prop
  | .creates (.registration id) _ outcome => outcome.commits →
    ∀ call ∈ s.registrations, call.id = id → ∀ hourReading dayReading provision agent,
      call.stage = .provisioning hourReading dayReading provision agent →
        (∀ recent ∈ s.agents, recent.fingerprint = some call.fingerprint → s.now < recent.created_at + hour →
          ∃ event ∈ hourReading.events, event.agent_id = recent.id) ∧
        (∀ recent ∈ s.agents, recent.fingerprint.isSome → recent.org_id = provision.orgId →
          s.now < recent.created_at + day → ∃ event ∈ dayReading.events, event.agent_id = recent.id)
  | _ => True

variable {d : JoinDeployment} {s s' : JoinWorld} {label : JoinLabel}

theorem createAgent_some {agent : JoinedAgent} {outcome : Outcome Failure} (created : s.createAgent agent outcome = some s') :
    s' = s ∧ outcome.commits = false ∨
      s' = { s with agents := agent :: s.agents } ∧ outcome.commits ∧ agent.id ∉ s.agents.map JoinedAgent.id := by
  unfold JoinWorld.createAgent at created
  split at created
  · rename_i failed
    obtain rfl := Option.some.inj created
    exact .inl ⟨rfl, by simpa using failed⟩
  · rename_i commits
    split at created
    · cases created
    · rename_i fresh
      obtain rfl := Option.some.inj created
      exact .inr ⟨rfl, by simpa using commits, fresh⟩

/-! ## The uses of the invite -/

def RedemptionOk (s : JoinWorld) (call : Redemption) : Prop :=
  match call.stage with
  | .begun | .failed _ => True
  | .selected row => s.lock = some call.id ∧ s.invite = row
  | .taking row => s.lock = some call.id ∧ s.invite = row ∧ row.use_count < row.max_uses ∧ call.late = false
  | _ => call.late = false

structure InviteSound (s : JoinWorld) : Prop where
  calls : ∀ call ∈ s.redemptions, RedemptionOk s call
  late : ∀ call ∈ s.redemptions, call.late → s.invite.closed s.now
  uses : s.invite.use_count ≤ s.invite.max_uses
  callers : ∀ agent ∈ s.agents, ∀ id, agent.caller = .redemption id → ∃ call ∈ s.redemptions, call.id = id ∧ call.late = false

theorem InviteSound.noneLate (sound : InviteSound s) : NoneLate s := by
  intro call member late agent created caller
  obtain ⟨other, present, same, early⟩ := sound.callers agent created call.id caller
  obtain rfl := Table.eq_of_key present member same
  rw [early] at late
  cases late

theorem checkInvite_ok {row : AgentJoinInvite} {now : Time} (ok : checkInvite row now = .ok ()) :
    row.closed now = false ∧ row.use_count < row.max_uses := by
  unfold checkInvite at ok
  split at ok
  · cases ok
  split at ok
  · cases ok
  split at ok
  · cases ok
  rename_i kept fresh unspent
  exact ⟨by simp [AgentJoinInvite.closed, kept, fresh], Nat.lt_of_not_le unspent⟩

theorem closed_later {row : AgentJoinInvite} {now later : Time} (closed : row.closed now) (le : now ≤ later) :
    row.closed later := by
  unfold AgentJoinInvite.closed AgentJoinInvite.expired at *
  cases expires : row.expires_at with
  | none => simpa [expires] using closed
  | some expires_at =>
    simp only [expires, Option.any_some, Bool.or_eq_true, decide_eq_true_eq] at closed ⊢
    exact closed.imp_right fun past => Nat.le_trans past le

theorem RedemptionOk.other {call : Redemption} (ok : RedemptionOk s call)
    (held : s.lock = some call.id → s'.lock = s.lock ∧ s'.invite = s.invite) : RedemptionOk s' call := by
  unfold RedemptionOk at *
  split at ok
  · trivial
  · trivial
  · obtain ⟨lock, invite⟩ := held ok.1
    exact ⟨lock.trans ok.1, invite.trans ok.2⟩
  · obtain ⟨lock, invite⟩ := held ok.1
    exact ⟨lock.trans ok.1, invite.trans ok.2.1, ok.2.2⟩
  · exact ok

def RedemptionStage.owed : RedemptionStage → Nat
  | .provisioning _ none | .handingBack none _ => 1
  | _ => 0

structure RedemptionMoved (s s₁ : JoinWorld) (call : Redemption) (stage : RedemptionStage) (label : JoinLabel) : Prop where
  calls : s₁.redemptions = s.redemptions
  apart : s₁.registrations = s.registrations ∧ s₁.events = s.events ∧ s₁.now = s.now
  held : ∀ id ≠ call.id, s.lock = some id → s₁.lock = s.lock ∧ s₁.invite = s.invite
  invite : s₁.invite.revoked_at = s.invite.revoked_at ∧ s₁.invite.expires_at = s.invite.expires_at ∧
    s₁.invite.max_uses = s.invite.max_uses
  uses : s₁.invite.use_count ≤ s₁.invite.max_uses
  agents : s₁.agents = s.agents ∨ ∃ agent, s₁.agents = agent :: s.agents ∧ agent.caller = .redemption call.id ∧
    agent.fingerprint = none ∧ agent.id ∉ s.agents.map JoinedAgent.id ∧ call.late = false
  ok : RedemptionOk s₁ { call with stage }
  spent : HandsBackUnused s label →
    invitedAgents s₁ + stage.owed + s.invite.use_count ≤ invitedAgents s + call.stage.owed + s₁.invite.use_count

section

variable {call : Redemption} {stage : RedemptionStage}

theorem RedemptionMoved.stays (sound : InviteSound s) (ok : RedemptionOk s { call with stage })
    (owed : stage.owed ≤ call.stage.owed) : RedemptionMoved s s call stage label :=
  ⟨rfl, ⟨rfl, rfl, rfl⟩, fun _ _ _ => ⟨rfl, rfl⟩, ⟨rfl, rfl, rfl⟩, sound.uses, .inl rfl, ok, fun _ => by omega⟩

theorem RedemptionMoved.unlocks {error : Failure} (sound : InviteSound s) :
    RedemptionMoved s (s.unlocked call.id) call (.failed error) label := by
  refine ⟨rfl, ⟨rfl, rfl, rfl⟩, fun id other held => ⟨if_neg fun mine => other ?_, rfl⟩, ⟨rfl, rfl, rfl⟩, sound.uses,
    .inl rfl, trivial, fun _ => ?_⟩
  · exact Option.some.inj (held.symm.trans mine)
  · simp [RedemptionStage.owed, invitedAgents, JoinWorld.unlocked]

theorem RedemptionMoved.creates {agent : JoinedAgent} (sound : InviteSound s) (early : call.late = false)
    (caller : agent.caller = .redemption call.id) (unregistered : agent.fingerprint = none)
    (fresh : agent.id ∉ s.agents.map JoinedAgent.id) (owed : stage.owed + 1 ≤ call.stage.owed)
    (ok : RedemptionOk s { call with stage }) :
    RedemptionMoved s { s with agents := agent :: s.agents } call stage label := by
  refine ⟨rfl, ⟨rfl, rfl, rfl⟩, fun _ _ _ => ⟨rfl, rfl⟩, ⟨rfl, rfl, rfl⟩, sound.uses,
    .inr ⟨agent, rfl, caller, unregistered, fresh, early⟩, ok, fun _ => ?_⟩
  have one : invitedAgents { s with agents := agent :: s.agents } = invitedAgents s + 1 := by
    simp [invitedAgents, JoinedAgent.invited, caller]
  simp only [one]
  omega

theorem RedemptionMoved.connects {connection : JoinedConnection} {outcome : Outcome Failure} (sound : InviteSound s)
    (ok : RedemptionOk s { call with stage }) (owed : stage.owed ≤ call.stage.owed) :
    RedemptionMoved s (s.createConnection connection outcome) call stage label := by
  unfold JoinWorld.createConnection
  split
  · exact ⟨rfl, ⟨rfl, rfl, rfl⟩, fun _ _ _ => ⟨rfl, rfl⟩, ⟨rfl, rfl, rfl⟩, sound.uses, .inl rfl, ok,
      fun _ => by simp only [invitedAgents]; omega⟩
  · exact .stays sound ok owed

theorem redemptionStep_moved (sound : InviteSound s) (member : call ∈ s.redemptions)
    (names : ∀ id outcome, label = .handsBack id outcome → call.id = id)
    (taken : redemptionStep d s call label = some s') :
    ∃ s₁ stage, s' = s₁.redeemed call stage ∧ RedemptionMoved s s₁ call stage label := by
  have ok := sound.calls call member
  unfold RedemptionOk at ok
  cases label with
  | selects id =>
    simp only [redemptionStep] at taken
    split at taken
    · rename_i stage
      split at taken
      · obtain rfl := Option.some.inj taken
        exact ⟨s, _, rfl, .stays sound trivial (Nat.zero_le _)⟩
      split at taken
      · cases taken
      · rename_i unlocked
        obtain rfl := Option.some.inj taken
        refine ⟨{ s with lock := some call.id }, _, rfl, rfl, ⟨rfl, rfl, rfl⟩, fun other _ held => ?_, ⟨rfl, rfl, rfl⟩,
          sound.uses, .inl rfl, ⟨rfl, rfl⟩, fun _ => by simp [stage, RedemptionStage.owed, invitedAgents]⟩
        simp [held] at unlocked
    · cases taken
  | checks id =>
    simp only [redemptionStep] at taken
    split at taken
    · rename_i row stage
      rw [stage] at ok
      obtain ⟨lock, rfl⟩ := ok
      split at taken
      · obtain rfl := Option.some.inj taken
        exact ⟨s.unlocked call.id, _, rfl, .unlocks sound⟩
      · rename_i checked
        obtain rfl := Option.some.inj taken
        obtain ⟨opened, unspent⟩ := checkInvite_ok checked
        refine ⟨s, _, rfl, .stays sound ⟨lock, rfl, unspent, ?_⟩ (Nat.zero_le _)⟩
        rw [← Bool.not_eq_true]
        intro late
        rw [sound.late call member late] at opened
        cases opened
    · cases taken
  | takes id outcome =>
    simp only [redemptionStep] at taken
    split at taken
    · rename_i row stage
      rw [stage] at ok
      obtain ⟨lock, rfl, unspent, early⟩ := ok
      -- no other call holds the lock
      have mine {s₁ : JoinWorld} (id : JoinId) (other : id ≠ call.id) (held : s.lock = some id) :
          s₁.lock = s.lock ∧ s₁.invite = s.invite := (other (Option.some.inj (held.symm.trans lock))).elim
      split at taken
      · obtain rfl := Option.some.inj taken
        exact ⟨s.unlocked call.id, _, rfl, .unlocks sound⟩
      · obtain rfl := Option.some.inj taken
        exact ⟨{ s.unlocked call.id with invite.use_count := s.invite.use_count + 1 }, _, rfl, rfl, ⟨rfl, rfl, rfl⟩, mine,
          ⟨rfl, rfl, rfl⟩, unspent, .inl rfl, early,
          fun _ => by simp [stage, RedemptionStage.owed, invitedAgents, JoinWorld.unlocked]⟩
      · obtain rfl := Option.some.inj taken
        exact ⟨{ s.unlocked call.id with invite.use_count := s.invite.use_count + 1 }, _, rfl, rfl, ⟨rfl, rfl, rfl⟩, mine,
          ⟨rfl, rfl, rfl⟩, unspent, .inl rfl, early,
          fun _ => by simp [stage, RedemptionStage.owed, invitedAgents, JoinWorld.unlocked]; omega⟩
    · cases taken
  | creates caller agent outcome =>
    simp only [redemptionStep] at taken
    split at taken
    · rename_i provision stage
      rw [stage] at ok
      obtain ⟨s₁, created, rfl⟩ := Option.map_eq_some_iff.mp taken
      have early : call.late = false := ok
      have owing : call.stage.owed = 1 := by rw [stage]; rfl
      cases outcome with
      | failed error =>
        rcases createAgent_some created with ⟨rfl, -⟩ | ⟨-, commits, -⟩
        · exact ⟨_, _, rfl, .stays sound early owing.ge⟩
        · cases commits
      | lost error =>
        rcases createAgent_some created with ⟨-, commits⟩ | ⟨rfl, -, fresh⟩
        · cases commits
        · exact ⟨_, _, rfl, .creates sound early rfl rfl fresh owing.ge early⟩
      | done =>
        rcases createAgent_some created with ⟨-, commits⟩ | ⟨rfl, -, fresh⟩
        · cases commits
        · exact ⟨_, _, rfl, .creates sound early rfl rfl fresh owing.ge early⟩
    · cases taken
  | connects caller connection secret outcome =>
    simp only [redemptionStep] at taken
    split at taken
    · rename_i provision agent stage
      rw [stage] at ok
      cases outcome <;> obtain rfl := Option.some.inj taken
      · exact ⟨_, _, rfl, .connects sound ok (Nat.zero_le _)⟩
      · exact ⟨_, _, rfl, .connects sound ok (Nat.zero_le _)⟩
      · exact ⟨_, _, rfl, .connects sound ok (Nat.zero_le _)⟩
    · cases taken
  | handsBack id outcome =>
    simp only [redemptionStep] at taken
    split at taken
    · rename_i agent error stage
      rw [stage] at ok
      split at taken
      · cases taken
      rename_i unlocked
      split at taken
      · rename_i commits
        obtain rfl := Option.some.inj taken
        refine ⟨{ s with invite.use_count := s.invite.use_count - 1 }, _, rfl, rfl, ⟨rfl, rfl, rfl⟩,
          fun other _ held => ?_, ⟨rfl, rfl, rfl⟩, Nat.le_trans (Nat.sub_le _ _) sound.uses, .inl rfl, trivial,
          fun unused => ?_⟩
        · simp [held] at unlocked
        · obtain rfl := unused commits call member (names id outcome rfl) agent error stage
          simp only [stage, RedemptionStage.owed, invitedAgents]
          omega
      · obtain rfl := Option.some.inj taken
        exact ⟨s, _, rfl, .stays sound ok (Nat.zero_le _)⟩
    · cases taken
  | interrupted caller error =>
    simp only [redemptionStep] at taken
    split at taken
    · obtain rfl := Option.some.inj taken
      exact ⟨s.unlocked call.id, _, rfl, .unlocks sound⟩
    · obtain rfl := Option.some.inj taken
      exact ⟨s.unlocked call.id, _, rfl, .unlocks sound⟩
    · obtain rfl := Option.some.inj taken
      exact ⟨s.unlocked call.id, _, rfl, .unlocks sound⟩
    · cases taken
  | tick | revokes | redeems | registers | findsOrg | countsHour | countsDay | records => cases taken

end

namespace InviteSound

theorem redeemed {s₁ : JoinWorld} {call : Redemption} {stage : RedemptionStage} (sound : InviteSound s)
    (present : call ∈ s.redemptions) (moved : RedemptionMoved s s₁ call stage label) :
    InviteSound (s₁.redeemed call stage) := by
  have member {other : Redemption} : other ∈ (s₁.redeemed call stage).redemptions ↔ _ := Table.mem_put
  rw [moved.calls] at member
  obtain ⟨-, -, now⟩ := moved.apart
  obtain ⟨revoked, expires, -⟩ := moved.invite
  have closed (before : s.invite.closed s.now) : s₁.invite.closed s₁.now := by
    simpa [AgentJoinInvite.closed, AgentJoinInvite.expired, revoked, expires, now] using before
  refine ⟨fun other listed => ?_, fun other listed late => ?_, moved.uses, fun agent created id caller => ?_⟩
  · rcases member.mp listed with ⟨old, apart⟩ | ⟨rfl, -⟩
    · exact (sound.calls other old).other (moved.held other.id apart)
    · exact moved.ok
  · rcases member.mp listed with ⟨old, -⟩ | ⟨rfl, -⟩
    · exact closed (sound.late other old late)
    · exact closed (sound.late call present late)
  · have self (early : call.late = false) (same : id = call.id) :
        ∃ other ∈ (s₁.redeemed call stage).redemptions, other.id = id ∧ other.late = false :=
      ⟨_, member.mpr (.inr ⟨rfl, call, present, rfl⟩), same.symm, early⟩
    have old (created : agent ∈ s.agents) :
        ∃ other ∈ (s₁.redeemed call stage).redemptions, other.id = id ∧ other.late = false := by
      obtain ⟨other, listed, same, early⟩ := sound.callers agent created id caller
      by_cases mine : other.id = call.id
      · obtain rfl := Table.eq_of_key listed present mine
        exact self early same.symm
      · exact ⟨other, member.mpr (.inl ⟨listed, mine⟩), same, early⟩
    change agent ∈ s₁.agents at created
    rcases moved.agents with same | ⟨new, grown, by_call, -, -, early⟩
    · exact old (same ▸ created)
    · rw [grown] at created
      rcases List.mem_cons.mp created with rfl | created
      · exact self early (JoinCaller.redemption.inj (caller.symm.trans by_call))
      · exact old created

theorem apart {agents : List JoinedAgent} {registrations : Table Registration.id} {connections : List JoinedConnection}
    {events : List OpenJoinEvent} (sound : InviteSound s)
    (grown : ∀ agent ∈ agents, agent ∈ s.agents ∨ ∃ id, agent.caller = .registration id) :
    InviteSound { s with agents, registrations, connections, events } := by
  refine ⟨fun call present => (sound.calls call present).other fun _ => ⟨rfl, rfl⟩, sound.late, sound.uses,
    fun agent created id caller => ?_⟩
  rcases grown agent created with old | ⟨other, new⟩
  · exact sound.callers agent old id caller
  · cases caller.symm.trans new

end InviteSound

/-! ## The rates of open registrations -/

def Reading.Below (s : JoinWorld) (reading : Reading) (interval : Time) (counted : OpenJoinEvent → Bool) (limit : Nat) : Prop :=
  reading.events ⊆ s.events ∧ reading.time ≤ s.now ∧ reading.since interval counted < limit

def HourOk (d : JoinDeployment) (s : JoinWorld) (call : Registration) (reading : Reading) : Prop :=
  reading.Below s hour (fun event => event.client_fingerprint = call.fingerprint) d.config.maxPerFingerprintPerHour

def CreatedBy (s : JoinWorld) (call : Registration) (orgId : OrgId) (id : AgentId) : Prop :=
  ∃ agent ∈ s.agents, agent.id = id ∧ agent.fingerprint = some call.fingerprint ∧ agent.org_id = orgId ∧
    agent.created_at ≤ s.now

def RegistrationOk (d : JoinDeployment) (s : JoinWorld) (call : Registration) : Prop :=
  match call.stage with
  | .hourCounted _ reading => HourOk d s call reading
  | .provisioning hourReading dayReading provision agent =>
    HourOk d s call hourReading ∧
      dayReading.Below s day (fun event => event.org_id = provision.orgId) d.config.maxPerOrgPerDay ∧
      ∀ id, agent = some id → CreatedBy s call provision.orgId id
  | .recording provision result => CreatedBy s call provision.orgId result.agent_id
  | _ => True

def Tells (event : OpenJoinEvent) (agent : JoinedAgent) : Prop :=
  agent.id = event.agent_id ∧ agent.fingerprint = some event.client_fingerprint ∧ agent.org_id = event.org_id ∧
    agent.created_at ≤ event.created_at

structure OpenSound (d : JoinDeployment) (s : JoinWorld) : Prop where
  calls : ∀ call ∈ s.registrations, RegistrationOk d s call
  events : ∀ event ∈ s.events, ∃ agent ∈ s.agents, Tells event agent
  ids : (s.agents.map JoinedAgent.id).Nodup

theorem RegistrationOk.later {call : Registration} (ok : RegistrationOk d s call) (agents : s.agents ⊆ s'.agents)
    (events : s.events ⊆ s'.events) (now : s.now ≤ s'.now) : RegistrationOk d s' call := by
  have below {reading : Reading} {interval : Time} {counted : OpenJoinEvent → Bool} {limit : Nat}
      (below : reading.Below s interval counted limit) : reading.Below s' interval counted limit :=
    ⟨List.Subset.trans below.1 events, below.2.1.trans now, below.2.2⟩
  have createdBy {orgId : OrgId} {id : AgentId} (created : CreatedBy s call orgId id) : CreatedBy s' call orgId id := by
    obtain ⟨agent, member, same, fingerprint, org, before⟩ := created
    exact ⟨agent, agents member, same, fingerprint, org, before.trans now⟩
  unfold RegistrationOk at *
  split at ok
  · exact below ok
  · exact ⟨below ok.1, below ok.2.1, fun id named => createdBy (ok.2.2 id named)⟩
  · exact createdBy ok
  · trivial

theorem OpenSound.recent_le {reading : Reading} {interval limit : Nat} {p : JoinedAgent → Bool} {counted : OpenJoinEvent → Bool}
    (sound : OpenSound d s) (below : reading.Below s interval counted limit)
    (agree : ∀ agent event, Tells event agent → p agent → counted event)
    (current : ∀ agent ∈ s.agents, p agent → s.now < agent.created_at + interval →
      ∃ event ∈ reading.events, event.agent_id = agent.id) :
    (recent JoinedAgent.created_at p interval s.now s.agents).length < limit := by
  obtain ⟨subset, before, room⟩ := below
  refine Nat.lt_of_le_of_lt (length_le_of_named JoinedAgent.id OpenJoinEvent.agent_id ?_ ?_) room
  · exact sound.ids.sublist (List.filter_sublist.map _)
  · intro agent listed
    simp only [recent, List.mem_filter, Bool.and_eq_true, decide_eq_true_eq] at listed
    obtain ⟨member, counts, young⟩ := listed
    obtain ⟨event, read, same⟩ := current agent member counts young
    obtain ⟨other, present, tells⟩ := sound.events event (subset read)
    obtain rfl := List.inj_on_of_nodup_map sound.ids present member (tells.1.trans same)
    refine ⟨event, ?_, same⟩
    have later := tells.2.2.2
    simp only [List.mem_filter, Bool.and_eq_true, decide_eq_true_eq]
    exact ⟨read, agree other event tells counts,
      before.trans_lt (young.trans_le (Nat.add_le_add_right later interval))⟩

structure RegistrationMoved (d : JoinDeployment) (s s₁ : JoinWorld) (call : Registration) (stage : RegistrationStage)
    (label : JoinLabel) : Prop where
  calls : s₁.registrations = s.registrations
  apart : ∃ agents connections events, s₁ = { s with agents, connections, events }
  agents : s₁.agents = s.agents ∨ ∃ agent, s₁.agents = agent :: s.agents ∧ agent.caller = .registration call.id ∧
    agent.id ∉ s.agents.map JoinedAgent.id
  events : ∀ event ∈ s₁.events, event ∈ s.events ∨ ∃ agent ∈ s₁.agents, Tells event agent
  kept : s.events ⊆ s₁.events
  ok : RegistrationOk d s₁ { call with stage }
  rates : CountsCurrent s label → WithinRates d.config s → WithinRates d.config s₁

section

variable {call : Registration} {stage : RegistrationStage}

theorem RegistrationMoved.stays (ok : RegistrationOk d s { call with stage }) : RegistrationMoved d s s call stage label :=
  ⟨rfl, ⟨_, _, _, rfl⟩, .inl rfl, fun _ listed => .inl listed, List.Subset.refl _, ok, fun _ rates => rates⟩

theorem RegistrationMoved.connects {connection : JoinedConnection} {outcome : Outcome Failure}
    (ok : RegistrationOk d s { call with stage }) :
    RegistrationMoved d s (s.createConnection connection outcome) call stage label := by
  unfold JoinWorld.createConnection
  split
  · exact ⟨rfl, ⟨_, _, _, rfl⟩, .inl rfl, fun _ listed => .inl listed, List.Subset.refl _,
      ok.later (List.Subset.refl _) (List.Subset.refl _) (Nat.le_refl _), fun _ rates => ⟨rates.1, rates.2⟩⟩
  · exact .stays ok

theorem RegistrationMoved.records {result : AgentJoinResult} {orgId : OrgId} {id : Nat}
    (created : CreatedBy s call orgId result.agent_id) (ok : RegistrationOk d s { call with stage }) :
    RegistrationMoved d s { s with events := ⟨id, orgId, result.agent_id, call.fingerprint, s.now⟩ :: s.events } call stage
      label := by
  refine ⟨rfl, ⟨_, _, _, rfl⟩, .inl rfl, fun event listed => ?_, List.subset_cons_self _ _,
    ok.later (List.Subset.refl _) (List.subset_cons_self _ _) (Nat.le_refl _), fun _ rates => ⟨rates.1, rates.2⟩⟩
  rcases List.mem_cons.mp listed with rfl | old
  · exact .inr created
  · exact .inl old

theorem RegistrationMoved.creates {hourReading dayReading : Reading} {provision : Provision} {id : AgentId}
    {outcome : Outcome Failure}
    (sound : OpenSound d s) (member : call ∈ s.registrations)
    (before : call.stage = .provisioning hourReading dayReading provision none) (hourOk : HourOk d s call hourReading)
    (dayOk : dayReading.Below s day (fun event => event.org_id = provision.orgId) d.config.maxPerOrgPerDay)
    (fresh : id ∉ s.agents.map JoinedAgent.id) (commits : outcome.commits = true) :
    let agent : JoinedAgent := ⟨id, provision.orgId, provision.agentInput, provision.operator, .registration call.id,
      some call.fingerprint, s.now⟩
    RegistrationOk d { s with agents := agent :: s.agents } { call with stage } →
    RegistrationMoved d s { s with agents := agent :: s.agents } call stage (.creates (.registration call.id) id outcome) := by
  intro agent ok
  refine ⟨rfl, ⟨_, _, _, rfl⟩, .inr ⟨agent, rfl, rfl, fresh⟩, fun _ listed => .inl listed, List.Subset.refl _, ok,
    fun current rates => ?_⟩
  obtain ⟨ofClient, ofOrg⟩ := current commits call member rfl hourReading dayReading provision none before
  constructor
  · intro fingerprint start
    refine inWindow_cons (rates.fingerprints fingerprint) (fun counted => ?_) start
    obtain rfl : call.fingerprint = fingerprint := by simpa [agent] using counted
    refine sound.recent_le hourOk (fun other event tells counts => ?_) fun other present counts young => ?_
    · have same := tells.2.1.symm.trans (of_decide_eq_true counts)
      simpa using same
    · exact ofClient other present (of_decide_eq_true counts) young
  · intro orgId start
    refine inWindow_cons (rates.orgs orgId) (fun counted => ?_) start
    obtain rfl : provision.orgId = orgId := by simpa [agent] using counted
    refine sound.recent_le dayOk (fun other event tells counts => ?_) fun other present counts young => ?_
    · have same : other.org_id = provision.orgId := by simpa using (Bool.and_eq_true_iff.mp counts).2
      simpa [tells.2.2.1] using same
    · simp only [Bool.and_eq_true, decide_eq_true_eq] at counts
      exact ofOrg other present counts.1 counts.2 young

theorem registrationStep_moved (sound : OpenSound d s) (member : call ∈ s.registrations)
    (names : ∀ caller agent outcome, label = .creates caller agent outcome → caller = .registration call.id)
    (taken : registrationStep d s call label = some s') :
    ∃ s₁ stage, s' = s₁.registered call stage ∧ RegistrationMoved d s s₁ call stage label := by
  have ok := sound.calls call member
  unfold RegistrationOk at ok
  cases label with
  | findsOrg id found =>
    simp only [registrationStep] at taken
    split at taken
    · split at taken
      · obtain rfl := Option.some.inj taken
        refine ⟨s, _, rfl, .stays ?_⟩
        unfold RegistrationOk
        cases found <;> trivial
      · obtain rfl := Option.some.inj taken
        exact ⟨s, _, rfl, .stays trivial⟩
    · cases taken
  | countsHour id =>
    simp only [registrationStep] at taken
    split at taken
    · split at taken
      · obtain rfl := Option.some.inj taken
        exact ⟨s, _, rfl, .stays trivial⟩
      · rename_i room
        obtain rfl := Option.some.inj taken
        exact ⟨s, _, rfl, .stays ⟨List.Subset.refl _, Nat.le_refl _, Nat.lt_of_not_le room⟩⟩
    · cases taken
  | countsDay id =>
    simp only [registrationStep] at taken
    split at taken
    · rename_i orgId hourReading stage
      rw [stage] at ok
      split at taken
      · obtain rfl := Option.some.inj taken
        exact ⟨s, _, rfl, .stays trivial⟩
      · rename_i room
        obtain rfl := Option.some.inj taken
        exact ⟨s, _, rfl, .stays ⟨ok, ⟨List.Subset.refl _, Nat.le_refl _, Nat.lt_of_not_le room⟩, by rintro _ ⟨⟩⟩⟩
    · cases taken
  | creates caller id outcome =>
    simp only [registrationStep] at taken
    split at taken
    · rename_i hourReading dayReading provision stage
      rw [stage] at ok
      obtain rfl := names caller id outcome rfl
      obtain ⟨s₁, created, rfl⟩ := Option.map_eq_some_iff.mp taken
      cases outcome with
      | failed error =>
        rcases createAgent_some created with ⟨rfl, -⟩ | ⟨-, commits, -⟩
        · exact ⟨_, _, rfl, .stays trivial⟩
        · cases commits
      | lost error =>
        rcases createAgent_some created with ⟨-, commits⟩ | ⟨rfl, commits, fresh⟩
        · cases commits
        · exact ⟨_, _, rfl, .creates sound member stage ok.1 ok.2.1 fresh commits trivial⟩
      | done =>
        rcases createAgent_some created with ⟨-, commits⟩ | ⟨rfl, commits, fresh⟩
        · cases commits
        · refine ⟨_, _, rfl, .creates sound member stage ok.1 ok.2.1 fresh commits ⟨ok.1, ok.2.1, ?_⟩⟩
          rintro _ ⟨⟩
          exact ⟨_, List.mem_cons_self, rfl, rfl, rfl, Nat.le_refl _⟩
    · cases taken
  | connects caller connection secret outcome =>
    simp only [registrationStep] at taken
    split at taken
    · rename_i hourReading dayReading provision agent stage
      rw [stage] at ok
      split at taken
      · obtain rfl := Option.some.inj taken
        exact ⟨_, _, rfl, .connects trivial⟩
      · obtain rfl := Option.some.inj taken
        exact ⟨_, _, rfl, .connects (ok.2.2 agent rfl)⟩
    · cases taken
  | records id event outcome =>
    simp only [registrationStep] at taken
    split at taken
    · rename_i provision result stage
      rw [stage] at ok
      cases outcome <;> obtain rfl := Option.some.inj taken
      · exact ⟨_, _, rfl, .records ok trivial⟩
      · exact ⟨_, _, rfl, .stays trivial⟩
      · exact ⟨_, _, rfl, .records ok trivial⟩
    · cases taken
  | interrupted caller error =>
    simp only [registrationStep] at taken
    split at taken
    · obtain rfl := Option.some.inj taken
      exact ⟨s, _, rfl, .stays trivial⟩
    · obtain rfl := Option.some.inj taken
      exact ⟨s, _, rfl, .stays trivial⟩
    · obtain rfl := Option.some.inj taken
      exact ⟨s, _, rfl, .stays trivial⟩
    · cases taken
  | tick | revokes | redeems | registers | selects | checks | takes | handsBack => cases taken

end

namespace OpenSound

theorem registered {s₁ : JoinWorld} {call : Registration} {stage : RegistrationStage} (sound : OpenSound d s)
    (moved : RegistrationMoved d s s₁ call stage label) : OpenSound d (s₁.registered call stage) := by
  obtain ⟨calls, ⟨agents', connections', events', rfl⟩, agents, events, kept, ok, -⟩ := moved
  have more : s.agents ⊆ agents' := by
    change agents' = s.agents ∨ ∃ agent, agents' = agent :: s.agents ∧ _ at agents
    rcases agents with same | ⟨agent, grown, -⟩
    · exact same ▸ List.Subset.refl _
    · exact grown ▸ List.subset_cons_self _ _
  refine ⟨fun other listed => ?_, fun event listed => ?_, ?_⟩
  · rcases Table.mem_put.mp listed with ⟨old, -⟩ | ⟨rfl, -⟩
    · exact (sound.calls other old).later more kept (Nat.le_refl _)
    · exact ok
  · rcases events event listed with old | told
    · obtain ⟨agent, member, tells⟩ := sound.events event old
      exact ⟨agent, more member, tells⟩
    · exact told
  · rcases agents with same | ⟨agent, grown, -, fresh⟩
    · exact same ▸ sound.ids
    · change (agents'.map JoinedAgent.id).Nodup
      change agents' = agent :: s.agents at grown
      rw [grown]
      exact List.nodup_cons.mpr ⟨fresh, sound.ids⟩

theorem apart (sound : OpenSound d s) (registrations : s'.registrations = s.registrations) (events : s'.events = s.events)
    (now : s.now ≤ s'.now)
    (agents : s'.agents = s.agents ∨ ∃ agent, s'.agents = agent :: s.agents ∧ agent.id ∉ s.agents.map JoinedAgent.id) :
    OpenSound d s' := by
  have more : s.agents ⊆ s'.agents := by
    rcases agents with same | ⟨agent, grown, -⟩
    · exact same ▸ List.Subset.refl _
    · exact grown ▸ List.subset_cons_self _ _
  refine ⟨fun call present => ?_, fun event listed => ?_, ?_⟩
  · rw [registrations] at present
    exact (sound.calls call present).later more (by rw [events]; exact List.Subset.refl _) now
  · rw [events] at listed
    obtain ⟨agent, member, tells⟩ := sound.events event listed
    exact ⟨agent, more member, tells⟩
  · rcases agents with same | ⟨agent, grown, fresh⟩
    · exact same ▸ sound.ids
    · rw [grown]
      exact List.nodup_cons.mpr ⟨fresh, sound.ids⟩

end OpenSound

theorem WithinRates.invited {config : OpenJoinConfig} {agent : JoinedAgent} (rates : WithinRates config s)
    (agents : s'.agents = agent :: s.agents) (unregistered : agent.fingerprint = none) : WithinRates config s' := by
  refine ⟨fun fingerprint start => ?_, fun orgId start => ?_⟩
  · rw [agents]
    exact inWindow_cons (rates.fingerprints fingerprint) (fun counted => by simp [unregistered] at counted) start
  · rw [agents]
    exact inWindow_cons (rates.orgs orgId) (fun counted => by simp [unregistered] at counted) start

/-! ## Runs -/

def InviteSpent (s : JoinWorld) : Prop :=
  invitedAgents s + s.redemptions.sum (fun call => call.stage.owed) ≤ s.invite.use_count

structure JoinSound (d : JoinDeployment) (s : JoinWorld) : Prop where
  invite : InviteSound s
  registrations : OpenSound d s

structure Limited (d : JoinDeployment) (s s' : JoinWorld) (label : JoinLabel) : Prop where
  sound : JoinSound d s'
  max_uses : s'.invite.max_uses = s.invite.max_uses
  spent : HandsBackUnused s label → InviteSpent s → InviteSpent s'
  rates : CountsCurrent s label → WithinRates d.config s → WithinRates d.config s'

namespace JoinSound

theorem redemption {call : Redemption} (sound : JoinSound d s) (found : s.redemptions.find? call.id = some call)
    (names : ∀ id outcome, label = .handsBack id outcome → call.id = id)
    (taken : redemptionStep d s call label = some s') : Limited d s s' label := by
  have present := Table.mem_of_find? found
  obtain ⟨s₁, stage, rfl, moved⟩ := redemptionStep_moved sound.invite present names taken
  obtain ⟨registrations, events, now⟩ := moved.apart
  refine ⟨⟨sound.invite.redeemed present moved, sound.registrations.apart registrations events now.ge ?_⟩,
    moved.invite.2.2, fun unused spent => ?_, fun _ rates => ?_⟩
  · exact moved.agents.imp_right fun ⟨agent, grown, _, _, fresh, _⟩ => ⟨agent, grown, fresh⟩
  · have total : (s.redemptions.put { call with stage }).sum (fun call => call.stage.owed) + call.stage.owed =
        s.redemptions.sum (fun call => call.stage.owed) + stage.owed := Table.sum_put _ found
    have counts := moved.spent unused
    unfold InviteSpent at spent
    change invitedAgents s₁ + (s₁.redemptions.put { call with stage }).sum (fun call => call.stage.owed) ≤ s₁.invite.use_count
    rw [moved.calls]
    omega
  · rcases moved.agents with same | ⟨agent, grown, -, unregistered, -⟩
    · exact ⟨by simpa [JoinWorld.redeemed, same] using rates.1, by simpa [JoinWorld.redeemed, same] using rates.2⟩
    · exact rates.invited grown unregistered

theorem registration {call : Registration} (sound : JoinSound d s) (present : call ∈ s.registrations)
    (names : ∀ caller agent outcome, label = .creates caller agent outcome → caller = .registration call.id)
    (taken : registrationStep d s call label = some s') : Limited d s s' label := by
  obtain ⟨s₁, stage, rfl, moved⟩ := registrationStep_moved sound.registrations present names taken
  have opened := sound.registrations.registered moved
  obtain ⟨agents, connections, events, rfl⟩ := moved.apart
  have created : agents = s.agents ∨ ∃ agent, agents = agent :: s.agents ∧ agent.caller = .registration call.id ∧
      agent.id ∉ s.agents.map JoinedAgent.id := moved.agents
  refine ⟨⟨sound.invite.apart fun agent member => ?_, opened⟩, rfl, fun _ spent => ?_, fun current rates => ?_⟩
  · rcases created with same | ⟨new, grown, caller, -⟩
    · exact .inl (same ▸ member)
    · rw [grown] at member
      rcases List.mem_cons.mp member with rfl | old
      · exact .inr ⟨call.id, caller⟩
      · exact .inl old
  · have same : (agents.filter JoinedAgent.invited).length = invitedAgents s := by
      rcases created with same | ⟨new, grown, caller, -⟩
      · rw [same, invitedAgents]
      · simp [grown, invitedAgents, JoinedAgent.invited, caller]
    unfold InviteSpent at spent ⊢
    rw [invitedAgents]
    exact same.symm ▸ spent
  · have held := moved.rates current rates
    exact ⟨held.1, held.2⟩

theorem begins {call : Redemption} {redemptions : Table Redemption.id} (sound : JoinSound d s)
    (inserted : s.redemptions.insert? call = some redemptions)
    (first : call.stage = .begun ∨ call.stage = .failed inviteInvalid) (invite : call.begunOn = s.invite)
    (now : call.begunAt = s.now) :
    Limited d s { s with redemptions } label := by
  have member {other : Redemption} : other ∈ redemptions ↔ _ := Table.mem_insert? inserted
  refine ⟨⟨⟨fun other present => ?_, fun other present late => ?_, sound.invite.uses, fun agent created id caller => ?_⟩,
    sound.registrations.apart rfl rfl (Nat.le_refl _) (.inl rfl)⟩, rfl, fun _ spent => ?_,
    fun _ rates => ⟨rates.1, rates.2⟩⟩
  · rcases member.mp present with rfl | old
    · unfold RedemptionOk
      rcases first with first | first <;> rw [first] <;> trivial
    · exact (sound.invite.calls other old).other fun _ => ⟨rfl, rfl⟩
  · rcases member.mp present with rfl | old
    · rwa [Redemption.late, invite, now] at late
    · exact sound.invite.late other old late
  · obtain ⟨other, present, same, early⟩ := sound.invite.callers agent created id caller
    exact ⟨other, member.mpr (.inr present), same, early⟩
  · have total := Table.sum_insert? (fun call : Redemption => call.stage.owed) inserted
    have none : call.stage.owed = 0 := by rcases first with first | first <;> rw [first] <;> rfl
    unfold InviteSpent at spent ⊢
    rw [none, Nat.zero_add] at total
    exact total ▸ spent

theorem registers {call : Registration} {registrations : Table Registration.id} (sound : JoinSound d s)
    (inserted : s.registrations.insert? call = some registrations) (begun : call.stage = .begun) :
    Limited d s { s with registrations } label := by
  refine ⟨⟨sound.invite.apart fun _ => .inl, ⟨fun other present => ?_, sound.registrations.events, sound.registrations.ids⟩⟩,
    rfl, fun _ spent => spent, fun _ rates => ⟨rates.1, rates.2⟩⟩
  rcases (Table.mem_insert? inserted).mp present with rfl | old
  · unfold RegistrationOk
    rw [begun]
    trivial
  · exact (sound.registrations.calls other old).later (List.Subset.refl _) (List.Subset.refl _) (Nat.le_refl _)

theorem step (sound : JoinSound d s) (taken : joinStep d s label = some s') : Limited d s s' label := by
  cases label with
  | tick passed =>
    obtain rfl := Option.some.inj taken
    have later : s.now ≤ s.now + passed := Nat.le_add_right _ _
    refine ⟨⟨⟨fun call present => (sound.invite.calls call present).other fun _ => ⟨rfl, rfl⟩,
      fun call present late => closed_later (sound.invite.late call present late) later, sound.invite.uses,
      sound.invite.callers⟩, sound.registrations.apart rfl rfl later (.inl rfl)⟩, rfl, fun _ spent => spent,
      fun _ rates => ⟨rates.1, rates.2⟩⟩
  | revokes orgId inviteId =>
    simp only [joinStep] at taken
    split at taken
    · cases taken
    rename_i unlocked
    obtain rfl := Option.some.inj taken
    unfold revokeAgentJoinInvite
    split
    · have free (id : JoinId) : s.lock ≠ some id := fun held => by simp [held] at unlocked
      refine ⟨⟨⟨fun call present => (sound.invite.calls call present).other fun held => (free _ held).elim,
        fun call present late => ?_, sound.invite.uses, sound.invite.callers⟩,
        sound.registrations.apart rfl rfl (Nat.le_refl _) (.inl rfl)⟩, rfl, fun _ spent => spent,
        fun _ rates => ⟨rates.1, rates.2⟩⟩
      simp [AgentJoinInvite.closed]
    · exact ⟨sound, rfl, fun _ spent => spent, fun _ rates => rates⟩
  | redeems id token agent_name =>
    rw [joinStep] at taken
    have first := firstStage_cases token
    generalize firstStage token = stage at first taken
    obtain ⟨redemptions, inserted, rfl⟩ := Option.map_eq_some_iff.mp taken
    exact sound.begins inserted first rfl rfl
  | registers id agent_name client_fingerprint =>
    rw [joinStep] at taken
    obtain ⟨registrations, inserted, rfl⟩ := Option.map_eq_some_iff.mp taken
    exact sound.registers inserted rfl
  | selects id | checks id | takes id outcome =>
    obtain ⟨call, found, taken⟩ := Option.bind_eq_some_iff.mp taken
    obtain rfl := Table.key_of_find? found
    exact sound.redemption found (by rintro _ _ ⟨⟩) taken
  | handsBack id outcome =>
    obtain ⟨call, found, taken⟩ := Option.bind_eq_some_iff.mp taken
    obtain rfl := Table.key_of_find? found
    exact sound.redemption found (by rintro _ _ ⟨⟩; rfl) taken
  | findsOrg id found | countsHour id | countsDay id | records id event outcome =>
    obtain ⟨call, found, taken⟩ := Option.bind_eq_some_iff.mp taken
    exact sound.registration (Table.mem_of_find? found) (by rintro _ _ _ ⟨⟩) taken
  | creates caller agent outcome =>
    cases caller with
    | redemption id =>
      obtain ⟨call, found, taken⟩ := Option.bind_eq_some_iff.mp taken
      obtain rfl := Table.key_of_find? found
      exact sound.redemption found (by rintro _ _ ⟨⟩) taken
    | registration id =>
      obtain ⟨call, found, taken⟩ := Option.bind_eq_some_iff.mp taken
      obtain rfl := Table.key_of_find? found
      exact sound.registration (Table.mem_of_find? found) (by rintro _ _ _ ⟨⟩; rfl) taken
  | connects caller _ _ _ | interrupted caller _ =>
    cases caller with
    | redemption id =>
      obtain ⟨call, found, taken⟩ := Option.bind_eq_some_iff.mp taken
      obtain rfl := Table.key_of_find? found
      exact sound.redemption found (by rintro _ _ ⟨⟩) taken
    | registration id =>
      obtain ⟨call, found, taken⟩ := Option.bind_eq_some_iff.mp taken
      exact sound.registration (Table.mem_of_find? found) (by rintro _ _ _ ⟨⟩) taken

end JoinSound

/-- No redemption that began after the revocation or the expiry creates an agent. The uses are kept to where no use of a
created agent is handed back, the rates where the counts are current. -/
theorem joins_limited {now : Time} {row : AgentJoinInvite} {events : List (JoinWorld × JoinLabel)}
    (run : Run (joinStep d) (.initial now row) events s) :
    NoneLate s ∧ (Conforms HandsBackUnused events → invitedAgents s ≤ row.max_uses) ∧
      (Conforms CountsCurrent events → WithinRates d.config s) := by
  have initial : JoinSound d (.initial now row) := by
    constructor <;> constructor <;> simp [JoinWorld.initial]
  have sound := run.always (JoinSound d) initial fun _ _ _ sound taken => (sound.step taken).sound
  refine ⟨sound.invite.noneLate, fun unused => ?_, fun current => ?_⟩
  · have spent : JoinSound d s ∧ InviteSpent s ∧ s.invite.max_uses = row.max_uses := by
      refine run.invariant (fun s => JoinSound d s ∧ InviteSpent s ∧ s.invite.max_uses = row.max_uses) unused
        ⟨initial, by simp [InviteSpent, invitedAgents, JoinWorld.initial], rfl⟩ fun _ _ _ held unused taken => ?_
      have limited := held.1.step taken
      exact ⟨limited.sound, limited.spent unused held.2.1, limited.max_uses.trans held.2.2⟩
    exact spent.2.2 ▸ (Nat.le_add_right _ _).trans (spent.2.1.trans sound.invite.uses)
  · exact (run.invariant (fun s => JoinSound d s ∧ WithinRates d.config s) current ⟨initial, by
      constructor <;> simp [JoinWorld.initial, inWindow]⟩ fun _ _ _ held current taken =>
        have limited := held.1.step taken
        ⟨limited.sound, limited.rates current held.2⟩).2

section Example

def joinDeployment : JoinDeployment where
  hashToken := id
  defaultMcpUrl := "http://127.0.0.1:8070/mcp"
  config := ⟨true, some 1, 1, 1⟩

def oneUse : AgentJoinInvite := ⟨1, 1, none, "ajoin_0123456789abcdef", 1, 0, none, none⟩

def redeem (id : JoinId) : List JoinLabel :=
  [.redeems id "ajoin_0123456789abcdef" none, .selects id, .checks id, .takes id .done, .creates (.redemption id) id .done]

def count (id : JoinId) (client_fingerprint : Option String) : List JoinLabel :=
  [.registers id none client_fingerprint, .findsOrg id true, .countsHour id, .countsDay id]

def usedTwice : List JoinLabel :=
  redeem 1 ++ [.connects (.redemption 1) 1 "secret" (.failed (.thrown "terminated")), .handsBack 1 .done] ++ redeem 2

def countedTwice (first second : Option String) : List JoinLabel :=
  count 1 first ++ count 2 second ++ [.creates (.registration 1) 1 .done, .creates (.registration 2) 2 .done]

theorem joins_exceed :
    (∃ events s, Run (joinStep joinDeployment) (.initial 0 oneUse) events s ∧ ¬invitedAgents s ≤ oneUse.max_uses) ∧
    (∃ events s, Run (joinStep joinDeployment) (.initial 0 oneUse) events s ∧
      ¬∀ fingerprint start, (inWindow JoinedAgent.created_at (fun agent => agent.fingerprint = some fingerprint) hour start
        s.agents).length ≤ joinDeployment.config.maxPerFingerprintPerHour) ∧
    ∃ events s, Run (joinStep joinDeployment) (.initial 0 oneUse) events s ∧
      ¬∀ orgId start, (inWindow JoinedAgent.created_at (fun agent => agent.fingerprint.isSome && agent.org_id = orgId) day
        start s.agents).length ≤ joinDeployment.config.maxPerOrgPerDay := by
  refine ⟨exists_run usedTwice _ (by decide +kernel), ?_, ?_⟩
  · obtain ⟨events, s, run, two⟩ : ∃ events s, Run (joinStep joinDeployment) (.initial 0 oneUse) events s ∧
        (inWindow JoinedAgent.created_at (fun agent => agent.fingerprint = some "anonymous") hour 0 s.agents).length = 2 :=
      exists_run (countedTwice none none) _ (by decide +kernel)
    exact ⟨events, s, run, fun bounded => absurd (two ▸ bounded "anonymous" 0) (by decide)⟩
  · obtain ⟨events, s, run, two⟩ : ∃ events s, Run (joinStep joinDeployment) (.initial 0 oneUse) events s ∧
        (inWindow JoinedAgent.created_at (fun agent => agent.fingerprint.isSome && agent.org_id = 1) day 0 s.agents).length
          = 2 :=
      exists_run (countedTwice (some "a") (some "b")) _ (by decide +kernel)
    exact ⟨events, s, run, fun bounded => absurd (two ▸ bounded 1 0) (by decide)⟩

def joinsWithin : List JoinLabel :=
  redeem 1 ++ [.connects (.redemption 1) 1 "secret" .done] ++ count 2 none ++
    [.creates (.registration 2) 2 .done, .connects (.registration 2) 2 "secret" .done, .records 2 1 .done]

def joinsAlone (s : JoinWorld) : JoinLabel → Bool
  | .handsBack _ _ => false
  | .creates (.registration _) _ _ => s.agents.all fun agent => agent.fingerprint.isNone
  | _ => true

theorem joins_limited_once : ∃ events s, Run (joinStep joinDeployment) (.initial 0 oneUse) events s ∧ s.agents.length = 2 ∧
    NoneLate s ∧ invitedAgents s ≤ oneUse.max_uses ∧ WithinRates joinDeployment.config s := by
  obtain ⟨events, s, run, conforms, two⟩ : ∃ events s, Run (joinStep joinDeployment) (.initial 0 oneUse) events s ∧
      Conforms (fun s label => HandsBackUnused s label ∧ CountsCurrent s label) events ∧ s.agents.length = 2 := by
    refine exists_conforming_run joinsWithin joinsAlone _ (fun s label alone => ?_) (by decide +kernel)
    cases label with
    | handsBack => cases alone
    | creates caller agent outcome =>
      cases caller with
      | redemption => exact ⟨trivial, trivial⟩
      | registration id =>
        simp only [joinsAlone, List.all_eq_true, Option.isNone_iff_eq_none] at alone
        refine ⟨trivial, fun _ call _ _ _ _ _ _ _ => ⟨fun recent member same => ?_, fun recent member registered => ?_⟩⟩
        · rw [alone recent member] at same
          cases same
        · rw [alone recent member] at registered
          cases registered
    | _ => exact ⟨trivial, trivial⟩
  obtain ⟨early, used, rates⟩ := joins_limited run
  exact ⟨events, s, run, two, early, used (conforms.mono fun _ _ held => held.1), rates (conforms.mono fun _ _ held => held.2)⟩

end Example

end AgentOps.AgentJoin
