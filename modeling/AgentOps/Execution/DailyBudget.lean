import AgentOps.Execution.Settlement
import AgentOps.Execution.Service

namespace AgentOps.Execution
open Lib

/-! # The daily budget under concurrent saves -/

def completed (db : ExecutionDb) (actionId : Guid) : Prop :=
  ∃ action, db.executionActions.find? actionId = some action ∧ action.status = .completed

instance (db : ExecutionDb) (actionId : Guid) : Decidable (completed db actionId) :=
  match found : db.executionActions.find? actionId with
  | none => isFalse fun ⟨_, found', _⟩ => by rw [found] at found'; cases found'
  | some action => decidable_of_iff (action.status = .completed)
      ⟨fun done => ⟨action, found, done⟩, fun ⟨_, found', done⟩ => Option.some.inj (found.symm.trans found') ▸ done⟩

def Service.settledOn (s : Service) (agentId : Guid) (day : UtcDate) : Int :=
  ((s.charges.rows.filter fun charge => charge.agentId = agentId ∧ charge.day = day ∧ completed s.db charge.actionId).map
    (·.amountUsd)).sum

def Service.chargedOn (s : Service) (agentId : Guid) (day : UtcDate) : Int :=
  ((s.charges.rows.filter fun charge => charge.agentId = agentId ∧ charge.day = day).map (·.amountUsd)).sum

def Service.AsLoaded (s : Service) (agent : Tracked AgentIdentity) : Prop :=
  agent.current ≠ agent.original → s.db.agentIdentities.find? agent.original.id = some agent.original

/-- Midnight between the two methods does not let through what the day before allowed. -/
def MidnightSafe (loaded : LoadedSession) (agent : AgentIdentity) (clock : ReconcileClock) : Prop :=
  clock.recorded.compared > (agent.resetDailyBudgetIfExpired clock.checked).budgetResetDateUtc →
    loaded.action.estimatedSpendUsd ≤ agent.dailyBudgetCapUsd

def RequestCall.agent (call : RequestCall) : Option (Tracked AgentIdentity) :=
  match call.phase with
  | .inserted => none
  | .evaluated _ agent | .enqueued _ agent => agent

/-- No save comes upon a row that another save has changed since it was loaded: the agent's, if it writes it, or that of
an action that is settled or no longer executes. -/
def Undivided (s : Service) : ServiceLabel → Prop
  | .save workerId => ∀ worker message loaded agent clock, s.workers.find? workerId = some worker →
      worker.phase = .reconciling message (.settling loaded agent clock) →
      s.AsLoaded (settle loaded agent clock).agent ∧
        (∃ action, s.db.executionActions.find? loaded.action.id = some action ∧ action.status = .executing) ∧
        ((settle loaded agent clock).outcome = .settled → MidnightSafe loaded agent clock)
  | .saveRequest callId _ _ _ => ∀ call, s.requests.find? callId = some call →
      (∀ agent, call.agent = some agent → s.AsLoaded agent) ∧ ¬completed s.db call.action.id
  | .saveDecision callId => ∀ call work sent action, s.decisions.find? callId = some call →
      call.phase = .saving work sent → work.action = some action → ¬completed s.db action.original.id
  | _ => True

structure AgentIdentity.Books (charged : UtcDate → Int) (agent : AgentIdentity) : Prop where
  spent : agent.spentTodayUsd = charged agent.budgetResetDateUtc
  later : ∀ day > agent.budgetResetDateUtc, charged day = 0

theorem AgentIdentity.Books.reset {charged : UtcDate → Int} {agent : AgentIdentity} (books : agent.Books charged)
    (clock : ClockReadings) : (agent.resetDailyBudgetIfExpired clock).Books charged := by
  rcases agent.reset_cases clock with same | ⟨later, cleared⟩
  · rw [same]
    exact books
  · exact ⟨by rw [cleared, books.later _ later], fun day after => books.later day (later.trans after)⟩

theorem AgentIdentity.Books.recordSpend {charged charged' : UtcDate → Int} {agent : AgentIdentity}
    (books : agent.Books charged) (clock : ClockReadings) (amountUsd : Int)
    (added : ∀ day, charged' day =
      charged day + if (agent.recordSpend clock amountUsd).budgetResetDateUtc = day then amountUsd else 0) :
    (agent.recordSpend clock amountUsd).Books charged' := by
  have reset := books.reset clock
  refine ⟨?_, fun day after => ?_⟩
  · rw [added, if_pos rfl]
    have before := reset.spent
    simp only [AgentIdentity.recordSpend] at before ⊢
    rw [before]
  · rw [added, if_neg (Nat.ne_of_lt after), reset.later day after, Int.add_zero]

theorem settled_within {charged charged' : UtcDate → Int} {loaded : LoadedSession} {agent : AgentIdentity}
    {clock : ReconcileClock} (books : agent.Books charged) (within : ∀ day, charged day ≤ agent.dailyBudgetCapUsd)
    (allowed : (agent.canSpend clock.checked loaded.action.estimatedSpendUsd).2 = true)
    (safe : MidnightSafe loaded agent clock)
    (added : ∀ day, charged' day = charged day +
      if (((agent.canSpend clock.checked loaded.action.estimatedSpendUsd).1).recordSpend clock.recorded
        loaded.action.estimatedSpendUsd).budgetResetDateUtc = day then loaded.action.estimatedSpendUsd else 0)
    (day : UtcDate) : charged' day ≤ agent.dailyBudgetCapUsd := by
  rw [added]
  split
  · rename_i here
    subst here
    have checked := books.reset clock.checked
    have reset := checked.reset clock.recorded
    have room : (agent.resetDailyBudgetIfExpired clock.checked).spentTodayUsd + loaded.action.estimatedSpendUsd ≤
        agent.dailyBudgetCapUsd := by
      simp only [AgentIdentity.canSpend, AgentIdentity.resetDailyBudgetIfExpired_cap, Bool.and_eq_true,
        decide_eq_true_eq] at allowed
      exact allowed.1
    simp only [AgentIdentity.recordSpend, AgentIdentity.canSpend]
    rw [← reset.spent]
    by_cases turned : clock.recorded.compared > (agent.resetDailyBudgetIfExpired clock.checked).budgetResetDateUtc
    · have cleared : ((agent.resetDailyBudgetIfExpired clock.checked).resetDailyBudgetIfExpired
          clock.recorded).spentTodayUsd = 0 := by
        rw [AgentIdentity.resetDailyBudgetIfExpired, if_pos turned]
      rw [cleared, Int.zero_add]
      exact safe turned
    · rw [AgentIdentity.resetDailyBudgetIfExpired, if_neg turned]
      exact room
  · rw [Int.add_zero]
    exact within day

structure Service.Balanced (s : Service) : Prop where
  charged : ∀ charge ∈ s.charges, completed s.db charge.actionId
  books : ∀ agent ∈ s.db.agentIdentities, agent.Books (s.chargedOn agent.id) ∧
    ∀ day, s.chargedOn agent.id day ≤ agent.dailyBudgetCapUsd

structure Service.Loaded (s : Service) : Prop where
  requests : ∀ call ∈ s.requests, ∀ agent, call.agent = some agent →
    ∃ clock, agent.current = agent.original.resetDailyBudgetIfExpired clock
  workers : ∀ worker ∈ s.workers, ∀ message phase loaded, worker.phase = .reconciling message phase →
    phase.loaded = some loaded → loaded.action.status = .executing

theorem Service.Balanced.settledOn_eq {s : Service} (balanced : s.Balanced) (agentId : Guid) (day : UtcDate) :
    s.settledOn agentId day = s.chargedOn agentId day := by
  unfold settledOn chargedOn
  congr 2
  refine List.filter_congr fun charge member => ?_
  simp [balanced.charged charge member]

section Step

variable {s s' : Service}

theorem Service.Loaded.congr (loaded : s.Loaded) (requests : ∀ call ∈ s'.requests, call ∈ s.requests)
    (workers : ∀ worker ∈ s'.workers, worker ∈ s.workers) : s'.Loaded :=
  ⟨fun call member => loaded.requests call (requests call member),
    fun worker member => loaded.workers worker (workers worker member)⟩

theorem Service.Loaded.updateWorker (loaded : s.Loaded) {worker : Worker}
    (sound : ∀ message phase session, worker.phase = .reconciling message phase → phase.loaded = some session →
      session.action.status = .executing) : (s.updateWorker worker).Loaded where
  requests := loaded.requests
  workers := by
    intro other member
    rcases Table.mem_put.mp member with ⟨kept, -⟩ | ⟨rfl, -⟩
    · exact loaded.workers other kept
    · exact sound

theorem Service.Loaded.updateRequest (loaded : s.Loaded) {call : RequestCall}
    (sound : ∀ agent, call.agent = some agent → ∃ clock, agent.current = agent.original.resetDailyBudgetIfExpired clock) :
    (s.updateRequest call).Loaded where
  requests := by
    intro other member
    rcases Table.mem_put.mp member with ⟨kept, -⟩ | ⟨rfl, -⟩
    · exact loaded.requests other kept
    · exact sound
  workers := loaded.workers

theorem Service.Loaded.endWorker (loaded : s.Loaded) (workerId : Nat) : (s.endWorker workerId).Loaded :=
  loaded.congr (fun _ member => member) fun _ member => (Table.mem_remove.mp member).1

theorem Service.Loaded.endRequest (loaded : s.Loaded) (callId : Nat) : (s.endRequest callId).Loaded :=
  loaded.congr (fun _ member => (Table.mem_remove.mp member).1) fun _ member => member

theorem Service.Loaded.enqueue {entryId : Nat} {message : ExecutionDispatchMessage} (loaded : s.Loaded)
    (taken : s.enqueue entryId message = some s') : s'.Loaded := by
  obtain ⟨queue, -, rfl⟩ := Service.enqueue_some taken
  exact ⟨loaded.requests, loaded.workers⟩

theorem Service.Loaded.step {label : ServiceLabel} (loaded : s.Loaded) (taken : s.step label = some s') : s'.Loaded := by
  cases label with
  | request callId dto sessionId actionId =>
    obtain ⟨agent, sessions, actions, requests, -, -, -, inserted, rfl⟩ := Service.request_some taken
    refine ⟨fun call member => ?_, loaded.workers⟩
    rcases (Table.mem_insert? inserted).mp member with rfl | member
    · rintro agent ⟨⟩
    · exact loaded.requests call member
  | evaluate callId verdict budgetCheck =>
    obtain ⟨call, -, -, rfl⟩ := Service.evaluate_some taken
    refine loaded.updateRequest fun agent checked => ?_
    simp only [RequestCall.agent, Service.budgetChecked, Option.bind_eq_bind, Option.bind_eq_some_iff,
      Option.some.injEq] at checked
    obtain ⟨stored, -, clock, -, rfl⟩ := checked
    exact ⟨clock, rfl⟩
  | enqueueRequest callId entryId =>
    obtain ⟨call, verdict, agent, found, phase, sent⟩ := Service.enqueueRequest_some taken
    refine Service.Loaded.enqueue (loaded.updateRequest fun tracked same => ?_) sent
    exact loaded.requests call (Table.mem_of_find? found) tracked (by rw [RequestCall.agent, phase]; exact same)
  | saveRequest callId now workflowId expiresAtUtc =>
    obtain ⟨call, -, ⟨-, -, db, -, -, rfl⟩ | ⟨-, -, -, rfl⟩ | ⟨-, -, -, rfl⟩⟩ := Service.saveRequest_some taken <;>
      exact (loaded.endRequest callId).congr (fun _ member => member) fun _ member => member
  | abandonRequest callId =>
    obtain rfl := Option.some.inj taken
    exact loaded.endRequest callId
  | openDecision callId dto workflowId =>
    obtain ⟨workflow, decisions, -, -, rfl⟩ := Service.openDecision_some taken
    exact ⟨loaded.requests, loaded.workers⟩
  | decide callId now =>
    obtain rfl | ⟨call, workflow, phase, -, -, -, rfl⟩ := Service.decide_some taken <;>
      exact ⟨loaded.requests, loaded.workers⟩
  | enqueueDecision callId entryId =>
    obtain ⟨call, work, -, -, sent⟩ := Service.enqueueDecision_some taken
    exact Service.Loaded.enqueue (s := s.updateDecision _) ⟨loaded.requests, loaded.workers⟩ sent
  | saveDecision callId =>
    obtain ⟨call, work, sent, -, -, rfl⟩ := Service.saveDecision_some taken
    exact ⟨loaded.requests, loaded.workers⟩
  | abandonDecision callId =>
    obtain rfl := Option.some.inj taken
    exact ⟨loaded.requests, loaded.workers⟩
  | redeliver entryId message =>
    obtain ⟨queue, -, -, rfl⟩ := Service.redeliver_some taken
    exact ⟨loaded.requests, loaded.workers⟩
  | receive workerId entryId =>
    obtain ⟨entry, workers, -, -, inserted, rfl⟩ := Service.receive_some taken
    refine ⟨loaded.requests, fun worker member => ?_⟩
    rcases (Table.mem_insert? inserted).mp member with rfl | member
    · rintro message phase session ⟨⟩
    · exact loaded.workers worker member
  | reappear entryId =>
    obtain ⟨entry, -, rfl⟩ := Service.reappear_some taken
    exact ⟨loaded.requests, loaded.workers⟩
  | delete workerId =>
    obtain ⟨worker, entryId, -, -, rfl | ⟨entry, -, -, rfl⟩⟩ := Service.delete_some taken
    · exact loaded.endWorker workerId
    · have started : (s.updateWorker { worker with phase := .reconciling entry.message .started }).Loaded :=
        loaded.updateWorker (by rintro message phase session ⟨rfl, rfl⟩ ⟨⟩)
      exact ⟨started.requests, started.workers⟩
  | loadSession workerId =>
    obtain ⟨worker, message, -, -, ⟨outcome, -, rfl⟩ | ⟨session, load, rfl⟩⟩ := Service.loadSession_some taken
    · exact loaded.endWorker workerId
    · refine loaded.updateWorker ?_
      rintro _ _ _ ⟨⟩ ⟨⟩
      exact (loadSession_ok load).2.2.2.2
  | loadAgent workerId =>
    obtain ⟨worker, message, session, found, phase, ⟨outcome, -, rfl⟩ | ⟨agent, load, rfl⟩⟩ :=
      Service.loadAgent_some taken
    · exact loaded.endWorker workerId
    · refine loaded.updateWorker ?_
      rintro _ _ _ ⟨⟩ ⟨⟩
      exact loaded.workers worker (Table.mem_of_find? found) _ _ _ phase rfl
  | settle workerId clock =>
    obtain ⟨worker, message, session, agent, found, phase, rfl⟩ := Service.settle_some taken
    refine loaded.updateWorker ?_
    rintro _ _ _ ⟨⟩ ⟨⟩
    exact loaded.workers worker (Table.mem_of_find? found) _ _ _ phase rfl
  | save workerId =>
    obtain ⟨worker, message, session, agent, clock, -, -, rfl⟩ := Service.save_some taken
    exact (loaded.endWorker workerId).congr (fun _ member => member) fun _ member => member
  | stop workerId =>
    obtain rfl := Option.some.inj taken
    exact loaded.endWorker workerId

theorem completed_modify {db db' : ExecutionDb} {actionId other : Guid} (entity : Tracked ExecutionAction)
    (written : db'.executionActions = db.executionActions.modify actionId (ExecutionAction.written entity))
    (running : ¬completed db actionId) (done : completed db other) : completed db' other := by
  obtain ⟨action, found, status⟩ := done
  refine ⟨action, ?_, status⟩
  rw [written, Table.find?_modify_ne (ExecutionAction.written_id entity), found]
  rintro rfl
  exact running ⟨action, found, status⟩

theorem agents_written {agents : Table AgentIdentity.id} (entity : Tracked AgentIdentity)
    (touched : ∃ spent date, entity.current = { entity.original with spentTodayUsd := spent, budgetResetDateUtc := date })
    (asLoaded : entity.current ≠ entity.original → agents.find? entity.original.id = some entity.original) :
    agents.modify entity.original.id (AgentIdentity.written entity) =
      if entity.current = entity.original then agents else agents.put entity.current := by
  split
  · rename_i same
    unfold Table.modify
    split
    · rfl
    · rename_i stored found
      have kept : AgentIdentity.written entity stored = stored := by simp [AgentIdentity.written, Tracked.column, same]
      rw [kept]
      refine Table.put_of_find? ?_
      rw [Table.key_of_find? found]
      exact found
  · rename_i changed
    rw [Table.modify_of_find? (asLoaded changed)]
    obtain ⟨spent, date, current⟩ := touched
    have written := AgentIdentity.written_original entity.original spent date
    rw [← current] at written
    exact congrArg agents.put written

def BooksAgree (charged : Guid → UtcDate → Int) (agents : Table AgentIdentity.id) : Prop :=
  ∀ agent ∈ agents, agent.Books (charged agent.id) ∧ ∀ day, charged agent.id day ≤ agent.dailyBudgetCapUsd

theorem BooksAgree.put {charged charged' : Guid → UtcDate → Int} {agents : Table AgentIdentity.id}
    {current : AgentIdentity} (agree : BooksAgree charged agents)
    (others : ∀ agentId, agentId ≠ current.id → charged' agentId = charged agentId)
    (written : current.Books (charged' current.id) ∧ ∀ day, charged' current.id day ≤ current.dailyBudgetCapUsd) :
    BooksAgree charged' (agents.put current) := by
  intro agent member
  rcases Table.mem_put.mp member with ⟨kept, other⟩ | ⟨rfl, -⟩
  · rw [others agent.id other]
    exact agree agent kept
  · exact written

theorem BooksAgree.reset {charged : Guid → UtcDate → Int} {agents : Table AgentIdentity.id}
    {entity : Tracked AgentIdentity} (agree : BooksAgree charged agents) (clock : ClockReadings)
    (reset : entity.current = entity.original.resetDailyBudgetIfExpired clock)
    (asLoaded : entity.current ≠ entity.original → agents.find? entity.original.id = some entity.original) :
    BooksAgree charged (agents.modify entity.original.id (AgentIdentity.written entity)) := by
  rw [agents_written entity (reset ▸ entity.original.reset_eq clock) asLoaded]
  split
  · exact agree
  · rename_i changed
    have before := agree _ (Table.mem_of_find? (asLoaded changed))
    refine agree.put (fun _ _ => rfl) ?_
    rw [reset]
    simp only [AgentIdentity.resetDailyBudgetIfExpired_id, AgentIdentity.resetDailyBudgetIfExpired_cap]
    exact ⟨before.1.reset clock, before.2⟩

theorem chargedOn_upsert {charge : Charge} (fresh : s.charges.find? charge.actionId = none)
    (charges : s'.charges = s.charges.upsert charge) (agentId : Guid) (day : UtcDate) :
    s'.chargedOn agentId day =
      s.chargedOn agentId day + if charge.agentId = agentId ∧ charge.day = day then charge.amountUsd else 0 := by
  unfold Service.chargedOn
  rw [charges, Table.rows_upsert fresh, List.filter_cons]
  by_cases here : charge.agentId = agentId ∧ charge.day = day
  · simp [here, Int.add_comm]
  · simp [here]

theorem Service.Balanced.fresh (balanced : s.Balanced) {actionId : Guid} (running : ¬completed s.db actionId) :
    s.charges.find? actionId = none := by
  refine Table.find?_eq_none.mpr fun charge member same => running ?_
  rw [← same]
  exact balanced.charged charge member

theorem Service.Balanced.congr (balanced : s.Balanced) (charges : s'.charges = s.charges)
    (agents : s'.db.agentIdentities = s.db.agentIdentities)
    (done : ∀ actionId, completed s.db actionId → completed s'.db actionId) : s'.Balanced where
  charged := fun charge member => done _ (balanced.charged charge (charges ▸ member))
  books := by
    have same : s'.chargedOn = s.chargedOn := by
      funext agentId day
      rw [Service.chargedOn, Service.chargedOn, charges]
    rw [same, agents]
    exact balanced.books

theorem Service.Balanced.blocked {loaded : LoadedSession} {agent : AgentIdentity} {clock : ReconcileClock}
    (balanced : s.Balanced) (charges : s'.charges = s.charges) {checked : AgentIdentity}
    (reset : checked = agent.resetDailyBudgetIfExpired clock.checked)
    (db : s'.db = s.db.saveChanges (blockWork loaded agent checked clock))
    (asLoaded : s.AsLoaded (blockWork loaded agent checked clock).agent) (running : ¬completed s.db loaded.action.id) :
    s'.Balanced where
  charged := by
    intro charge member
    refine completed_modify (blockWork loaded agent checked clock).action ?_ running
      (balanced.charged charge (charges ▸ member))
    rw [db]
    rfl
  books := by
    have same : s'.chargedOn = s.chargedOn := by
      funext agentId day
      rw [Service.chargedOn, Service.chargedOn, charges]
    have agree : BooksAgree s.chargedOn s.db.agentIdentities := balanced.books
    rw [same, db]
    exact agree.reset clock.checked reset asLoaded

theorem Service.Balanced.settled {loaded : LoadedSession} {agent checked : AgentIdentity} {clock : ReconcileClock}
    (balanced : s.Balanced) (reset : checked = (agent.canSpend clock.checked loaded.action.estimatedSpendUsd).1)
    (allowed : (agent.canSpend clock.checked loaded.action.estimatedSpendUsd).2 = true)
    (charges : s'.charges = s.charges.upsert (Service.chargeOf (settleWork loaded agent checked clock)))
    (db : s'.db = s.db.saveChanges (settleWork loaded agent checked clock))
    (asLoaded : s.AsLoaded (settleWork loaded agent checked clock).agent)
    (loadedRunning : loaded.action.status = .executing)
    (executing : ∃ action, s.db.executionActions.find? loaded.action.id = some action ∧ action.status = .executing)
    (safe : MidnightSafe loaded agent clock) : s'.Balanced := by
  obtain ⟨stored, found, status⟩ := executing
  have running : ¬completed s.db loaded.action.id := by
    rintro ⟨action, found', done⟩
    obtain rfl := Option.some.inj (found.symm.trans found')
    rw [status] at done
    cases done
  have added := chargedOn_upsert (balanced.fresh running) charges
  have written : s'.db.executionActions = s.db.executionActions.modify loaded.action.id
      (ExecutionAction.written (settleWork loaded agent checked clock).action) := by rw [db]; rfl
  refine ⟨fun charge member => ?_, ?_⟩
  · rw [charges] at member
    rcases Table.mem_upsert.mp member with rfl | ⟨member, -⟩
    · refine ⟨_, by rw [written]; exact Table.find?_modify_self (ExecutionAction.written_id _) found, ?_⟩
      simp [ExecutionAction.written, Tracked.column, settleWork, LoadedSession.settledAction,
        ExecutionAction.setStatus, loadedRunning]
    · exact completed_modify _ written running (balanced.charged charge member)
  · have agree : BooksAgree s.chargedOn s.db.agentIdentities := balanced.books
    have touched := agent.recordSpend_eq clock.checked clock.recorded loaded.action.estimatedSpendUsd
    rw [← reset] at touched
    have agents : s'.db.agentIdentities = if (settleWork loaded agent checked clock).agent.current = agent then
        s.db.agentIdentities else s.db.agentIdentities.put (settleWork loaded agent checked clock).agent.current := by
      rw [db]
      exact agents_written (settleWork loaded agent checked clock).agent touched asLoaded
    show BooksAgree s'.chargedOn s'.db.agentIdentities
    rw [agents]
    split
    · rename_i same
      -- Nothing is written, so the action costs nothing.
      have free : loaded.action.estimatedSpendUsd = 0 := by
        have spend := spendAdded_recordSpend agent clock.checked clock.recorded loaded.action.estimatedSpendUsd
        have current : (agent.resetDailyBudgetIfExpired clock.checked).recordSpend clock.recorded
            loaded.action.estimatedSpendUsd = agent := by
          rw [reset] at same
          exact same
        rw [current, spendAdded_sameDay rfl, Int.sub_self] at spend
        exact spend.symm
      have unchanged : s'.chargedOn = s.chargedOn := by
        funext agentId day
        rw [added]
        simp [Service.chargeOf, settleWork, free]
      rw [unchanged]
      exact agree
    · rename_i changed
      have before := agree agent (Table.mem_of_find? (asLoaded changed))
      have here (day : UtcDate) : s'.chargedOn agent.id day = s.chargedOn agent.id day +
          if (checked.recordSpend clock.recorded loaded.action.estimatedSpendUsd).budgetResetDateUtc = day then
            loaded.action.estimatedSpendUsd else 0 := by
        rw [added]
        simp [Service.chargeOf, settleWork]
      have id : (settleWork loaded agent checked clock).agent.current.id = agent.id := by simp [settleWork, reset]
      have cap : (settleWork loaded agent checked clock).agent.current.dailyBudgetCapUsd = agent.dailyBudgetCapUsd := by
        simp [settleWork, reset]
      refine agree.put (fun agentId other => ?_) ?_
      · funext day
        rw [added]
        rw [id] at other
        simp [Service.chargeOf, settleWork, Ne.symm other]
      · rw [id, cap]
        subst reset
        exact ⟨(before.1.reset clock.checked).recordSpend clock.recorded _ here,
          settled_within before.1 before.2 allowed safe here⟩

theorem Service.Balanced.written (balanced : s.Balanced) (agent : Option (Tracked AgentIdentity))
    (action : Option (Tracked ExecutionAction)) (charges : s'.charges = s.charges)
    (agents : s'.db.agentIdentities = (s.db.writeAgent agent).agentIdentities)
    (actions : s'.db.executionActions = match action with
      | none => s.db.executionActions
      | some action => s.db.executionActions.modify action.original.id (ExecutionAction.written action))
    (reset : ∀ entity, agent = some entity → s.AsLoaded entity ∧
      ∃ clock, entity.current = entity.original.resetDailyBudgetIfExpired clock)
    (running : ∀ entity, action = some entity → ¬completed s.db entity.original.id) : s'.Balanced where
  charged := by
    intro charge member
    have before := balanced.charged charge (charges ▸ member)
    cases action with
    | none =>
      obtain ⟨row, found, done⟩ := before
      exact ⟨row, by rw [actions]; exact found, done⟩
    | some entity => exact completed_modify entity actions (running entity rfl) before
  books := by
    have same : s'.chargedOn = s.chargedOn := by
      funext agentId day
      rw [Service.chargedOn, Service.chargedOn, charges]
    have agree : BooksAgree s.chargedOn s.db.agentIdentities := balanced.books
    rw [same, agents]
    cases agent with
    | none => exact balanced.books
    | some entity =>
      obtain ⟨asLoaded, clock, current⟩ := reset entity rfl
      exact agree.reset clock current asLoaded

theorem Service.Balanced.step {label : ServiceLabel} (balanced : s.Balanced) (loaded : s.Loaded)
    (undivided : Undivided s label) (taken : s.step label = some s') : s'.Balanced := by
  cases label with
  | request callId dto sessionId actionId =>
    obtain ⟨agent, sessions, actions, requests, -, -, planned, -, rfl⟩ := Service.request_some taken
    refine balanced.congr rfl rfl fun other done => ?_
    obtain ⟨action, found, status⟩ := done
    exact ⟨action, Table.find?_insert?_of_find? planned found, status⟩
  | saveRequest callId now workflowId expiresAtUtc =>
    obtain ⟨call, found, ⟨verdict, agent, db, phase, saved, rfl⟩ | ⟨verdict, agent, phase, rfl⟩ | ⟨entryId, agent, phase, rfl⟩⟩ :=
      Service.saveRequest_some taken
    all_goals
      have tracked : call.agent = agent := by rw [RequestCall.agent, phase]
      obtain ⟨asLoaded, running⟩ := undivided call found
      have reset : ∀ entity, agent = some entity → s.AsLoaded entity ∧
          ∃ clock, entity.current = entity.original.resetDailyBudgetIfExpired clock := fun entity same =>
        ⟨asLoaded entity (tracked.trans same), loaded.requests call (Table.mem_of_find? found) entity (tracked.trans same)⟩
    · simp only [ExecutionDb.saveAwaiting, Option.bind_eq_bind, Option.bind_eq_some_iff, Option.some.injEq] at saved
      obtain ⟨workflows, -, rfl⟩ := saved
      refine balanced.written agent none rfl rfl ?_ reset (by rintro _ ⟨⟩)
      cases agent <;> rfl
    · refine balanced.written agent
        (some ⟨call.action, call.action.setStatus .blockedByPolicy (some verdict.reasoning)⟩) rfl ?_ ?_ reset ?_
      · cases agent <;> rfl
      · cases agent <;> rfl
      · rintro _ ⟨⟩
        exact running
    · refine balanced.written agent (some ⟨call.action, call.action.setStatus .executing none⟩)
        rfl ?_ ?_ reset ?_
      · cases agent <;> rfl
      · cases agent <;> rfl
      · rintro _ ⟨⟩
        exact running
  | saveDecision callId =>
    obtain ⟨call, work, sent, found, phase, rfl⟩ := Service.saveDecision_some taken
    refine balanced.written none work.action rfl ?_ ?_ (by rintro _ ⟨⟩) ?_
    · simp only [ExecutionDb.saveDecision]
      cases work.session <;> cases work.action <;> rfl
    · simp only [ExecutionDb.saveDecision]
      cases work.session <;> cases work.action <;> rfl
    · exact fun entity same => undivided call work sent entity found phase same
  | save workerId =>
    obtain ⟨worker, message, session, agent, clock, found, phase, rfl⟩ := Service.save_some taken
    obtain ⟨asLoaded, executing, safe⟩ := undivided worker message session agent clock found phase
    have running := loaded.workers worker (Table.mem_of_find? found) _ _ _ phase rfl
    rcases settle_cases session agent clock with ⟨allowed, same⟩ | ⟨refused, same⟩
    · rw [same] at asLoaded safe
      refine balanced.settled rfl allowed ?_ (by rw [← same]) asLoaded running executing (safe rfl)
      rw [same]
      rfl
    · rw [same] at asLoaded
      refine balanced.blocked ?_ (rfl : (agent.canSpend clock.checked session.action.estimatedSpendUsd).1 = _)
        (by rw [← same]) asLoaded ?_
      · rw [same]
        rfl
      · obtain ⟨stored, located, status⟩ := executing
        rintro ⟨action, located', done⟩
        obtain rfl := Option.some.inj (located.symm.trans located')
        rw [status] at done
        cases done
  | evaluate callId verdict budgetCheck =>
    obtain ⟨call, -, -, rfl⟩ := Service.evaluate_some taken
    exact balanced.congr rfl rfl fun _ done => done
  | enqueueRequest callId entryId =>
    obtain ⟨call, verdict, agent, -, -, sent⟩ := Service.enqueueRequest_some taken
    obtain ⟨queue, -, rfl⟩ := Service.enqueue_some sent
    exact balanced.congr rfl rfl fun _ done => done
  | openDecision callId dto workflowId =>
    obtain ⟨workflow, decisions, -, -, rfl⟩ := Service.openDecision_some taken
    exact balanced.congr rfl rfl fun _ done => done
  | decide callId now =>
    obtain rfl | ⟨call, workflow, phase, -, -, -, rfl⟩ := Service.decide_some taken <;>
      exact balanced.congr rfl rfl fun _ done => done
  | enqueueDecision callId entryId =>
    obtain ⟨call, work, -, -, sent⟩ := Service.enqueueDecision_some taken
    obtain ⟨queue, -, rfl⟩ := Service.enqueue_some sent
    exact balanced.congr rfl rfl fun _ done => done
  | redeliver entryId message =>
    obtain ⟨queue, -, -, rfl⟩ := Service.redeliver_some taken
    exact balanced.congr rfl rfl fun _ done => done
  | receive workerId entryId =>
    obtain ⟨entry, workers, -, -, -, rfl⟩ := Service.receive_some taken
    exact balanced.congr rfl rfl fun _ done => done
  | reappear entryId =>
    obtain ⟨entry, -, rfl⟩ := Service.reappear_some taken
    exact balanced.congr rfl rfl fun _ done => done
  | delete workerId =>
    obtain ⟨worker, entryId, -, -, rfl | ⟨entry, -, -, rfl⟩⟩ := Service.delete_some taken <;>
      exact balanced.congr rfl rfl fun _ done => done
  | loadSession workerId =>
    obtain ⟨worker, message, -, -, ⟨outcome, -, rfl⟩ | ⟨session, -, rfl⟩⟩ := Service.loadSession_some taken <;>
      exact balanced.congr rfl rfl fun _ done => done
  | loadAgent workerId =>
    obtain ⟨worker, message, session, -, -, ⟨outcome, -, rfl⟩ | ⟨agent, -, rfl⟩⟩ := Service.loadAgent_some taken <;>
      exact balanced.congr rfl rfl fun _ done => done
  | settle workerId clock =>
    obtain ⟨worker, message, session, agent, -, -, rfl⟩ := Service.settle_some taken
    exact balanced.congr rfl rfl fun _ done => done
  | abandonRequest callId | abandonDecision callId | stop workerId =>
    obtain rfl := Option.some.inj taken
    exact balanced.congr rfl rfl fun _ done => done

end Step

structure Service.Initial (s : Service) : Prop where
  idle : s.requests = .empty ∧ s.decisions = .empty ∧ s.workers = .empty
  uncharged : s.charges = .empty
  unspent : ∀ agent ∈ s.db.agentIdentities, agent.spentTodayUsd = 0

theorem Service.Initial.loaded {s : Service} (initial : s.Initial) : s.Loaded where
  requests := by
    rw [initial.idle.1]
    exact fun call member => absurd member (Table.not_mem_empty call)
  workers := by
    rw [initial.idle.2.2]
    exact fun worker member => absurd member (Table.not_mem_empty worker)

theorem Service.Initial.balanced {s : Service} (initial : s.Initial) : s.Balanced where
  charged := by
    rw [initial.uncharged]
    exact fun charge member => absurd member (Table.not_mem_empty charge)
  books := by
    have nothing (agentId : Guid) (day : UtcDate) : s.chargedOn agentId day = 0 := by
      rw [Service.chargedOn, initial.uncharged]
      rfl
    intro agent member
    refine ⟨⟨?_, fun day _ => nothing _ day⟩, fun day => ?_⟩
    · rw [initial.unspent agent member, nothing]
    · rw [nothing]
      exact agent.budgeted

theorem loaded_of_run {s₀ s : Service} {events : List (Service × ServiceLabel)} (initial : s₀.Initial)
    (run : Run Service.step s₀ events s) : s.Loaded :=
  run.always _ initial.loaded fun _ _ _ loaded taken => loaded.step taken

theorem balanced_of_run {s₀ s : Service} {events : List (Service × ServiceLabel)} (initial : s₀.Initial)
    (run : Run Service.step s₀ events s) (conforms : Conforms Undivided events) : s.Balanced :=
  run.history (fun _ s => s.Balanced) conforms initial.balanced
    fun _ _ _ _ before _ balanced undivided taken => balanced.step (loaded_of_run initial before) undivided taken

/-- While no save comes between the load and the save of another, no day's settlements exceed the cap, and the recorded
spend is what they come to. -/
theorem daily_budget_kept {s₀ s : Service} {events : List (Service × ServiceLabel)} (initial : s₀.Initial)
    (run : Run Service.step s₀ events s) (conforms : Conforms Undivided events) {agent : AgentIdentity}
    (member : agent ∈ s.db.agentIdentities) :
    (∀ day, s.settledOn agent.id day ≤ agent.dailyBudgetCapUsd) ∧
      agent.spentTodayUsd = s.settledOn agent.id agent.budgetResetDateUtc := by
  have balanced := balanced_of_run initial run conforms
  obtain ⟨books, within⟩ := balanced.books agent member
  refine ⟨fun day => ?_, ?_⟩
  · rw [balanced.settledOn_eq]
    exact within day
  · rw [balanced.settledOn_eq]
    exact books.spent

section Example

def dispatchedPair : Service where
  db := {
    agentIdentities := .singleton acme
    executionSessions := ⟨[⟨1, 1, .executing, 0⟩, ⟨2, 1, .executing, 0⟩], by decide⟩
    executionActions := ⟨[⟨1, 1, "pay_invoice", 60, .executing, none⟩, ⟨2, 2, "pay_invoice", 60, .executing, none⟩],
      by decide⟩
    approvalWorkflows := .empty
    auditEvents := [] }
  queue := ⟨[⟨1, ⟨1, 1⟩, none⟩, ⟨2, ⟨2, 2⟩, none⟩], by decide⟩
  requests := .empty
  decisions := .empty
  workers := .empty
  charges := .empty
  sent := []
  committed := []

theorem initial_dispatchedPair : dispatchedPair.Initial where
  idle := ⟨rfl, rfl, rfl⟩
  uncharged := rfl
  unspent := by decide

/-- Both workers load the agent before either saves: 120 is settled against 100, and 60 recorded. -/
theorem daily_budget_exceeded : dispatchedPair.Initial ∧ ∃ events s, Run Service.step dispatchedPair events s ∧
    s.settledOn 1 0 = 120 ∧ s.db.agentIdentities.find? 1 = some ⟨1, "acme", .active, 100, 60, 0, by decide⟩ := by
  refine ⟨initial_dispatchedPair, ?_⟩
  exact exists_run [.receive 1 1, .receive 2 2, .delete 1, .delete 2, .loadSession 1, .loadSession 2, .loadAgent 1,
    .loadAgent 2, .settle 1 noon, .settle 2 noon, .save 1, .save 2] _ (by decide)

def saveCheck (s : Service) : ServiceLabel → Bool
  | .save workerId =>
    match s.workers.find? workerId with
    | some ⟨_, .reconciling _ (.settling loaded agent _)⟩ =>
      decide (s.db.agentIdentities.find? agent.id = some agent) &&
        (s.db.executionActions.find? loaded.action.id).any (·.status = .executing) &&
        decide (loaded.action.estimatedSpendUsd ≤ agent.dailyBudgetCapUsd)
    | _ => false
  | .saveRequest .. | .saveDecision .. => false
  | _ => true

theorem saveCheck_undivided (s : Service) (label : ServiceLabel) (checked : saveCheck s label = true) :
    Undivided s label := by
  cases label with
  | save workerId =>
    intro worker message loaded agent clock found phase
    obtain ⟨id, phase'⟩ := worker
    simp only at phase
    subst phase
    simp only [saveCheck, found, Bool.and_eq_true, decide_eq_true_eq, Option.any_eq_true] at checked
    obtain ⟨⟨current, action, located, executing⟩, cost⟩ := checked
    refine ⟨fun _ => ?_, ⟨action, located, executing⟩, fun _ _ => cost⟩
    rcases settle_cases loaded agent clock with ⟨-, same⟩ | ⟨-, same⟩ <;> rw [same] <;> exact current
  | saveRequest callId now workflowId expiresAtUtc => cases checked
  | saveDecision callId => cases checked
  | _ => trivial

/-- One action is settled, and the other refused by the worker that comes after. -/
theorem daily_budget_kept_serially : ∃ s : Service, s.settledOn 1 0 = 60 ∧
    (∀ agent ∈ s.db.agentIdentities, ∀ day, s.settledOn agent.id day ≤ agent.dailyBudgetCapUsd) := by
  obtain ⟨events, s, run, conforms, settled⟩ : ∃ events s, Run Service.step dispatchedPair events s ∧
      Conforms Undivided events ∧ s.settledOn 1 0 = 60 :=
    exists_conforming_run [.receive 1 1, .receive 2 2, .delete 1, .delete 2, .loadSession 1, .loadSession 2,
      .loadAgent 1, .settle 1 noon, .save 1, .loadAgent 2, .settle 2 noon, .save 2] saveCheck _ saveCheck_undivided
      (by decide)
  exact ⟨s, settled, fun agent member => (daily_budget_kept initial_dispatchedPair run conforms member).1⟩

end Example

end AgentOps.Execution
