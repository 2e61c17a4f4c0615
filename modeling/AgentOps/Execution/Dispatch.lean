import AgentOps.Execution.Service

namespace AgentOps.Execution
open Lib

/-! # Dispatched actions and their messages -/

def ExecutionStatus.Started (status : ExecutionStatus) : Prop := status = .executing ∨ status.ended = true

def Service.Carries (s : Service) (message : ExecutionDispatchMessage) : Prop :=
  (∃ entry ∈ s.queue, entry.message = message) ∨
    ∃ worker ∈ s.workers, ∃ phase, worker.phase = .reconciling message phase

def ExecutionAction.message (action : ExecutionAction) : ExecutionDispatchMessage := ⟨action.sessionId, action.id⟩

/-- Every action that executes has its message. -/
def NothingLost (s : Service) : Prop :=
  ∀ action ∈ s.db.executionActions, action.status = .executing → s.Carries action.message

/-- A message that is received refers to an action that executes or has ended. -/
def TakesStarted (s : Service) : ServiceLabel → Prop
  | .receive _ entryId => ∀ entry, s.queue.find? entryId = some entry →
      ∃ action, s.db.executionActions.find? entry.message.actionId = some action ∧ action.status.Started
  | _ => True

/-! ## The condition -/

def Service.Unsaved (s : Service) (entryId : Nat) : Prop :=
  (∃ call ∈ s.requests, ∃ agent, call.phase = .enqueued entryId agent) ∨
    ∃ call ∈ s.decisions, ∃ work, call.phase = .saving work (some entryId)

/-- A message is received after the dispatch of its action was committed, and not before the save of its own sender. A
worker does not stop with the only message of an action that executes. -/
def InOrder (s : Service) : ServiceLabel → Prop
  | .receive _ entryId => ∀ entry, s.queue.find? entryId = some entry →
      entry.message.actionId ∈ s.committed ∧ ¬s.Unsaved entryId
  | .stop workerId => ∀ worker message phase action, s.workers.find? workerId = some worker →
      worker.phase = .reconciling message phase → s.db.executionActions.find? message.actionId = some action →
      action.status = .executing → (s.endWorker workerId).Carries message
  | _ => True

/-! ## What calls, messages and workers refer to -/

def Refers (db : ExecutionDb) (message : ExecutionDispatchMessage) : Prop :=
  ∃ action, db.executionActions.find? message.actionId = some action ∧ action.sessionId = message.sessionId

def StartedIn (db : ExecutionDb) (actionId : Guid) : Prop :=
  ∃ action, db.executionActions.find? actionId = some action ∧ action.status.Started

def Service.Waiting (s : Service) (entryId : Nat) (message : ExecutionDispatchMessage) : Prop :=
  s.queue.find? entryId = some ⟨entryId, message, none⟩

structure RequestSound (s : Service) (call : RequestCall) : Prop where
  refers : Refers s.db call.message
  queued : call.action.status = .queued
  waiting : ∀ entryId agent, call.phase = .enqueued entryId agent → s.Waiting entryId call.message

structure WorkSound (db : ExecutionDb) (status : ExecutionStatus) (work : DecisionWork) : Prop where
  refers : Refers db work.message
  tracked : ∃ action, work.action = some action ∧ action.original.id = work.message.actionId ∧
    action.current.status = status ∧ (action.original.status.Started → StartedIn db action.original.id)

def DecisionSound (s : Service) (call : DecisionCall) : Prop :=
  match call.phase with
  | .opened workflow => Refers s.db ⟨workflow.sessionId, workflow.actionId⟩
  | .approved work => WorkSound s.db .executing work
  | .saving work (some entryId) => WorkSound s.db .executing work ∧ s.Waiting entryId work.message
  | .saving work none => WorkSound s.db .blockedByPolicy work

structure WorkerSound (db : ExecutionDb) (worker : Worker) : Prop where
  refers : ∀ message phase, worker.phase = .reconciling message phase → Refers db message
  loaded : ∀ message phase loaded, worker.phase = .reconciling message phase → phase.loaded = some loaded →
    loaded.action.id = message.actionId ∧ loaded.action.status = .executing ∧
      (db.agentIdentities.find? loaded.session.agentId).isSome

structure Service.Dispatching (s : Service) : Prop where
  carried : NothingLost s
  committed : ∀ actionId ∈ s.committed, StartedIn s.db actionId
  placed : ∀ action ∈ s.db.executionActions, ∃ session, s.db.executionSessions.find? action.sessionId = some session ∧
    (s.db.agentIdentities.find? session.agentId).isSome
  workflows : ∀ workflow ∈ s.db.approvalWorkflows, Refers s.db ⟨workflow.sessionId, workflow.actionId⟩
  queue : ∀ entry ∈ s.queue, Refers s.db entry.message
  sent : ∀ message ∈ s.sent, Refers s.db message
  requests : ∀ call ∈ s.requests, RequestSound s call
  decisions : ∀ call ∈ s.decisions, DecisionSound s call
  workers : ∀ worker ∈ s.workers, WorkerSound s.db worker

/-! ## The database moves forward -/

structure Forward (db db' : ExecutionDb) : Prop where
  agents : ∀ id, (db.agentIdentities.find? id).isSome → (db'.agentIdentities.find? id).isSome
  sessions : Table.Grows (fun session session' => session'.agentId = session.agentId)
    db.executionSessions db'.executionSessions
  actions : Table.Grows (fun action action' => action'.sessionId = action.sessionId ∧
    (action'.status = action.status ∨ action'.status.Started)) db.executionActions db'.executionActions

section Forward

variable {db db' : ExecutionDb}

theorem Forward.refl (db : ExecutionDb) : Forward db db :=
  ⟨fun _ some => some, fun _ session found => ⟨session, found, rfl⟩, fun _ action found => ⟨action, found, rfl, .inl rfl⟩⟩

theorem Refers.forward {message : ExecutionDispatchMessage} (refers : Refers db message) (forward : Forward db db') :
    Refers db' message := by
  obtain ⟨action, found, session⟩ := refers
  obtain ⟨action', found', session', -⟩ := forward.actions _ _ found
  exact ⟨action', found', session'.trans session⟩

theorem StartedIn.forward {actionId : Guid} (started : StartedIn db actionId) (forward : Forward db db') :
    StartedIn db' actionId := by
  obtain ⟨action, found, status⟩ := started
  obtain ⟨action', found', -, same | now⟩ := forward.actions _ _ found
  · exact ⟨action', found', same ▸ status⟩
  · exact ⟨action', found', now⟩

theorem WorkSound.forward {status : ExecutionStatus} {work : DecisionWork} (sound : WorkSound db status work)
    (forward : Forward db db') : WorkSound db' status work := by
  obtain ⟨action, tracked, key, current, started⟩ := sound.tracked
  exact ⟨sound.refers.forward forward, action, tracked, key, current, fun before => (started before).forward forward⟩

theorem WorkerSound.forward {worker : Worker} (sound : WorkerSound db worker) (forward : Forward db db') :
    WorkerSound db' worker := by
  refine ⟨fun message phase same => (sound.refers message phase same).forward forward,
    fun message phase loaded same has => ?_⟩
  obtain ⟨key, executing, agent⟩ := sound.loaded message phase loaded same has
  exact ⟨key, executing, forward.agents _ agent⟩

variable {s s' : Service}

theorem RequestSound.forward {call : RequestCall} (sound : RequestSound s call) (forward : Forward s.db s'.db)
    (waiting : ∀ entryId agent, call.phase = .enqueued entryId agent →
      s.Waiting entryId call.message → s'.Waiting entryId call.message) : RequestSound s' call :=
  ⟨sound.refers.forward forward, sound.queued, fun entryId agent phase =>
    waiting entryId agent phase (sound.waiting entryId agent phase)⟩

theorem DecisionSound.forward {call : DecisionCall} (sound : DecisionSound s call) (forward : Forward s.db s'.db)
    (waiting : ∀ work entryId, call.phase = .saving work (some entryId) →
      s.Waiting entryId work.message → s'.Waiting entryId work.message) : DecisionSound s' call := by
  unfold DecisionSound at sound ⊢
  split at sound <;> rename_i phase <;> rw [phase] at waiting
  · exact sound.forward forward
  · exact sound.forward forward
  · exact ⟨sound.1.forward forward, waiting _ _ rfl sound.2⟩
  · exact sound.forward forward

theorem Service.Dispatching.advance (inv : s.Dispatching) (forward : Forward s.db s'.db) (carried : NothingLost s')
    (committed : ∀ actionId ∈ s'.committed, actionId ∈ s.committed ∨ StartedIn s'.db actionId)
    (placed : ∀ action ∈ s'.db.executionActions, ∃ session,
      s'.db.executionSessions.find? action.sessionId = some session ∧
        (s'.db.agentIdentities.find? session.agentId).isSome)
    (workflows : ∀ workflow ∈ s'.db.approvalWorkflows, Refers s'.db ⟨workflow.sessionId, workflow.actionId⟩)
    (queue : ∀ entry ∈ s'.queue, (∃ entry' ∈ s.queue, entry.message = entry'.message) ∨ Refers s'.db entry.message)
    (sent : ∀ message ∈ s'.sent, message ∈ s.sent ∨ Refers s'.db message)
    (requests : ∀ call ∈ s'.requests, (call ∈ s.requests ∧ ∀ entryId agent, call.phase = .enqueued entryId agent →
      s.Waiting entryId call.message → s'.Waiting entryId call.message) ∨ RequestSound s' call)
    (decisions : ∀ call ∈ s'.decisions, (call ∈ s.decisions ∧ ∀ work entryId, call.phase = .saving work (some entryId) →
      s.Waiting entryId work.message → s'.Waiting entryId work.message) ∨ DecisionSound s' call)
    (workers : ∀ worker ∈ s'.workers, worker ∈ s.workers ∨ WorkerSound s'.db worker) : s'.Dispatching where
  carried := carried
  committed := by
    intro actionId member
    rcases committed actionId member with before | now
    · exact (inv.committed actionId before).forward forward
    · exact now
  placed := placed
  workflows := workflows
  queue := by
    intro entry member
    rcases queue entry member with ⟨entry', before, same⟩ | now
    · rw [same]
      exact (inv.queue entry' before).forward forward
    · exact now
  sent := by
    intro message member
    rcases sent message member with before | now
    · exact (inv.sent message before).forward forward
    · exact now
  requests := by
    intro call member
    rcases requests call member with ⟨before, waiting⟩ | now
    · exact (inv.requests call before).forward forward waiting
    · exact now
  decisions := by
    intro call member
    rcases decisions call member with ⟨before, waiting⟩ | now
    · exact (inv.decisions call before).forward forward waiting
    · exact now
  workers := by
    intro worker member
    rcases workers worker member with before | now
    · exact (inv.workers worker before).forward forward
    · exact now

end Forward

/-! ## Writes -/

section Writes

variable {db db' : ExecutionDb}

theorem Forward.trans {db'' : ExecutionDb} (first : Forward db db') (second : Forward db' db'') : Forward db db'' where
  agents := fun id some => second.agents id (first.agents id some)
  sessions := by
    intro id session found
    obtain ⟨session', found', same⟩ := first.sessions id session found
    obtain ⟨session'', found'', same'⟩ := second.sessions id session' found'
    exact ⟨session'', found'', same'.trans same⟩
  actions := by
    intro id action found
    obtain ⟨action', found', session, status⟩ := first.actions id action found
    obtain ⟨action'', found'', session', status'⟩ := second.actions id action' found'
    refine ⟨action'', found'', session'.trans session, ?_⟩
    rcases status' with same | now
    · rw [same]
      exact status
    · exact .inr now

theorem Forward.of_eq (agents : db'.agentIdentities = db.agentIdentities)
    (sessions : db'.executionSessions = db.executionSessions) (actions : db'.executionActions = db.executionActions) :
    Forward db db' := by
  have same := Forward.refl db
  exact ⟨by rw [agents]; exact same.agents, by rw [sessions]; exact same.sessions, by rw [actions]; exact same.actions⟩

theorem ExecutionAction.written_status (entity : Tracked ExecutionAction) (stored : ExecutionAction) :
    (ExecutionAction.written entity stored).status = stored.status ∨
      (ExecutionAction.written entity stored).status = entity.current.status := by
  simp only [written, Tracked.column]
  split
  · exact .inl rfl
  · exact .inr rfl

theorem forward_writeAgent (agent : Option (Tracked AgentIdentity)) : Forward db (db.writeAgent agent) := by
  cases agent with
  | none => exact Forward.refl db
  | some entity =>
    refine ⟨fun id some => ?_, (Forward.refl db).sessions, (Forward.refl db).actions⟩
    rw [ExecutionDb.writeAgent, Table.find?_modify (AgentIdentity.written_id entity)]
    simpa using some

theorem forward_writeSession (session : Tracked ExecutionSession) : Forward db (db.writeSession session) := by
  refine ⟨fun _ some => some, fun id row found => ?_, (Forward.refl db).actions⟩
  rw [ExecutionDb.writeSession, Table.find?_modify (ExecutionSession.written_id session), found]
  refine ⟨_, rfl, ?_⟩
  split <;> rfl

theorem forward_writeAction (action : Tracked ExecutionAction) (started : action.current.status.Started) :
    Forward db (db.writeAction action) := by
  refine ⟨fun _ some => some, (Forward.refl db).sessions, fun id row found => ?_⟩
  rw [ExecutionDb.writeAction, Table.find?_modify (ExecutionAction.written_id action), found]
  refine ⟨_, rfl, ?_⟩
  split
  · rcases ExecutionAction.written_status action row with same | now
    · exact ⟨rfl, .inl same⟩
    · exact ⟨rfl, .inr (now ▸ started)⟩
  · exact ⟨rfl, .inl rfl⟩

variable {s s' : Service}

theorem Service.Dispatching.placed_forward (inv : s.Dispatching) (forward : Forward s.db s'.db)
    (source : ∀ action' ∈ s'.db.executionActions, ∃ action ∈ s.db.executionActions, action.sessionId = action'.sessionId) :
    ∀ action ∈ s'.db.executionActions, ∃ session, s'.db.executionSessions.find? action.sessionId = some session ∧
      (s'.db.agentIdentities.find? session.agentId).isSome := by
  intro action' member
  obtain ⟨action, before, same⟩ := source action' member
  obtain ⟨session, found, agent⟩ := inv.placed action before
  obtain ⟨session', found', kept⟩ := forward.sessions _ _ found
  rw [← same]
  exact ⟨session', found', kept ▸ forward.agents _ agent⟩

theorem nothingLost_written {entity : Tracked ExecutionAction} {actionId : Guid} (lost : NothingLost s)
    (written : s'.db.executionActions = s.db.executionActions.modify actionId (ExecutionAction.written entity))
    (carries : ∀ message, message.actionId ≠ actionId → s.Carries message → s'.Carries message)
    (here : ∀ action, s.db.executionActions.find? actionId = some action →
      (ExecutionAction.written entity action).status = .executing → s'.Carries action.message) : NothingLost s' := by
  intro action' member executing
  rw [written] at member
  obtain ⟨action, before, -, same⟩ := Table.mem_modify (ExecutionAction.written_id entity) member
  by_cases key : actionId = action.id
  · rw [if_pos key] at same
    subst same
    have found := Table.find?_of_mem before
    rw [← key] at found
    exact here action found executing
  · rw [if_neg key] at same
    subst same
    exact carries _ (Ne.symm key) (lost action' before executing)

theorem Service.Carries.endWorker {message : ExecutionDispatchMessage} (workerId : Nat) (carries : s.Carries message) :
    (s.endWorker workerId).Carries message ∨
      ∃ worker phase, s.workers.find? workerId = some worker ∧ worker.phase = .reconciling message phase := by
  rcases carries with inQueue | ⟨worker, member, phase, same⟩
  · exact .inl (.inl inQueue)
  · by_cases here : worker.id = workerId
    · subst here
      exact .inr ⟨worker, phase, Table.find?_of_mem member, same⟩
    · exact .inl (.inr ⟨worker, Table.mem_remove.mpr ⟨member, here⟩, phase, same⟩)

theorem Service.Carries.updateWorker {message held : ExecutionDispatchMessage} {worker : Worker} {phase phase' : ReconcilePhase}
    (carries : s.Carries message) (found : s.workers.find? worker.id = some worker)
    (same : worker.phase = .reconciling held phase) :
    (s.updateWorker { worker with phase := .reconciling held phase' }).Carries message := by
  rcases carries with inQueue | ⟨other, member, phase'', holds⟩
  · exact .inl inQueue
  · refine .inr ?_
    by_cases here : other.id = worker.id
    · have whole : other = worker := Table.eq_of_key member (Table.mem_of_find? found) here
      subst whole
      rw [same] at holds
      cases holds
      exact ⟨_, Table.mem_put.mpr (.inr ⟨rfl, other, member, rfl⟩), phase', rfl⟩
    · exact ⟨other, Table.mem_put.mpr (.inl ⟨member, here⟩), phase'', holds⟩

end Writes

/-! ## The steps of requests and decisions -/

section Steps

variable {s s' : Service}

theorem Service.Waiting.insert {entry : QueueEntry} {queue : Table QueueEntry.id} {entryId : Nat}
    {message : ExecutionDispatchMessage} (waiting : s.Waiting entryId message)
    (inserted : s.queue.insert? entry = some queue) (queues : s'.queue = queue) : s'.Waiting entryId message := by
  rw [Waiting, queues]
  exact Table.find?_insert?_of_find? inserted waiting

theorem Service.Dispatching.quiet (inv : s.Dispatching) (db : s'.db = s.db) (committed : s'.committed = s.committed)
    (queue : s'.queue = s.queue) (sent : s'.sent = s.sent) (workers : s'.workers = s.workers)
    (requests : ∀ call ∈ s'.requests, call ∈ s.requests ∨ RequestSound s' call)
    (decisions : ∀ call ∈ s'.decisions, call ∈ s.decisions ∨ DecisionSound s' call) : s'.Dispatching := by
  refine inv.advance (by rw [db]; exact Forward.refl _) ?_ ?_ ?_ ?_ ?_ ?_ ?_ ?_ ?_
  · intro action member executing
    rw [db] at member
    rw [Service.Carries, queue, workers]
    exact inv.carried action member executing
  · exact fun actionId member => .inl (committed ▸ member)
  · rw [db]
    exact inv.placed
  · rw [db]
    exact inv.workflows
  · exact fun entry member => .inl ⟨entry, queue ▸ member, rfl⟩
  · exact fun message member => .inl (sent ▸ member)
  · intro call member
    refine (requests call member).imp_left fun before => ⟨before, fun entryId _ _ waiting => ?_⟩
    rw [Service.Waiting, queue]
    exact waiting
  · intro call member
    refine (decisions call member).imp_left fun before => ⟨before, fun _ entryId _ waiting => ?_⟩
    rw [Service.Waiting, queue]
    exact waiting
  · exact fun worker member => .inl (workers ▸ member)

theorem Service.Dispatching.request {callId : Nat} {dto : RequestExecutionDto} {sessionId actionId : Guid}
    (inv : s.Dispatching) (taken : s.request callId dto sessionId actionId = some s') : s'.Dispatching := by
  obtain ⟨agent, sessions, actions, requests, agentFound, planned, planned', opened, rfl⟩ := Service.request_some taken
  have forward : Forward s.db { s.db with executionSessions := sessions, executionActions := actions } := by
    refine ⟨fun _ some => some, fun id session found => ?_, fun id action found => ?_⟩
    · exact ⟨session, Table.find?_insert?_of_find? planned found, rfl⟩
    · exact ⟨action, Table.find?_insert?_of_find? planned' found, rfl, .inl rfl⟩
  refine inv.advance forward ?_ (fun _ member => .inl member) ?_ ?_ (fun entry member => .inl ⟨entry, member, rfl⟩)
    (fun _ member => .inl member) ?_ (fun call member => .inl ⟨member, fun _ _ _ waiting => waiting⟩)
    (fun _ member => .inl member)
  · intro action member executing
    rcases (Table.mem_insert? planned').mp member with rfl | member
    · cases executing
    · exact inv.carried action member executing
  · intro action member
    rcases (Table.mem_insert? planned').mp member with rfl | member
    · exact ⟨_, Table.find?_insert?_self planned, by rw [plannedSession, agentFound]; rfl⟩
    · obtain ⟨session, found, some⟩ := inv.placed action member
      exact ⟨session, Table.find?_insert?_of_find? planned found, some⟩
  · exact fun workflow member => (inv.workflows workflow member).forward forward
  · intro call member
    rcases (Table.mem_insert? opened).mp member with rfl | member
    · refine .inr ⟨⟨_, Table.find?_insert?_self planned', rfl⟩, rfl, ?_⟩
      rintro entryId agent ⟨⟩
    · exact .inl ⟨member, fun _ _ _ waiting => waiting⟩

theorem Service.Dispatching.evaluate {callId : Nat} {verdict : PolicyEvaluationResult} {budgetCheck : Option ClockReadings}
    (inv : s.Dispatching) (taken : s.evaluate callId verdict budgetCheck = some s') : s'.Dispatching := by
  obtain ⟨call, found, phase, rfl⟩ := Service.evaluate_some taken
  refine inv.quiet rfl rfl rfl rfl rfl (fun other member => ?_) fun _ member => .inl member
  rcases Table.mem_put.mp member with ⟨before, -⟩ | ⟨rfl, -⟩
  · exact .inl before
  · have sound := inv.requests call (Table.mem_of_find? found)
    refine .inr ⟨sound.refers, sound.queued, ?_⟩
    rintro entryId agent ⟨⟩

theorem Service.Dispatching.enqueue {entryId : Nat} {message : ExecutionDispatchMessage} (inv : s.Dispatching)
    (refers : Refers s.db message) {queue : Table QueueEntry.id}
    (inserted : s.queue.insert? ⟨entryId, message, none⟩ = some queue) {requests : Table RequestCall.id}
    {decisions : Table DecisionCall.id}
    (sentBy : ∀ call ∈ requests, call ∈ s.requests ∨
      RequestSound { s with queue := queue, sent := message :: s.sent, requests := requests, decisions := decisions } call)
    (sentBy' : ∀ call ∈ decisions, call ∈ s.decisions ∨
      DecisionSound { s with queue := queue, sent := message :: s.sent, requests := requests, decisions := decisions } call) :
    { s with queue := queue, sent := message :: s.sent, requests := requests, decisions := decisions }.Dispatching := by
  refine inv.advance (Forward.refl _) ?_ (fun _ member => .inl member) inv.placed inv.workflows ?_ ?_ ?_ ?_
    fun _ member => .inl member
  · intro action member executing
    rcases inv.carried action member executing with ⟨entry, before, same⟩ | inHands
    · exact .inl ⟨entry, (Table.mem_insert? inserted).mpr (.inr before), same⟩
    · exact .inr inHands
  · intro entry member
    rcases (Table.mem_insert? inserted).mp member with rfl | before
    · exact .inr refers
    · exact .inl ⟨entry, before, rfl⟩
  · intro other member
    rcases List.mem_cons.mp member with rfl | before
    · exact .inr refers
    · exact .inl before
  · intro call member
    exact (sentBy call member).imp_left fun before =>
      ⟨before, fun _ _ _ waiting => Service.Waiting.insert waiting inserted rfl⟩
  · intro call member
    exact (sentBy' call member).imp_left fun before =>
      ⟨before, fun _ _ _ waiting => Service.Waiting.insert waiting inserted rfl⟩

theorem Service.Dispatching.enqueueRequest {callId entryId : Nat} (inv : s.Dispatching)
    (taken : s.enqueueRequest callId entryId = some s') : s'.Dispatching := by
  obtain ⟨call, verdict, agent, found, phase, sending⟩ := Service.enqueueRequest_some taken
  obtain ⟨queue, inserted, rfl⟩ := Service.enqueue_some sending
  have sound := inv.requests call (Table.mem_of_find? found)
  refine inv.enqueue sound.refers inserted (fun other member => ?_) fun _ member => .inl member
  rcases Table.mem_put.mp member with ⟨before, -⟩ | ⟨rfl, -⟩
  · exact .inl before
  · refine .inr ⟨sound.refers, sound.queued, ?_⟩
    rintro _ _ ⟨⟩
    exact Table.find?_insert?_self inserted

theorem Service.Dispatching.enqueueDecision {callId entryId : Nat} (inv : s.Dispatching)
    (taken : s.enqueueDecision callId entryId = some s') : s'.Dispatching := by
  obtain ⟨call, work, found, phase, sending⟩ := Service.enqueueDecision_some taken
  obtain ⟨queue, inserted, rfl⟩ := Service.enqueue_some sending
  have sound : WorkSound s.db .executing work := by
    have whole := inv.decisions call (Table.mem_of_find? found)
    rw [DecisionSound, phase] at whole
    exact whole
  refine inv.enqueue sound.refers inserted (fun _ member => .inl member) fun other member => ?_
  rcases Table.mem_put.mp member with ⟨before, -⟩ | ⟨rfl, -⟩
  · exact .inl before
  · exact .inr ⟨sound, Table.find?_insert?_self inserted⟩

theorem Service.Dispatching.openDecision {callId : Nat} {dto : SubmitApprovalDecisionDto} {workflowId : Guid}
    (inv : s.Dispatching) (taken : s.openDecision callId dto workflowId = some s') : s'.Dispatching := by
  obtain ⟨workflow, decisions, found, inserted, rfl⟩ := Service.openDecision_some taken
  refine inv.quiet rfl rfl rfl rfl rfl (fun _ member => .inl member) fun call member => ?_
  rcases (Table.mem_insert? inserted).mp member with rfl | before
  · exact .inr (inv.workflows workflow (Table.mem_of_find? found))
  · exact .inl before

theorem submitDecision_cases {dto : SubmitApprovalDecisionDto} {workflow : ApprovalWorkflow}
    {session : Option ExecutionSession} {action : Option ExecutionAction} {now : Nat} {phase : DecisionPhase}
    (decided : submitDecision dto workflow session action now = some phase) : ∃ decided mark error,
      phase = .approved (decisionWork workflow decided session action mark .executing error) ∨
      phase = .saving (decisionWork workflow decided session action mark .blockedByPolicy error) none := by
  unfold submitDecision at decided
  generalize (if dto.approved then workflow.approve dto.decidedByUserId dto.reason now
    else workflow.reject dto.decidedByUserId dto.reason) = outcome at decided
  obtain ⟨after, thrown⟩ := outcome
  simp only at decided
  split at decided
  · split at decided <;> obtain rfl := Option.some.inj decided
    · exact ⟨_, _, _, .inl rfl⟩
    · exact ⟨_, _, _, .inr rfl⟩
  · split at decided
    · obtain rfl := Option.some.inj decided
      exact ⟨_, _, _, .inr rfl⟩
    · cases decided

theorem decisionWork_sound {db : ExecutionDb} {workflow decided : ApprovalWorkflow} {session : Option ExecutionSession}
    (refers : Refers db ⟨workflow.sessionId, workflow.actionId⟩) (mark : ExecutionSession → ExecutionSession)
    (status : ExecutionStatus) (error : Option String) : WorkSound db status
      (decisionWork workflow decided session (db.executionActions.find? workflow.actionId) mark status error) := by
  obtain ⟨action, found, -⟩ := id refers
  refine ⟨refers, ⟨action, action.setStatus status error⟩, ?_, Table.key_of_find? found, rfl, fun started => ?_⟩
  · simp only at found
    simp [decisionWork, found]
  · refine ⟨action, ?_, started⟩
    rw [Table.key_of_find? found]
    exact found

theorem Service.Dispatching.decide {callId now : Nat} (inv : s.Dispatching) (taken : s.decide callId now = some s') :
    s'.Dispatching := by
  obtain rfl | ⟨call, workflow, phase, found, opened, decided, rfl⟩ := Service.decide_some taken
  · exact inv.quiet rfl rfl rfl rfl rfl (fun _ member => .inl member) fun _ member => .inl (Table.mem_remove.mp member).1
  · refine inv.quiet rfl rfl rfl rfl rfl (fun _ member => .inl member) fun other member => ?_
    rcases Table.mem_put.mp member with ⟨before, -⟩ | ⟨rfl, -⟩
    · exact .inl before
    · have refers : Refers s.db ⟨workflow.sessionId, workflow.actionId⟩ := by
        have whole := inv.decisions call (Table.mem_of_find? found)
        rw [DecisionSound, opened] at whole
        exact whole
      obtain ⟨_, mark, error, rfl | rfl⟩ := submitDecision_cases decided
      · exact .inr (decisionWork_sound refers mark .executing error)
      · exact .inr (decisionWork_sound refers mark .blockedByPolicy error)

/-! ## The saves -/

theorem mem_writeAction {db : ExecutionDb} (entity : Tracked ExecutionAction) {action' : ExecutionAction}
    (member : action' ∈ (db.writeAction entity).executionActions) :
    ∃ action ∈ db.executionActions, action.sessionId = action'.sessionId := by
  obtain ⟨action, before, -, rfl⟩ := Table.mem_modify (ExecutionAction.written_id entity) member
  refine ⟨action, before, ?_⟩
  split <;> rfl

theorem Service.Dispatching.saved (inv : s.Dispatching) (entity : Tracked ExecutionAction)
    (forward : Forward s.db s'.db)
    (actions : s'.db.executionActions = (s.db.writeAction entity).executionActions)
    (workflows : ∀ workflow ∈ s'.db.approvalWorkflows, Refers s.db ⟨workflow.sessionId, workflow.actionId⟩)
    (queue : s'.queue = s.queue) (sent : s'.sent = s.sent) (workers : s'.workers = s.workers)
    (committed : ∀ actionId ∈ s'.committed, actionId ∈ s.committed ∨ StartedIn s'.db actionId)
    (carries : entity.current.status = .executing → ∀ action,
      s.db.executionActions.find? entity.original.id = some action → s.Carries action.message)
    (requests : ∀ call ∈ s'.requests, call ∈ s.requests) (decisions : ∀ call ∈ s'.decisions, call ∈ s.decisions) :
    s'.Dispatching := by
  have same (message : ExecutionDispatchMessage) (before : s.Carries message) : s'.Carries message := by
    rw [Service.Carries, queue, workers]
    exact before
  have waits (entryId : Nat) (message : ExecutionDispatchMessage) (waiting : s.Waiting entryId message) :
      s'.Waiting entryId message := by
    rw [Service.Waiting, queue]
    exact waiting
  refine inv.advance forward ?_ committed ?_ (fun workflow member => (workflows workflow member).forward forward) ?_
    (fun message member => .inl (sent ▸ member)) (fun call member => .inl ⟨requests call member, fun _ _ _ => waits _ _⟩)
    (fun call member => .inl ⟨decisions call member, fun _ _ _ => waits _ _⟩) fun worker member => .inl (workers ▸ member)
  · refine nothingLost_written inv.carried actions (fun message _ before => same message before) fun action found executing => ?_
    rcases ExecutionAction.written_status entity action with kept | now
    · exact same _ (inv.carried action (Table.mem_of_find? found) (kept.symm.trans executing))
    · exact same _ (carries (now.symm.trans executing) action found)
  · refine inv.placed_forward forward fun action' member => ?_
    rw [actions] at member
    exact mem_writeAction entity member
  · exact fun entry member => .inl ⟨entry, queue ▸ member, rfl⟩

theorem Service.Waiting.carries {entryId : Nat} {message : ExecutionDispatchMessage} (waiting : s.Waiting entryId message) :
    s.Carries message := .inl ⟨_, Table.mem_of_find? waiting, rfl⟩

theorem Refers.message {db : ExecutionDb} {message : ExecutionDispatchMessage} (refers : Refers db message)
    {action : ExecutionAction} (found : db.executionActions.find? message.actionId = some action) :
    action.message = message := by
  obtain ⟨action', found', session⟩ := refers
  obtain rfl := Option.some.inj (found.symm.trans found')
  rw [ExecutionAction.message, session, Table.key_of_find? found]

theorem startedIn_writeAction (db : ExecutionDb) (entity : Tracked ExecutionAction)
    (refers : ∃ action, db.executionActions.find? entity.original.id = some action)
    (before : entity.original.status.Started → StartedIn db entity.original.id)
    (started : entity.current.status.Started) : StartedIn (db.writeAction entity) entity.original.id := by
  obtain ⟨action, found⟩ := refers
  by_cases unchanged : entity.original.status.Started
  · exact (before unchanged).forward (forward_writeAction entity started)
  · refine ⟨_, Table.find?_modify_self (ExecutionAction.written_id entity) found, ?_⟩
    have changed : entity.current.status ≠ entity.original.status := by
      intro same
      exact unchanged (same ▸ started)
    rw [ExecutionAction.written, Tracked.column, if_neg changed]
    exact started

theorem Service.Dispatching.saveRequest {callId : Nat} {now : UtcDate} {workflowId : Guid} {expiresAtUtc : Nat}
    (inv : s.Dispatching) (taken : s.saveRequest callId now workflowId expiresAtUtc = some s') : s'.Dispatching := by
  obtain ⟨call, found, ⟨verdict, agent, db, phase, saved, rfl⟩ | ⟨verdict, agent, phase, rfl⟩ |
    ⟨entryId, agent, phase, rfl⟩⟩ := Service.saveRequest_some taken
  all_goals have sound := inv.requests call (Table.mem_of_find? found)
  · simp only [ExecutionDb.saveAwaiting, Option.bind_eq_bind, Option.bind_eq_some_iff, Option.some.injEq] at saved
    obtain ⟨workflows, inserted, rfl⟩ := saved
    have forward : Forward s.db { (s.db.writeAgent agent).writeSession ⟨call.session, call.session.markAwaitingApproval⟩ with
        approvalWorkflows := workflows } :=
      ((forward_writeAgent agent).trans (forward_writeSession _)).trans (Forward.of_eq rfl rfl rfl)
    have actions : ((s.db.writeAgent agent).writeSession
        ⟨call.session, call.session.markAwaitingApproval⟩).executionActions = s.db.executionActions := by cases agent <;> rfl
    refine inv.advance forward ?_ (fun _ member => .inl member) ?_ ?_ (fun entry member => .inl ⟨entry, member, rfl⟩)
      (fun _ member => .inl member) (fun _ member => .inl ⟨(Table.mem_remove.mp member).1, fun _ _ _ waiting => waiting⟩)
      (fun _ member => .inl ⟨member, fun _ _ _ waiting => waiting⟩) fun _ member => .inl member
    · intro action member executing
      exact inv.carried action (actions ▸ member) executing
    · exact inv.placed_forward forward fun action member => ⟨action, actions ▸ member, rfl⟩
    · intro workflow member
      rcases (Table.mem_insert? inserted).mp member with rfl | before
      · exact sound.refers.forward forward
      · refine (inv.workflows workflow ?_).forward forward
        cases agent <;> exact before
  · have forward : Forward s.db (s.db.saveDenied call verdict agent now) := by
      refine ((forward_writeAgent agent).trans (forward_writeSession ⟨call.session, call.session.fail⟩)).trans
        ((forward_writeAction ⟨call.action, call.action.setStatus .blockedByPolicy (some verdict.reasoning)⟩
          (.inr rfl)).trans (Forward.of_eq rfl rfl rfl))
    refine inv.saved ⟨call.action, call.action.setStatus .blockedByPolicy (some verdict.reasoning)⟩
      forward ?_ ?_ rfl rfl rfl (fun _ member => .inl member) (by rintro ⟨⟩)
      (fun _ member => (Table.mem_remove.mp member).1) fun _ member => member
    · cases agent <;> rfl
    · cases agent <;> exact inv.workflows
  · have forward : Forward s.db (s.db.saveAllowed call agent) :=
      ((forward_writeAgent agent).trans (forward_writeSession ⟨call.session, call.session.markExecuting⟩)).trans
        (forward_writeAction ⟨call.action, call.action.setStatus .executing none⟩ (.inl rfl))
    refine inv.saved ⟨call.action, call.action.setStatus .executing none⟩
      forward ?_ ?_ rfl rfl rfl (fun actionId member => ?_) (fun _ action located => ?_)
      (fun _ member => (Table.mem_remove.mp member).1) fun _ member => member
    · cases agent <;> rfl
    · cases agent <;> exact inv.workflows
    · rcases List.mem_cons.mp member with rfl | before
      · obtain ⟨action, located, -⟩ := sound.refers
        refine .inr (startedIn_writeAction ((s.db.writeAgent agent).writeSession _)
          ⟨call.action, call.action.setStatus .executing none⟩ ⟨action, ?_⟩ ?_ (.inl rfl))
        · cases agent <;> exact located
        · rintro (executing | ended)
          · simp only at executing
            rw [sound.queued] at executing
            cases executing
          · simp only at ended
            rw [sound.queued] at ended
            cases ended
      · exact .inl before
    · rw [sound.refers.message located]
      exact (sound.waiting entryId agent phase).carries

theorem Service.Dispatching.saveDecision {callId : Nat} (inv : s.Dispatching)
    (taken : s.saveDecision callId = some s') : s'.Dispatching := by
  obtain ⟨call, work, sent, found, phase, rfl⟩ := Service.saveDecision_some taken
  have whole := inv.decisions call (Table.mem_of_find? found)
  have sound : (WorkSound s.db .executing work ∧ s.Carries work.message) ∨ WorkSound s.db .blockedByPolicy work := by
    rw [DecisionSound, phase] at whole
    cases sent with
    | none => exact .inr whole
    | some entryId => exact .inl ⟨whole.1, whole.2.carries⟩
  obtain ⟨entity, tracked, refers, key, started, before, carries⟩ : ∃ entity, work.action = some entity ∧
      Refers s.db work.message ∧ entity.original.id = work.message.actionId ∧ entity.current.status.Started ∧
      (entity.original.status.Started → StartedIn s.db entity.original.id) ∧
      (entity.current.status = .executing → s.Carries work.message) := by
    rcases sound with ⟨sound, carries⟩ | sound
    · obtain ⟨entity, tracked, key, current, before⟩ := sound.tracked
      exact ⟨entity, tracked, sound.refers, key, .inl current, before, fun _ => carries⟩
    · obtain ⟨entity, tracked, key, current, before⟩ := sound.tracked
      refine ⟨entity, tracked, sound.refers, key, .inr (by rw [current]; rfl), before, fun executing => ?_⟩
      rw [current] at executing
      cases executing
  have saved : ∃ db, Forward s.db db ∧ s.db.saveDecision work = db.writeAction entity ∧
      db.executionActions = s.db.executionActions ∧ ∀ workflow ∈ db.approvalWorkflows,
        Refers s.db ⟨workflow.sessionId, workflow.actionId⟩ := by
    have workflows : ∀ workflow ∈ s.db.approvalWorkflows.modify work.workflow.original.id
        (ApprovalWorkflow.written work.workflow), Refers s.db ⟨workflow.sessionId, workflow.actionId⟩ := by
      intro workflow member
      obtain ⟨stored, member', -, rfl⟩ := Table.mem_modify (ApprovalWorkflow.written_id work.workflow) member
      split <;> exact inv.workflows stored member'
    simp only [ExecutionDb.saveDecision, tracked]
    let marked := s.db.approvalWorkflows.modify work.workflow.original.id (ApprovalWorkflow.written work.workflow)
    let decided : ExecutionDb := { s.db with approvalWorkflows := marked }
    have moved : Forward s.db decided := Forward.of_eq rfl rfl rfl
    cases work.session with
    | none => exact ⟨decided, moved, rfl, rfl, workflows⟩
    | some session =>
      exact ⟨decided.writeSession session, moved.trans (forward_writeSession session), rfl, rfl, workflows⟩
  obtain ⟨db, forward, same, actions, workflows⟩ := saved
  rw [same]
  obtain ⟨action, located, -⟩ := id refers
  refine inv.saved entity (forward.trans (forward_writeAction entity started)) ?_ workflows rfl rfl rfl
    (fun actionId member => ?_) (fun executing action located => ?_) (fun _ member => member)
    fun _ member => (Table.mem_remove.mp member).1
  · simp only [ExecutionDb.writeAction, actions]
  · refine (List.mem_append.mp member).symm.imp_right fun dispatched => ?_
    rw [Service.DecisionWork.dispatched, tracked] at dispatched
    simp only at dispatched
    split at dispatched
    · rw [List.mem_singleton.mp dispatched]
      refine startedIn_writeAction db entity ⟨action, ?_⟩ (fun unchanged => (before unchanged).forward forward) started
      rw [actions, key]
      exact located
    · cases dispatched
  · rw [key] at located
    rw [refers.message located]
    exact carries executing

/-! ## The steps of the queue and of the worker -/

theorem Service.Dispatching.redeliver {entryId : Nat} {message : ExecutionDispatchMessage} (inv : s.Dispatching)
    (taken : s.redeliver entryId message = some s') : s'.Dispatching := by
  obtain ⟨queue, member, inserted, rfl⟩ := Service.redeliver_some taken
  refine inv.advance (Forward.refl _) ?_ (fun _ member => .inl member) inv.placed inv.workflows ?_
    (fun _ member => .inl member) (fun call member => .inl ⟨member, fun _ _ _ waiting => waiting.insert inserted rfl⟩)
    (fun call member => .inl ⟨member, fun _ _ _ waiting => waiting.insert inserted rfl⟩) fun _ member => .inl member
  · intro action member executing
    rcases inv.carried action member executing with ⟨entry, before, same⟩ | inHands
    · exact .inl ⟨entry, (Table.mem_insert? inserted).mpr (.inr before), same⟩
    · exact .inr inHands
  · intro entry member'
    rcases (Table.mem_insert? inserted).mp member' with rfl | before
    · exact .inr (inv.sent message member)
    · exact .inl ⟨entry, before, rfl⟩

theorem Service.Dispatching.marked (inv : s.Dispatching) {entry : QueueEntry} {receipt : Option Nat}
    {workers : Table Worker.id} (found : s.queue.find? entry.id = some entry)
    (free : receipt = none ∨ ¬s.Unsaved entry.id)
    (kept : ∀ worker ∈ s.workers, worker ∈ workers)
    (others : ∀ worker ∈ workers, worker ∈ s.workers ∨ WorkerSound s.db worker) :
    { s with queue := s.queue.put { entry with receipt := receipt }, workers := workers }.Dispatching := by
  have waits (entryId : Nat) (message : ExecutionDispatchMessage) (unsaved : s.Unsaved entryId)
      (waiting : s.Waiting entryId message) :
      (s.queue.put { entry with receipt := receipt }).find? entryId = some ⟨entryId, message, none⟩ := by
    rw [Service.Waiting] at waiting
    obtain ⟨id, held, hidden⟩ := entry
    by_cases here : id = entryId
    · subst here
      cases Option.some.inj (found.symm.trans waiting)
      rcases free with rfl | apart
      · exact Table.find?_put_self waiting
      · exact absurd unsaved apart
    · rw [← waiting]
      exact Table.find?_put_ne here
  refine inv.advance (Forward.refl _) ?_ (fun _ member => .inl member) inv.placed inv.workflows ?_
    (fun _ member => .inl member) ?_ ?_ others
  · intro action member executing
    rcases inv.carried action member executing with ⟨other, before, same⟩ | ⟨worker, before, phase⟩
    · by_cases here : other.id = entry.id
      · have whole : other = entry := Table.eq_of_key before (Table.mem_of_find? found) here
        subst whole
        exact .inl ⟨_, Table.mem_put.mpr (.inr ⟨rfl, other, before, rfl⟩), same⟩
      · exact .inl ⟨other, Table.mem_put.mpr (.inl ⟨before, here⟩), same⟩
    · exact .inr ⟨worker, kept worker before, phase⟩
  · intro other member
    rcases Table.mem_put.mp member with ⟨before, -⟩ | ⟨rfl, -⟩
    · exact .inl ⟨other, before, rfl⟩
    · exact .inl ⟨entry, Table.mem_of_find? found, rfl⟩
  · intro call member
    refine .inl ⟨member, fun entryId agent phase waiting => ?_⟩
    exact waits entryId _ (.inl ⟨call, member, agent, phase⟩) waiting
  · intro call member
    refine .inl ⟨member, fun work entryId phase waiting => ?_⟩
    exact waits entryId _ (.inr ⟨call, member, work, phase⟩) waiting

theorem Service.Dispatching.receive {workerId entryId : Nat} (inv : s.Dispatching)
    (inOrder : InOrder s (.receive workerId entryId)) (taken : s.receive workerId entryId = some s') : s'.Dispatching := by
  obtain ⟨entry, workers, found, -, inserted, rfl⟩ := Service.receive_some taken
  obtain ⟨-, saved⟩ := inOrder entry found
  obtain rfl := Table.key_of_find? found
  refine inv.marked found (.inr saved) (fun worker member => (Table.mem_insert? inserted).mpr (.inr member)) fun worker member => ?_
  rcases (Table.mem_insert? inserted).mp member with rfl | before
  · refine .inr ⟨?_, ?_⟩
    · rintro message phase ⟨⟩
    · rintro message phase loaded ⟨⟩
  · exact .inl before

theorem Service.Dispatching.reappear {entryId : Nat} (inv : s.Dispatching) (taken : s.reappear entryId = some s') :
    s'.Dispatching := by
  obtain ⟨entry, found, rfl⟩ := Service.reappear_some taken
  obtain rfl := Table.key_of_find? found
  exact inv.marked found (.inl rfl) (fun _ member => member) fun _ member => .inl member

theorem Service.Dispatching.worked (inv : s.Dispatching) {workers : Table Worker.id}
    (carries : ∀ action ∈ s.db.executionActions, action.status = .executing → s.Carries action.message →
      { s with workers := workers }.Carries action.message)
    (sound : ∀ worker ∈ workers, worker ∈ s.workers ∨ WorkerSound s.db worker) :
    { s with workers := workers }.Dispatching :=
  inv.advance (Forward.refl _) (fun action member executing =>
      carries action member executing (inv.carried action member executing)) (fun _ member => .inl member) inv.placed
    inv.workflows (fun entry member => .inl ⟨entry, member, rfl⟩) (fun _ member => .inl member)
    (fun _ member => .inl ⟨member, fun _ _ _ waiting => waiting⟩)
    (fun _ member => .inl ⟨member, fun _ _ _ waiting => waiting⟩) sound

theorem Service.Dispatching.endWorker {workerId : Nat} (inv : s.Dispatching)
    (free : ∀ worker message phase action, s.workers.find? workerId = some worker →
      worker.phase = .reconciling message phase → action ∈ s.db.executionActions → action.status = .executing →
      action.message = message → (s.endWorker workerId).Carries message) : (s.endWorker workerId).Dispatching := by
  refine inv.worked (fun action member executing before => ?_) fun worker member => .inl (Table.mem_remove.mp member).1
  rcases before.endWorker workerId with after | ⟨worker, phase, found, same⟩
  · exact after
  · exact free worker action.message phase action found same member executing rfl

theorem Service.Dispatching.updateWorker (inv : s.Dispatching) {worker : Worker} {message : ExecutionDispatchMessage}
    {phase phase' : ReconcilePhase} (found : s.workers.find? worker.id = some worker)
    (same : worker.phase = .reconciling message phase)
    (sound : ∀ loaded, phase'.loaded = some loaded → loaded.action.id = message.actionId ∧
      loaded.action.status = .executing ∧ (s.db.agentIdentities.find? loaded.session.agentId).isSome) :
    (s.updateWorker { worker with phase := .reconciling message phase' }).Dispatching := by
  refine inv.worked (fun _ _ _ before => before.updateWorker found same) fun other member => ?_
  rcases Table.mem_put.mp member with ⟨before, -⟩ | ⟨rfl, -⟩
  · exact .inl before
  · have refers := (inv.workers worker (Table.mem_of_find? found)).refers message phase same
    refine .inr ⟨?_, ?_⟩
    · rintro _ _ ⟨⟩
      exact refers
    · rintro _ _ loaded ⟨⟩ has
      exact sound loaded has

theorem Service.Dispatching.delete {workerId : Nat} (inv : s.Dispatching) (taken : s.delete workerId = some s') :
    s'.Dispatching := by
  obtain ⟨worker, entryId, found, received, rfl | ⟨entry, located, receipt, rfl⟩⟩ := Service.delete_some taken
  · refine inv.endWorker fun worker' message phase action found' same _ _ _ => ?_
    obtain rfl := Option.some.inj (found.symm.trans found')
    rw [received] at same
    cases same
  · obtain rfl := Table.key_of_find? found
    have waits (other : Nat) (message : ExecutionDispatchMessage) (waiting : s.Waiting other message) :
        (s.queue.remove entryId).find? other = some ⟨other, message, none⟩ := by
      have apart : other ≠ entryId := by
        rintro rfl
        rw [Option.some.inj (located.symm.trans waiting)] at receipt
        cases receipt
      refine Table.find?_eq_some.mpr ⟨Table.mem_remove.mpr ⟨Table.mem_of_find? waiting, apart⟩, rfl⟩
    refine inv.advance (Forward.refl _) ?_ (fun _ member => .inl member) inv.placed inv.workflows ?_
      (fun _ member => .inl member) (fun call member => .inl ⟨member, fun _ _ _ => waits _ _⟩)
      (fun call member => .inl ⟨member, fun _ _ _ => waits _ _⟩) ?_
    · intro action member executing
      rcases inv.carried action member executing with ⟨other, before, same⟩ | ⟨other, before, phase, same⟩
      · by_cases here : other.id = entryId
        · obtain rfl : other = entry := Table.eq_of_key before (Table.mem_of_find? located)
            (here.trans (Table.key_of_find? located).symm)
          refine .inr ⟨_, Table.mem_put.mpr (.inr ⟨rfl, worker, Table.mem_of_find? found, rfl⟩), .started, ?_⟩
          rw [same]
        · exact .inl ⟨other, Table.mem_remove.mpr ⟨before, here⟩, same⟩
      · have apart : other.id ≠ worker.id := by
          intro here
          obtain rfl : other = worker := Table.eq_of_key before (Table.mem_of_find? found) here
          rw [received] at same
          cases same
        exact .inr ⟨other, Table.mem_put.mpr (.inl ⟨before, apart⟩), phase, same⟩
    · exact fun other member => .inl ⟨other, (Table.mem_remove.mp member).1, rfl⟩
    · intro other member
      rcases Table.mem_put.mp member with ⟨before, -⟩ | ⟨rfl, -⟩
      · exact .inl before
      · refine .inr ⟨?_, ?_⟩
        · rintro _ _ ⟨⟩
          exact inv.queue entry (Table.mem_of_find? located)
        · rintro _ _ loaded ⟨⟩ ⟨⟩

theorem loadSession_executing {db : ExecutionDb} {action : ExecutionAction} {session : ExecutionSession}
    (member : action ∈ db.executionActions) (executing : action.status = .executing)
    (found : db.executionSessions.find? action.sessionId = some session) :
    loadSession db action.message = .ok ⟨session, db.actionsOf session.id, action⟩ := by
  have keyed := Table.key_of_find? found
  have referred : db.executionSessions.find? action.message.sessionId = some session := found
  have located : (db.actionsOf session.id).find? (fun other => other.id = action.message.actionId) = some action := by
    have among : action ∈ db.actionsOf session.id := mem_actionsOf.mpr ⟨member, keyed.symm⟩
    cases outcome : (db.actionsOf session.id).find? (fun other => other.id = action.message.actionId) with
    | none =>
      have missed := List.find?_eq_none.mp outcome action among
      simp [ExecutionAction.message] at missed
    | some other =>
      have member' := (mem_actionsOf.mp (List.mem_of_find?_eq_some outcome)).1
      have same : other.id = action.id := by
        have passed := List.find?_some outcome
        exact of_decide_eq_true passed
      rw [Table.eq_of_key member' member same]
  simp only [loadSession, referred, located, executing, ne_eq, not_true_eq_false, if_false]

theorem Service.Dispatching.loadSession {workerId : Nat} (inv : s.Dispatching)
    (taken : s.loadSession workerId = some s') : s'.Dispatching := by
  obtain ⟨worker, message, found, held, ⟨outcome, load, rfl⟩ | ⟨loaded, load, rfl⟩⟩ := Service.loadSession_some taken
  · refine inv.endWorker fun worker' message' phase action found' same member executing refers => ?_
    obtain rfl := Option.some.inj (found.symm.trans found')
    rw [held] at same
    cases same
    subst refers
    obtain ⟨session, placed, -⟩ := inv.placed action member
    rw [loadSession_executing member executing placed] at load
    cases load
  · obtain rfl := Table.key_of_find? found
    obtain ⟨sessionFound, -, located, session, executing⟩ := loadSession_ok load
    refine inv.updateWorker found held ?_
    rintro _ ⟨⟩
    refine ⟨Table.key_of_find? located, executing, ?_⟩
    obtain ⟨session', found', agent⟩ := inv.placed loaded.action (Table.mem_of_find? located)
    rw [session] at found'
    obtain rfl := Option.some.inj (sessionFound.symm.trans found')
    exact agent

theorem Service.Dispatching.loadAgent {workerId : Nat} (inv : s.Dispatching)
    (taken : s.loadAgent workerId = some s') : s'.Dispatching := by
  obtain ⟨worker, message, loaded, found, held, ⟨outcome, load, rfl⟩ | ⟨agent, load, rfl⟩⟩ :=
    Service.loadAgent_some taken
  all_goals
    obtain rfl := Table.key_of_find? found
    have sound := (inv.workers worker (Table.mem_of_find? found)).loaded _ _ loaded held rfl
  · obtain ⟨agent, some⟩ := Option.isSome_iff_exists.mp sound.2.2
    rw [loadAgent_ok.mpr some] at load
    cases load
  · refine inv.updateWorker found held ?_
    rintro _ ⟨⟩
    exact sound

theorem Service.Dispatching.settle {workerId : Nat} {clock : ReconcileClock} (inv : s.Dispatching)
    (taken : s.settle workerId clock = some s') : s'.Dispatching := by
  obtain ⟨worker, message, loaded, agent, found, held, rfl⟩ := Service.settle_some taken
  obtain rfl := Table.key_of_find? found
  refine inv.updateWorker found held ?_
  rintro _ ⟨⟩
  exact (inv.workers worker (Table.mem_of_find? found)).loaded _ _ loaded held rfl

theorem settle_action (loaded : LoadedSession) (agent : AgentIdentity) (clock : ReconcileClock) :
    (Execution.settle loaded agent clock).action.original = loaded.action ∧
      (Execution.settle loaded agent clock).action.current.status.ended = true := by
  rcases settle_cases loaded agent clock with ⟨-, same⟩ | ⟨-, same⟩
  · rw [same]
    exact ⟨rfl, rfl⟩
  · rw [same]
    exact ⟨rfl, rfl⟩

theorem Service.Dispatching.save {workerId : Nat} (inv : s.Dispatching) (taken : s.save workerId = some s') :
    s'.Dispatching := by
  obtain ⟨worker, message, loaded, agent, clock, found, held, rfl⟩ := Service.save_some taken
  obtain ⟨key, executing, -⟩ := (inv.workers worker (Table.mem_of_find? found)).loaded _ _ loaded held rfl
  obtain ⟨original, ended⟩ := settle_action loaded agent clock
  generalize Execution.settle loaded agent clock = work at original ended ⊢
  have forward : Forward s.db (s.db.saveChanges work) :=
    ((forward_writeAgent (some work.agent)).trans (forward_writeSession work.session)).trans
      ((forward_writeAction work.action (.inr ended)).trans (Forward.of_eq rfl rfl rfl))
  refine inv.advance forward ?_ (fun _ member => .inl member) ?_
    (fun workflow member => (inv.workflows workflow member).forward forward)
    (fun entry member => .inl ⟨entry, member, rfl⟩) (fun _ member => .inl member)
    (fun _ member => .inl ⟨member, fun _ _ _ waiting => waiting⟩)
    (fun _ member => .inl ⟨member, fun _ _ _ waiting => waiting⟩) fun _ member => .inl (Table.mem_remove.mp member).1
  · refine nothingLost_written inv.carried rfl (fun other apart before => ?_) fun action located running => ?_
    · rcases before.endWorker workerId with after | ⟨worker', phase, found', same⟩
      · exact after
      · obtain rfl := Option.some.inj (found.symm.trans found')
        rw [held] at same
        cases same
        rw [original, key] at apart
        exact absurd rfl apart
    · have changed : work.action.current.status ≠ work.action.original.status := by
        intro same
        rw [same, original, executing] at ended
        cases ended
      rw [ExecutionAction.written, Tracked.column, if_neg changed] at running
      simp only at running
      rw [running] at ended
      cases ended
  · refine inv.placed_forward forward fun action member => ?_
    exact mem_writeAction work.action member

theorem Service.Dispatching.step {label : ServiceLabel} (inv : s.Dispatching) (inOrder : InOrder s label)
    (taken : s.step label = some s') : s'.Dispatching := by
  cases label with
  | request callId dto sessionId actionId => exact inv.request taken
  | evaluate callId verdict budgetCheck => exact inv.evaluate taken
  | enqueueRequest callId entryId => exact inv.enqueueRequest taken
  | saveRequest callId now workflowId expiresAtUtc => exact inv.saveRequest taken
  | abandonRequest callId =>
    obtain rfl := Option.some.inj taken
    exact inv.quiet rfl rfl rfl rfl rfl (fun _ member => .inl (Table.mem_remove.mp member).1) fun _ member => .inl member
  | openDecision callId dto workflowId => exact inv.openDecision taken
  | decide callId now => exact inv.decide taken
  | enqueueDecision callId entryId => exact inv.enqueueDecision taken
  | saveDecision callId => exact inv.saveDecision taken
  | abandonDecision callId =>
    obtain rfl := Option.some.inj taken
    exact inv.quiet rfl rfl rfl rfl rfl (fun _ member => .inl member) fun _ member => .inl (Table.mem_remove.mp member).1
  | redeliver entryId message => exact inv.redeliver taken
  | receive workerId entryId => exact inv.receive inOrder taken
  | reappear entryId => exact inv.reappear taken
  | delete workerId => exact inv.delete taken
  | loadSession workerId => exact inv.loadSession taken
  | loadAgent workerId => exact inv.loadAgent taken
  | settle workerId clock => exact inv.settle taken
  | save workerId => exact inv.save taken
  | stop workerId =>
    obtain rfl := Option.some.inj taken
    refine inv.endWorker fun worker message phase action found held member executing same => ?_
    subst same
    exact inOrder worker _ phase action found held (Table.find?_of_mem member) executing

end Steps

/-! ## Dispatch loses nothing -/

structure Service.Unused (s : Service) : Prop where
  db : s.db.executionSessions = .empty ∧ s.db.executionActions = .empty ∧ s.db.approvalWorkflows = .empty
  queue : s.queue = .empty ∧ s.sent = []
  idle : s.requests = .empty ∧ s.decisions = .empty ∧ s.workers = .empty
  uncommitted : s.committed = []

theorem Service.Unused.dispatching {s : Service} (unused : s.Unused) : s.Dispatching where
  carried := by
    intro action member
    rw [unused.db.2.1] at member
    exact absurd member (Table.not_mem_empty action)
  committed := by simp [unused.uncommitted]
  placed := by
    rw [unused.db.2.1]
    exact fun action member => absurd member (Table.not_mem_empty action)
  workflows := by
    rw [unused.db.2.2]
    exact fun workflow member => absurd member (Table.not_mem_empty workflow)
  queue := by
    rw [unused.queue.1]
    exact fun entry member => absurd member (Table.not_mem_empty entry)
  sent := by simp [unused.queue.2]
  requests := by
    rw [unused.idle.1]
    exact fun call member => absurd member (Table.not_mem_empty call)
  decisions := by
    rw [unused.idle.2.1]
    exact fun call member => absurd member (Table.not_mem_empty call)
  workers := by
    rw [unused.idle.2.2]
    exact fun worker member => absurd member (Table.not_mem_empty worker)

theorem dispatching_of_run {s₀ s : Service} {events : List (Service × ServiceLabel)} (unused : s₀.Unused)
    (run : Run Service.step s₀ events s) (conforms : Conforms InOrder events) : s.Dispatching :=
  run.invariant _ conforms unused.dispatching fun _ _ _ inv inOrder taken => inv.step inOrder taken

theorem Service.Dispatching.takesStarted {s : Service} {label : ServiceLabel} (inv : s.Dispatching)
    (inOrder : InOrder s label) : TakesStarted s label := by
  cases label with
  | receive workerId entryId =>
    intro entry found
    exact inv.committed _ (inOrder entry found).1
  | _ => trivial

/-- While messages are received in order and no worker drops the only message of its action, every action that executes
has its message, and every message received refers to an action that is dispatched. -/
theorem dispatch_not_lost {s₀ s : Service} {events : List (Service × ServiceLabel)} (unused : s₀.Unused)
    (run : Run Service.step s₀ events s) (conforms : Conforms InOrder events) :
    NothingLost s ∧ ∀ e ∈ events, TakesStarted e.1 e.2 := by
  refine ⟨(dispatching_of_run unused run conforms).carried, fun e member => ?_⟩
  obtain ⟨before, after, s', rfl, first, -, -⟩ := run.of_mem member
  simp only [conforms_append] at conforms
  exact (dispatching_of_run unused first conforms.1).takesStarted (conforms.2 e (List.mem_cons_self ..))

section Example

def freshService : Service where
  db := {
    agentIdentities := .singleton acme
    executionSessions := .empty
    executionActions := .empty
    approvalWorkflows := .empty
    auditEvents := [] }
  queue := .empty
  requests := .empty
  decisions := .empty
  workers := .empty
  charges := .empty
  sent := []
  committed := []

theorem unused_freshService : freshService.Unused := ⟨⟨rfl, rfl, rfl⟩, ⟨rfl, rfl⟩, ⟨rfl, rfl, rfl⟩, rfl⟩

def allowed : PolicyEvaluationResult := ⟨.allow, "DefaultAllow", "Within policy."⟩

def requested : List ServiceLabel :=
  [.request 1 ⟨1, "pay_invoice", 60⟩ 1 1, .evaluate 1 allowed none, .enqueueRequest 1 1]

def takesQueued (s : Service) : ServiceLabel → Bool
  | .receive _ entryId => (s.queue.find? entryId).any fun entry =>
      (s.db.executionActions.find? entry.message.actionId).any (·.status = .queued)
  | _ => false

theorem takesQueued_early (s : Service) (label : ServiceLabel) (taken : takesQueued s label = true) :
    ¬TakesStarted s label := by
  cases label with
  | receive workerId entryId =>
    intro started
    simp only [takesQueued, Option.any_eq_true, decide_eq_true_eq] at taken
    obtain ⟨entry, found, action, located, queued⟩ := taken
    obtain ⟨action', located', status⟩ := started entry found
    obtain rfl := Option.some.inj (located.symm.trans located')
    rw [queued] at status
    rcases status with executing | ended
    · cases executing
    · cases ended
  | _ => cases taken

/-- A worker takes the message before the request has saved, and finds the action queued. The save then leaves it
executing, and its message is gone. -/
theorem dispatch_lost : freshService.Unused ∧ ∃ events s, Run Service.step freshService events s ∧
    (∃ e ∈ events, ¬TakesStarted e.1 e.2) ∧ ¬NothingLost s := by
  refine ⟨unused_freshService, ?_⟩
  obtain ⟨events, s, run, early, executing, queue, workers⟩ : ∃ events s, Run Service.step freshService events s ∧
      (events.any fun e => takesQueued e.1 e.2) = true ∧
      (s.db.executionActions.rows.any (·.status = .executing)) = true ∧ s.queue.rows = [] ∧ s.workers.rows = [] :=
    exists_run_with (requested ++ [.receive 1 1, .delete 1, .loadSession 1, .saveRequest 1 0 0 0])
      (fun events s => (events.any fun e => takesQueued e.1 e.2) = true ∧
        (s.db.executionActions.rows.any (·.status = .executing)) = true ∧ s.queue.rows = [] ∧ s.workers.rows = [])
      (by decide)
  refine ⟨events, s, run, ?_, fun carried => ?_⟩
  · obtain ⟨e, member, taken⟩ := List.any_eq_true.mp early
    exact ⟨e, member, takesQueued_early _ _ taken⟩
  · obtain ⟨action, member, status⟩ := List.any_eq_true.mp executing
    rcases carried action member (of_decide_eq_true status) with ⟨entry, held, -⟩ | ⟨worker, held, -⟩
    · rw [Table.mem_def, queue] at held
      cases held
    · rw [Table.mem_def, workers] at held
      cases held

def orderCheck (s : Service) : ServiceLabel → Bool
  | .receive _ entryId => (s.queue.find? entryId).all (fun entry => decide (entry.message.actionId ∈ s.committed)) &&
      s.requests.rows.isEmpty && s.decisions.rows.isEmpty
  | .stop _ => false
  | _ => true

theorem orderCheck_inOrder (s : Service) (label : ServiceLabel) (checked : orderCheck s label = true) :
    InOrder s label := by
  cases label with
  | receive workerId entryId =>
    intro entry found
    simp only [orderCheck, found, Option.all_some, Bool.and_eq_true, decide_eq_true_eq, List.isEmpty_iff] at checked
    obtain ⟨⟨committed, requests⟩, decisions⟩ := checked
    refine ⟨committed, ?_⟩
    rintro (⟨call, member, -⟩ | ⟨call, member, -⟩)
    · rw [Table.mem_def, requests] at member
      cases member
    · rw [Table.mem_def, decisions] at member
      cases member
  | stop workerId => cases checked
  | _ => trivial

/-- A worker that takes the message once the request has saved has it in its hands while the action executes. -/
theorem dispatch_kept_after_save : ∃ s : Service,
    (s.db.executionActions.rows.any (·.status = .executing)) = true ∧ s.queue.rows = [] ∧ NothingLost s := by
  obtain ⟨events, s, run, conforms, executing, queue⟩ : ∃ events s, Run Service.step freshService events s ∧
      Conforms InOrder events ∧ (s.db.executionActions.rows.any (·.status = .executing)) = true ∧ s.queue.rows = [] :=
    exists_conforming_run (requested ++ [.saveRequest 1 0 0 0, .receive 1 1, .delete 1, .loadSession 1]) orderCheck
      (fun s => (s.db.executionActions.rows.any (·.status = .executing)) = true ∧ s.queue.rows = [])
      orderCheck_inOrder (by decide)
  exact ⟨s, executing, queue, (dispatch_not_lost unused_freshService run conforms).1⟩

end Example

end AgentOps.Execution
