import AgentOps.EmergencyStop.Rails
import AgentOps.Payments.Calls

namespace AgentOps.EmergencyStop
open Lib Identity Payments FleetRun

/-! # What the emergency stop covers -/

variable {hashes : Hashes} {s s' : StopWorld} {orgId : OrgId} {agentId : AgentId} {stop : Stop} {call : RailCall}

theorem mem_stopsOn {db : Db} : stop ∈ stopsOn db orgId agentId ↔ stop.inForce db orgId agentId = true := by
  rw [stopsOn, List.mem_filter, and_iff_right]
  cases stop <;> simp

/-! ## Payments over x402 -/

def Unpassed (stop : Stop) : Phase → Prop
  | .locking _ _ frozen agentStatus =>
    match stop with
    | .frozen => frozen = true
    | .agent => agentStatus = .paused ∨ agentStatus = .suspended
    | .access => True
  | .locked _ | .fresh _ | .quoted _ _ | .sourced _ _ _ | .gated _ _ _ _ _ | .cleared _ _ _ _ _ | .prepared _ | .unready _ _
  | .preflighted _ | .consuming _ _ | .approved _ | .submitted _ | .settling _ | .answered _ _ => False
  | _ => True

theorem Unpassed.of_ended {phase : Phase} (ended : phase.ended = true) : Unpassed stop phase := by
  cases phase <;> trivial

theorem unended_of_callStep {state : State} {payment : Call} {event : CallEvent} {effect : Effect}
    (taken : callStep hashes state payment event = some effect) : payment.phase.ended = false := by
  cases phase : payment.phase with
  | returned | failed | crashed => cases event <;> simp [callStep, phase, Phase.ended] at taken
  | _ => rfl

theorem Unpassed.step {state : State} {payment : Call} {event : CallEvent} {effect : Effect}
    (unpassed : Unpassed stop payment.phase)
    (inForce : stop ∈ stopsOn state.db payment.auth.org_id payment.auth.agent_id)
    (unresumed : ∀ attempt reservation source hook destination,
      payment.phase = .resumingApproval attempt none reservation source → event ≠ .readApproval hook destination)
    (taken : CallStep hashes state payment event effect) : Unpassed stop effect.phase := by
  rw [mem_stopsOn] at inForce
  cases taken with
  | ends ended => exact .of_ended ended
  | findAttempt phase read =>
    rename_i db found
    cases found with
    | none => trivial
    | some row =>
      rcases afterFind_cases payment row with ended | ⟨evidence, next, -⟩
      · exact .of_ended ended
      · simp only [next]
        trivial
  | @snapshotAccount _ _ org agent phase accountFound orgFound agentFound =>
    cases stop with
    | frozen =>
      have frozen : org.frozen = true := by simpa [Stop.inForce, orgFound] using inForce
      exact frozen
    | agent =>
      have halted : agent.status = .paused ∨ agent.status = .suspended := by simpa [Stop.inForce, agentFound] using inForce
      exact halted
    | access => trivial
  | lockAccount phase free found checked =>
    obtain ⟨rfl, thawed, unpaused, unsuspended, active, access⟩ := checkActiveAccount_ok checked
    rw [phase] at unpassed
    cases stop with
    | frozen => cases thawed.symm.trans unpassed
    | agent => exact (unpassed.elim unpaused unsuspended).elim
    | access =>
      simp only [accountOf] at found
      simp [Stop.inForce, found, active, access] at inForce
  | readApproval phase => exact (unresumed _ _ _ _ _ phase rfl).elim
  | markSubmitting phase =>
    rcases phase with ⟨phase, -⟩ | phase <;> rw [phase] at unpassed <;> exact unpassed.elim
  | fresh phase | raced phase | selectQuote phase | selectSource phase | permitted phase | approvalRequested phase
  | checkLimits phase | commitPrepare phase | preflighted phase | unready phase | markRetryable phase | consumeApproval phase
  | consumed phase | simulateSettlement phase | callProvider phase | answer phase | persistEvidence phase =>
    rw [phase] at unpassed
    exact unpassed.elim
  | selectStranded | commitStranded | discover | readReservation | readSource | readEvidence | finalize => trivial

/-! ## Payments of a run -/

def payersOf (fleet : Fleet) (todo : List FleetStatement) : List AgentId :=
  fleet.orch.agentId :: fleet.analyst.agentId :: todo.flatMap fun
    | .pay hire _ => [hire.payer.agentId]
    | _ => []

def payers : FleetStage → List AgentId
  | .claim run => FleetAgents.payers run.agents
  | .trying locals todo => payersOf locals.fleet todo
  | .paying locals _ input _ todo => input.payerAgentId :: payersOf locals.fleet todo
  | _ => []

theorem payersOf_append {fleet : Fleet} {todo todo' : List FleetStatement} {payer : AgentId}
    (member : payer ∈ payersOf fleet (todo ++ todo')) : payer ∈ payersOf fleet todo ∨ payer ∈ payersOf fleet todo' := by
  simp only [payersOf, List.flatMap_append, List.mem_cons, List.mem_append] at member ⊢
  tauto

theorem payersOf_hires {fleet : Fleet} {live : String → Bool} {connection : ConnectionId} {payer : AgentId}
    (member : payer ∈ payersOf fleet (hires fleet live connection)) : payer ∈ payersOf fleet [] := by
  have hired {step : FleetItem} {payee : FleetResolvedAgent} {chain : PaymentChain}
      (member : payer ∈ payersOf fleet (hire live step fleet.orch payee chain connection)) : payer ∈ payersOf fleet [] := by
    unfold hire at member
    split at member <;> simp only [payersOf] at member ⊢ <;> simp at member ⊢ <;> tauto
  have hopped (member : payer ∈ payersOf fleet (secondHop live)) : payer ∈ payersOf fleet [] := by
    unfold secondHop at member
    split at member <;> simpa [payersOf] using member
  unfold hires at member
  rcases payersOf_append member with member | member
  · rcases payersOf_append member with member | member
    · rcases payersOf_append member with member | member
      · rcases payersOf_append member with member | member
        · rcases payersOf_append member with member | member <;> exact hired member
        · exact hopped member
      · exact hired member
    · exact hired member
  · exact member

theorem payersOf_wiring {fleet : Fleet} {dead : List String} {requireLive : Bool} {payer : AgentId}
    (member : payer ∈ payersOf fleet (wiring dead requireLive)) : payer ∈ payersOf fleet [] := by
  unfold wiring at member
  split_ifs at member <;> exact member

section Fleet

variable {db db' : FleetDb} {answer : FleetAnswer} {call call' : FleetCall}

theorem payers_tryStatement {locals : FleetLocals} {statement : FleetStatement} {todo : List FleetStatement}
    (moved : tryStatement db answer call locals todo statement = some (db', call')) :
    payers call'.stage ⊆ payersOf locals.fleet (statement :: todo) := by
  intro payer member
  have rest (member : payer ∈ payersOf locals.fleet todo) : payer ∈ payersOf locals.fleet (statement :: todo) := by
    simp only [payersOf, List.flatMap_cons, List.mem_cons, List.mem_append] at member ⊢
    tauto
  have agents (member : payer ∈ payersOf locals.fleet []) : payer ∈ payersOf locals.fleet (statement :: todo) := by
    simp only [payersOf, List.flatMap_nil, List.flatMap_cons, List.mem_cons, List.not_mem_nil, or_false] at member ⊢
    tauto
  cases statement with
  | await | resolveOrchestratorAuth | setItem | complete =>
    obtain ⟨rfl, rfl⟩ := Prod.mk.inj (Option.some.inj moved)
    exact rest member
  | append | appendPayment | appendFruit =>
    obtain ⟨db', -, same⟩ := Option.map_eq_some_iff.mp moved
    obtain ⟨rfl, rfl⟩ := Prod.mk.inj same
    exact rest member
  | probeEndpoints =>
    obtain ⟨rfl, rfl⟩ := Prod.mk.inj (Option.some.inj moved)
    exact (payersOf_append member).elim (fun wired => agents (payersOf_wiring wired)) rest
  | refuse =>
    obtain ⟨rfl, rfl⟩ := Prod.mk.inj (Option.some.inj moved)
    cases member
  | getOrgPaymentMode =>
    obtain ⟨rfl, rfl⟩ := Prod.mk.inj (Option.some.inj moved)
    exact (payersOf_append member).elim (fun hired => agents (payersOf_hires hired)) rest
  | pay hire connection =>
    obtain ⟨rfl, rfl⟩ := Prod.mk.inj (Option.some.inj moved)
    rcases List.mem_cons.mp member with rfl | member
    · simp [payersOf, FleetHire.pays]
    · exact rest member
  | findSecondHop =>
    simp only [tryStatement] at moved
    split at moved <;> obtain ⟨rfl, rfl⟩ := Prod.mk.inj (Option.some.inj moved)
    · exact rest member
    · exact rest member
  | resolveAnalystAuth =>
    obtain ⟨rfl, rfl⟩ := Prod.mk.inj (Option.some.inj moved)
    have split : payer ∈ payersOf locals.fleet [.pay locals.fleet.hop answer.connection] ∨ payer ∈ payersOf locals.fleet todo :=
      payersOf_append member
    refine split.elim (fun hop => agents ?_) rest
    simpa [payersOf, Fleet.hop] using hop

theorem required_payers {agents : FleetAgents} {fleet : Fleet} (required : agents.required = .ok fleet) :
    payersOf fleet [] = FleetAgents.payers agents := by
  obtain ⟨orch, foundOrch, required⟩ := bind_eq_ok.mp required
  obtain ⟨dataFetcher, -, required⟩ := bind_eq_ok.mp required
  obtain ⟨analyst, foundAnalyst, required⟩ := bind_eq_ok.mp required
  obtain ⟨writer, -, required⟩ := bind_eq_ok.mp required
  obtain ⟨reviewer, -, required⟩ := bind_eq_ok.mp required
  obtain rfl := Except.ok.inj required
  have here {agent : Option FleetResolvedAgent} {role : String} {found : FleetResolvedAgent}
      (required : requireAgent agent role = .ok found) : agent = some found := by
    unfold requireAgent at required
    split at required
    · cases required
    · exact congrArg some (Except.ok.inj required)
  simp [payersOf, FleetAgents.payers, here foundOrch, here foundAnalyst]

theorem payers_fleetStatement (moved : fleetStatement db answer call = some (db', call')) :
    payers call'.stage ⊆ payers call.stage ∨ call.stage = .read ∧ ∃ run,
      getFleetRun db call.input.orgId call.input.runId = .ok run ∧ run.status.opens = true ∧
        payers call'.stage = FleetAgents.payers run.agents := by
  unfold fleetStatement at moved
  split at moved
  · left
    obtain ⟨stage, caught, same⟩ := Option.map_eq_some_iff.mp moved
    obtain ⟨rfl, rfl⟩ := Prod.mk.inj same
    unfold FleetStage.caught at caught
    split at caught <;> cases caught <;> exact List.nil_subset _
  unfold doneStatement at moved
  split at moved
  · rename_i reading
    split at moved
    · obtain ⟨rfl, rfl⟩ := Prod.mk.inj (Option.some.inj moved)
      exact .inl (List.nil_subset _)
    rename_i run found
    split at moved
    case h_3 completed running =>
      obtain ⟨rfl, rfl⟩ := Prod.mk.inj (Option.some.inj moved)
      exact .inr ⟨reading, run, found, FleetRunStatus.opens_of completed running, rfl⟩
    all_goals
      obtain ⟨rfl, rfl⟩ := Prod.mk.inj (Option.some.inj moved)
      exact .inl (List.nil_subset _)
  · rename_i run claiming
    left
    rw [claiming]
    split at moved <;> obtain ⟨rfl, rfl⟩ := Prod.mk.inj (Option.some.inj moved)
    · exact List.nil_subset _
    · rename_i required
      intro payer member
      rw [payers, ← required_payers required]
      exact member
  · obtain ⟨rfl, rfl⟩ := Prod.mk.inj (Option.some.inj moved)
    exact .inl (List.nil_subset _)
  · rename_i trying
    left
    rw [trying]
    exact payers_tryStatement moved
  · rename_i locals hire input stage todo paying
    left
    rw [paying]
    obtain ⟨⟨pay, stage'⟩, -, same⟩ := Option.map_eq_some_iff.mp moved
    cases stage' with
    | finished ended outcome =>
      cases outcome with
      | error failure =>
        obtain ⟨rfl, rfl⟩ := Prod.mk.inj same
        exact List.nil_subset _
      | ok result =>
        obtain ⟨rfl, rfl⟩ := Prod.mk.inj same
        exact List.subset_cons_self _ _
    | wallet | allowlist | name | discovery | funding | delegation | signing | drawing | fetching | recording =>
      obtain ⟨rfl, rfl⟩ := Prod.mk.inj same
      exact List.Subset.refl _
  · obtain ⟨rfl, rfl⟩ := Prod.mk.inj (Option.some.inj moved)
    exact .inl (List.nil_subset _)
  · obtain ⟨db', -, same⟩ := Option.map_eq_some_iff.mp moved
    obtain ⟨rfl, rfl⟩ := Prod.mk.inj same
    exact .inl (List.nil_subset _)
  · obtain ⟨rfl, rfl⟩ := Prod.mk.inj (Option.some.inj moved)
    exact .inl (List.nil_subset _)
  · cases moved
  · cases moved

end Fleet

/-! ## Every state of a run -/

def RailOk (s : StopWorld) (call : RailCall) : Prop :=
  match call.stage with
  | .begun => ∀ request, call.rail = .intraFleet request → ∀ stop ∈ call.stops, stop ∉ call.entry.unchecked
  | .authenticated => call.entry = .runtime ∧ .agent ∉ call.stops ∧
      ∀ request, call.rail = .intraFleet request → ∀ stop ∈ call.stops, stop ∉ call.entry.unchecked
  | .x402 => call.stops ⊆ call.entry.unchecked ∧ ∀ payment ∈ s.payments.calls, payment.id = call.id →
      payment.auth = call.auth ∧ ∀ stop ∈ call.stops, Unpassed stop payment.phase
  | .paying input _ => call.stops = [] ∧ input.payerAgentId = call.auth.agent_id
  | .refused _ | .stopped => True

structure StopSound (s : StopWorld) : Prop where
  covers : StopCovers s
  lasting : StopsLast s s.payments.db
  rails : ∀ call ∈ s.rails, RailOk s call
  traced : ∀ payment ∈ s.payments.calls, ∃ call ∈ s.rails, call.id = payment.id ∧ call.stage = .x402
  topUps : ∀ call ∈ s.topUps, stopsOn call.began call.job.orgId call.job.agentId = []
  fleet : ∀ call ∈ s.fleet.calls, ∀ payer ∈ payers call.stage, stopsOn (s.begunAt call.id) call.input.orgId payer = []

theorem RailOk.same (ok : RailOk s call) (same : s'.payments.calls = s.payments.calls) :
    RailOk s' call := by
  unfold RailOk at ok ⊢
  rw [same]
  exact ok

theorem live_same (same : s'.payments.calls = s.payments.calls) : call.live s' = call.live s := by
  unfold RailCall.live
  rw [same]

theorem step_calls {state state' : State} {label : Payments.Label} (taken : step hashes state label = some state') :
    state'.calls = state.calls ∨ (∃ id event payment effect, label = .call id event ∧ state.calls.find? id = some payment ∧
      callStep hashes state payment event = some effect ∧
      state'.calls = state.calls.put { payment with phase := effect.phase }) ∨
    ∃ id auth idempotencyKey requestHash, label = .payRuntimeX402 id auth idempotencyKey requestHash := by
  cases label with
  | call id event =>
    right; left
    simp only [step] at taken
    split at taken
    · cases taken
    · rename_i payment found
      obtain ⟨effect, called, rfl⟩ := Option.map_eq_some_iff.mp taken
      exact ⟨id, event, payment, effect, rfl, found, called, rfl⟩
  | payRuntimeX402 => exact .inr (.inr ⟨_, _, _, _, rfl⟩)
  | _ =>
    left
    cases step_inversion taken
    all_goals rfl

section Fleet

variable {answer : FleetAnswer} {call : FleetCall} {id : Nat}

theorem readsAt_same {other : Nat} (found : s.fleet.calls.find? id = some call) (same : other ≠ id ∨ call.stage ≠ .read) :
    readsAt s (.statement id answer) other = s.begunAt other := by
  obtain ⟨callId, input, stage, receipts⟩ := call
  cases stage with
  | read =>
    simp only [readsAt, found]
    exact Function.update_of_ne (same.resolve_right fun unread => unread rfl) _ _
  | _ => simp only [readsAt, found]

theorem readsAt_read (found : s.fleet.calls.find? id = some call) (reading : call.stage = .read) :
    readsAt s (.statement id answer) id = s.payments.db := by
  obtain ⟨callId, input, stage, receipts⟩ := call
  subst reading
  simp only [readsAt, found]
  exact Function.update_self id _ _

theorem unchecked_read {run : FleetRunRow} (found : s.fleet.calls.find? id = some call) (reading : call.stage = .read)
    (read : getFleetRun s.fleet.db call.input.orgId call.input.runId = .ok run) (opens : run.status.opens = true) :
    unchecked s (.fleet (.statement id answer)) =
      (FleetAgents.payers run.agents).flatMap fun payer => stopsOn s.payments.db call.input.orgId payer := by
  obtain ⟨callId, input, stage, receipts⟩ := call
  subst reading
  simp [unchecked, found, read, opens, Except.toOption]

end Fleet

theorem authenticateConnection_running {db : Db} {auth : ConnectionAuthResult} (ok : authenticateConnection db auth = .ok ()) :
    .agent ∉ stopsOn db auth.org_id auth.agent_id := by
  intro halted
  rw [mem_stopsOn] at halted
  unfold authenticateConnection at ok
  split at ok
  · rename_i active
    simp only [Bool.and_eq_true, Option.any_eq_true, decide_eq_true_eq] at active
    obtain ⟨-, row, found, active⟩ := active
    simp [Stop.inForce, found, active] at halted
  · cases ok

theorem ensureNotFrozen_thawed {db : Db} {auth : ConnectionAuthResult} (ok : ensureNotFrozen db auth = .ok ()) :
    .frozen ∉ stopsOn db auth.org_id auth.agent_id := by
  intro frozen
  rw [mem_stopsOn] at frozen
  simp only [Stop.inForce] at frozen
  simp [ensureNotFrozen, frozen] at ok

namespace StopSound

theorem inForce (sound : StopSound s) (member : call ∈ s.rails) (live : call.live s = true) (covers : stop ∈ call.stops) :
    stop ∈ stopsOn s.payments.db call.auth.org_id call.auth.agent_id :=
  sound.lasting call member live covers

section Payments

variable {label : Payments.Label}

theorem called (sound : StopSound s) {id : CallId} {event : CallEvent} {payment : Call} {effect : Effect}
    (found : s.payments.calls.find? id = some payment) (taken : callStep hashes s.payments payment event = some effect) :
    ∃ call, s.rails.find? id = some call ∧ call ∈ s.rails ∧ call.stage = .x402 ∧ call.live s = true ∧
      payment.auth = call.auth ∧ call.stops ⊆ call.entry.unchecked ∧ ∀ stop ∈ call.stops, Unpassed stop payment.phase := by
  have member := Table.mem_of_find? found
  obtain ⟨call, present, named, staged⟩ := sound.traced payment member
  have ok := sound.rails call present
  rw [RailOk, staged] at ok
  obtain ⟨auth, unpassed⟩ := ok.2 payment member named.symm
  refine ⟨call, ?_, present, staged, ?_, auth, ok.1, unpassed⟩
  · rw [← Table.key_of_find? found, ← named]
    exact Table.find?_of_mem present
  · have unended := unended_of_callStep taken
    rw [RailCall.live, staged]
    simp only
    rw [named, Table.find?_of_mem member]
    simp [unended]

theorem unresumed (ok : StopOk hashes s (.payments label)) {id : CallId} {event : CallEvent} {payment : Call}
    (same : label = .call id event) (found : s.payments.calls.find? id = some payment) (located : s.rails.find? id = some call)
    (covers : stop ∈ call.stops) (among : call.stops ⊆ call.entry.unchecked) :
    ∀ attempt reservation source hook destination,
      payment.phase = .resumingApproval attempt none reservation source → event ≠ .readApproval hook destination := by
  rintro attempt reservation source hook destination phase rfl
  have none := ok.1
  rw [same] at none
  simp only [unchecked, located, found, Option.map_some, phase, List.filter_eq_nil_iff, decide_eq_true_eq] at none
  exact none stop covers (among covers)

theorem settles (sound : StopSound s) {id : CallId} {payment : Call} {effect : Effect}
    (found : s.payments.calls.find? id = some payment)
    (taken : callStep hashes s.payments payment .callProvider = some effect) (located : s.rails.find? id = some call) :
    call.stops = [] := by
  obtain ⟨other, located', -, -, -, -, -, unpassed⟩ := sound.called found taken
  obtain rfl := Option.some.inj (located'.symm.trans located)
  simp only [callStep] at taken
  split at taken
  · rename_i phase
    rw [phase] at unpassed
    exact List.eq_nil_iff_forall_not_mem.mpr fun stop covers => unpassed stop covers
  · cases taken

theorem payments_sends (sound : StopSound s) (ok : StopOk hashes s (.payments label)) {payments : State}
    (taken : step hashes s.payments label = some payments) :
    ∀ send ∈ paymentSends s label, stopsOn send.began send.orgId send.agentId = [] := by
  intro send member
  unfold paymentSends at member
  split at member
  · rename_i id
    obtain ⟨call, located, rfl⟩ := List.mem_map.mp member
    simp only [step] at taken
    split at taken
    · cases taken
    · rename_i payment found
      obtain ⟨effect, taken, -⟩ := Option.map_eq_some_iff.mp taken
      exact sound.settles found taken (Option.mem_toList.mp located)
  · obtain ⟨job, located, rfl⟩ := List.mem_map.mp member
    have none := ok.1
    simp only [unchecked, Option.mem_toList.mp located, Option.toList_some, List.flatMap_singleton] at none
    exact none
  · cases member

theorem payments_step (sound : StopSound s) (ok : StopOk hashes s (.payments label))
    (taken : stopStep hashes s (.payments label) = some s') : StopSound s' := by
  have lasts := ok.2 s' taken
  obtain ⟨payments, stepped, rfl⟩ : ∃ payments, step hashes s.payments label = some payments ∧
      { s with payments, sends := paymentSends s label ++ s.sends } = s' := by
    cases label with
    | payRuntimeX402 => cases taken
    | _ => exact Option.map_eq_some_iff.mp taken
  have covers : StopCovers { s with payments, sends := paymentSends s label ++ s.sends } := by
    intro send member
    rcases List.mem_append.mp member with new | sent
    · exact sound.payments_sends ok stepped send new
    · exact sound.covers send sent
  rcases step_calls stepped with same | ⟨id, event, payment, effect, rfl, found, called, calls⟩ | ⟨id, auth, key, hash, rfl⟩
  · refine ⟨covers, ?_, fun call member => (sound.rails call member).same same, ?_, sound.topUps, sound.fleet⟩
    · intro call member live
      exact lasts call member ((live_same same).symm.trans live)
    · intro payment member
      exact sound.traced payment (same ▸ member)
  · obtain ⟨call, located, present, staged, live, auth, among, unpassed⟩ := sound.called found called
    have paid := Table.key_of_find? found
    have named := Table.key_of_find? located
    have self : payments.calls.find? id = some { payment with phase := effect.phase } := by
      rw [calls, ← paid]
      exact Table.find?_put_self (r := { payment with phase := effect.phase }) (paid ▸ found)
    have others {other : CallId} (apart : other ≠ id) : payments.calls.find? other = s.payments.calls.find? other := by
      rw [calls]
      exact Table.find?_put_ne fun key => apart (key.symm.trans paid)
    refine ⟨covers, ?_, ?_, ?_, sound.topUps, sound.fleet⟩
    · intro other member alive
      refine lasts other member ?_
      by_cases same : other.id = id
      · obtain rfl : other = call := Option.some.inj ((Table.find?_of_mem member).symm.trans (same ▸ located))
        exact live
      · unfold RailCall.live at alive ⊢
        rwa [others same] at alive
    · intro other member
      have before := sound.rails other member
      unfold RailOk at before ⊢
      split at before
      · exact before
      · exact before
      · refine ⟨before.1, fun payment' member' named' => ?_⟩
        by_cases same : other.id = id
        · obtain rfl : other = call := Option.some.inj ((Table.find?_of_mem member).symm.trans (same ▸ located))
          obtain rfl : payment' = { payment with phase := effect.phase } := by
            have found' := Table.find?_of_mem member'
            rw [named', same, self] at found'
            exact (Option.some.inj found').symm
          refine ⟨auth, fun stop stopped => (unpassed stop stopped).step ?_ ?_ (callStep_inversion called)⟩
          · rw [auth]
            exact sound.inForce present live stopped
          · exact unresumed ok rfl found located stopped among
        · refine before.2 payment' ?_ named'
          have found' := Table.find?_of_mem member'
          rw [named', others same, ← named'] at found'
          exact Table.mem_of_find? found'
      · exact before
      · trivial
      · trivial
    · intro payment' member'
      rw [calls] at member'
      rcases Table.mem_put.mp member' with ⟨member', -⟩ | ⟨rfl, -⟩
      · exact sound.traced payment' member'
      · exact ⟨call, present, named.trans paid.symm, staged⟩
  · cases taken

end Payments

section Fleet

variable {label : FleetLabel}

theorem fleet_sends (sound : StopSound s) :
    ∀ send ∈ fleetSends s label, stopsOn send.began send.orgId send.agentId = [] := by
  intro send member
  unfold fleetSends at member
  split at member
  · split at member
    · rename_i found
      split_ifs at member
      · obtain rfl := List.mem_singleton.mp member
        rw [← Table.key_of_find? found]
        exact sound.fleet _ (Table.mem_of_find? found) _ List.mem_cons_self
      · cases member
    · cases member
  · cases member

theorem fleet_begun (sound : StopSound s) (ok : StopOk hashes s (.fleet label)) {fleet : FleetWorld}
    (stepped : fleetStep s.fleet label = some fleet) : ∀ call ∈ fleet.calls, ∀ payer ∈ payers call.stage,
      stopsOn (readsAt s label call.id) call.input.orgId payer = [] := by
  intro other member payer pays
  cases label with
  | statement id answer =>
    obtain ⟨call, call', found, moved, -, -, calls, -⟩ := fleetStep_statement stepped
    have named := Table.key_of_find? found
    obtain ⟨same, input⟩ := (fleetStatement_moved moved).input
    rw [calls] at member
    rcases Table.mem_put.mp member with ⟨member, apart⟩ | ⟨rfl, -⟩
    · rw [readsAt_same found (.inl (named ▸ same ▸ apart))]
      exact sound.fleet other member payer pays
    rw [same, named, input]
    rcases payers_fleetStatement moved with payers | ⟨reading, run, read, opens, payers⟩
    · have before := payers pays
      have unread : call.stage ≠ .read := by
        intro reading
        rw [reading] at before
        cases before
      rw [readsAt_same found (.inr unread), ← named]
      exact sound.fleet call (Table.mem_of_find? found) payer before
    · rw [payers] at pays
      rw [readsAt_read found reading]
      have none := ok.1
      rw [unchecked_read found reading read opens, List.flatMap_eq_nil_iff] at none
      exact none payer pays
  | opened id input =>
    obtain ⟨calls, inserted, rfl⟩ := Option.map_eq_some_iff.mp stepped
    rcases (Table.mem_insert? inserted).mp member with rfl | member
    · cases pays
    · exact sound.fleet other member payer pays
  | stopped id =>
    obtain ⟨call, found, rfl⟩ := Option.map_eq_some_iff.mp stepped
    rcases Table.mem_put.mp member with ⟨member, -⟩ | ⟨rfl, -⟩
    · exact sound.fleet other member payer pays
    · cases pays
  | created id orgId agents =>
    obtain ⟨db, -, rfl⟩ := Option.map_eq_some_iff.mp stepped
    exact sound.fleet other member payer pays
  | elsewhere pay landed =>
    simp only [fleetStep] at stepped
    split at stepped
    · obtain rfl := Option.some.inj stepped
      exact sound.fleet other member payer pays
    · cases stepped

theorem fleet_step (sound : StopSound s) (ok : StopOk hashes s (.fleet label))
    (taken : stopStep hashes s (.fleet label) = some s') : StopSound s' := by
  obtain ⟨fleet, stepped, rfl⟩ := Option.map_eq_some_iff.mp taken
  refine ⟨?_, sound.lasting, sound.rails, sound.traced, sound.topUps, sound.fleet_begun ok stepped⟩
  intro send member
  rcases List.mem_append.mp member with new | sent
  · exact sound.fleet_sends send new
  · exact sound.covers send sent

end Fleet

section Rails

variable {id : CallId} {stage : RailStage}

theorem begun_step {auth : ConnectionAuthResult} {entry : Entry} {rail : Rail} (sound : StopSound s)
    (ok : StopOk hashes s (.begun id auth entry rail)) (taken : stopStep hashes s (.begun id auth entry rail) = some s') :
    StopSound s' := by
  obtain ⟨rails, inserted, rfl⟩ := Option.map_eq_some_iff.mp taken
  have member {call : RailCall} : call ∈ rails ↔ _ := Table.mem_insert? inserted
  refine ⟨sound.covers, ?_, ?_, ?_, sound.topUps, sound.fleet⟩
  · intro call present live
    rcases member.mp present with rfl | old
    · exact List.Subset.refl _
    · exact sound.lasting call old live
  · intro call present
    rcases member.mp present with rfl | old
    · rintro request rfl stop covers
      have none := ok.1
      simp only [unchecked, List.filter_eq_nil_iff, decide_eq_true_eq] at none
      exact none stop covers
    · exact sound.rails call old
  · intro payment paid
    obtain ⟨call, old, traced⟩ := sound.traced payment paid
    exact ⟨call, member.mpr (.inr old), traced⟩

theorem staged (sound : StopSound s) (member : call ∈ s.rails) (apart : call.stage ≠ .x402)
    (alive : ({ call with stage } : RailCall).live s = true → call.live s = true) (ok : RailOk s { call with stage })
    (payments : s'.payments = s.payments) (rails : s'.rails = s.rails.put { call with stage }) (topUps : s'.topUps = s.topUps)
    (begunAt : s'.begunAt = s.begunAt) (fleet : s'.fleet.calls = s.fleet.calls) (covers : StopCovers s') : StopSound s' := by
  have same : s'.payments.calls = s.payments.calls := by rw [payments]
  refine ⟨covers, ?_, ?_, ?_, ?_, ?_⟩
  · intro other present live
    rw [live_same same] at live
    rw [payments]
    rcases Table.mem_put.mp (rails ▸ present) with ⟨old, -⟩ | ⟨rfl, -⟩
    · exact sound.lasting other old live
    · exact sound.lasting call member (alive live)
  · intro other present
    rcases Table.mem_put.mp (rails ▸ present) with ⟨old, -⟩ | ⟨rfl, -⟩
    · exact (sound.rails other old).same same
    · exact ok.same same
  · intro payment paid
    obtain ⟨other, old, named, x402⟩ := sound.traced payment (same ▸ paid)
    refine ⟨other, ?_, named, x402⟩
    rw [rails]
    refine Table.mem_put.mpr (.inl ⟨old, fun key => apart ?_⟩)
    rw [← Table.eq_of_key old member key, x402]
  · rw [topUps]
    exact sound.topUps
  · rw [fleet, begunAt]
    exact sound.fleet

theorem enters (sound : StopSound s) (member : call ∈ s.rails) (live : call.live s = true) (apart : call.stage ≠ .x402)
    (among : call.stops ⊆ call.entry.unchecked)
    (none : ∀ request, call.rail = .intraFleet request → ∀ stop ∈ call.stops, stop ∉ call.entry.unchecked)
    (entered : enter hashes s call = some s') : StopSound s' := by
  unfold enter at entered
  split at entered
  · obtain ⟨payments, stepped, rfl⟩ := Option.map_eq_some_iff.mp entered
    simp only [step] at stepped
    split_ifs at stepped
    obtain ⟨calls, inserted, rfl⟩ := Option.map_eq_some_iff.mp stepped
    have paying {payment : Call} : payment ∈ calls ↔ _ := Table.mem_insert? inserted
    refine ⟨sound.covers, ?_, ?_, ?_, sound.topUps, sound.fleet⟩
    · intro other present alive
      rcases Table.mem_put.mp present with ⟨old, apart⟩ | ⟨rfl, -⟩
      · refine sound.lasting other old ?_
        unfold RailCall.live at alive ⊢
        rwa [Table.find?_insert?_ne inserted apart.symm] at alive
      · exact sound.lasting call member live
    · intro other present
      rcases Table.mem_put.mp present with ⟨old, apart⟩ | ⟨rfl, -⟩
      · have before := sound.rails other old
        unfold RailOk at before ⊢
        split at before
        · exact before
        · exact before
        · refine ⟨before.1, fun payment paid named => ?_⟩
          rcases paying.mp paid with rfl | paid
          · exact (apart named.symm).elim
          · exact before.2 payment paid named
        · exact before
        · trivial
        · trivial
      · refine ⟨among, fun payment paid named => ?_⟩
        rcases paying.mp paid with rfl | paid
        · exact ⟨rfl, fun stop _ => trivial⟩
        · obtain ⟨other, old, same, x402⟩ := sound.traced payment paid
          rw [Table.eq_of_key old member (same.trans named)] at x402
          exact (apart x402).elim
    · intro payment paid
      rcases paying.mp paid with rfl | paid
      · exact ⟨_, Table.mem_put.mpr (.inr ⟨rfl, call, member, rfl⟩), rfl, rfl⟩
      · obtain ⟨other, old, named, x402⟩ := sound.traced payment paid
        refine ⟨other, Table.mem_put.mpr (.inl ⟨old, fun key => apart ?_⟩), named, x402⟩
        rw [← Table.eq_of_key old member key, x402]
  · rename_i request rail
    obtain rfl := Option.some.inj entered
    have unstopped : call.stops = [] :=
      List.eq_nil_iff_forall_not_mem.mpr fun stop covers => none request rail stop covers (among covers)
    have ok : RailOk s { call with stage := .paying (request.pays call.auth call.entry) .wallet } := ⟨unstopped, rfl⟩
    exact sound.staged member apart (by rintro ⟨⟩) ok rfl rfl rfl rfl rfl sound.covers

theorem rail_statement {answer : PayAnswer} (sound : StopSound s) (member : call ∈ s.rails)
    (moved : railStatement hashes s answer call = some s') : StopSound s' := by
  have goesOn {stage : RailStage} (apart : call.stage ≠ .x402)
      (alive : ({ call with stage } : RailCall).live s = true → call.live s = true) (ok : RailOk s { call with stage }) :
      StopSound { s with rails := s.rails.put { call with stage } } :=
    sound.staged member apart alive ok rfl rfl rfl rfl rfl sound.covers
  have refused {failure : Failure} (apart : call.stage ≠ .x402) :
      StopSound { s with rails := s.rails.put { call with stage := .refused failure } } :=
    goesOn apart (by rintro ⟨⟩) trivial
  have ok := sound.rails call member
  unfold railStatement at moved
  unfold RailOk at ok
  split at moved
  · rename_i begun
    rw [begun] at ok
    have apart : call.stage ≠ .x402 := by simp [begun]
    have live : call.live s = true := by simp [RailCall.live, begun]
    split at moved
    · rename_i runtime
      split at moved
      · obtain rfl := Option.some.inj moved
        exact refused apart
      · rename_i authenticated
        obtain rfl := Option.some.inj moved
        refine goesOn apart (fun _ => live) ⟨runtime, fun halted => ?_, ok⟩
        exact authenticateConnection_running authenticated (sound.inForce member live halted)
    · rename_i operator marketplace
      split at moved
      · obtain rfl := Option.some.inj moved
        exact refused apart
      · refine sound.enters member live apart (fun stop _ => ?_) ok moved
        rw [marketplace]
        cases stop <;> simp [Entry.unchecked]
  · rename_i authenticated
    rw [authenticated] at ok
    have apart : call.stage ≠ .x402 := by simp [authenticated]
    have live : call.live s = true := by simp [RailCall.live, authenticated]
    split at moved
    · obtain rfl := Option.some.inj moved
      exact refused apart
    · rename_i thawed
      refine sound.enters member live apart (fun stop covers => ?_) ok.2.2 moved
      rw [ok.1]
      cases stop with
      | frozen => exact (ensureNotFrozen_thawed thawed (sound.inForce member live covers)).elim
      | agent => exact (ok.2.1 covers).elim
      | access => exact List.mem_singleton_self _
  · rename_i input stage paying
    rw [paying] at ok
    obtain ⟨⟨pay, stage'⟩, -, rfl⟩ := Option.map_eq_some_iff.mp moved
    have ok' : RailOk s { call with stage := .paying input stage' } := ok
    refine sound.staged member (by simp [paying]) (by rintro ⟨⟩) ok' rfl rfl rfl rfl rfl ?_
    intro send sent
    simp only at sent
    split_ifs at sent
    · rcases List.mem_cons.mp sent with rfl | sent
      · rw [ok.2]
        exact ok.1
      · exact sound.covers send sent
    · exact sound.covers send sent
  all_goals cases moved

theorem stopped_step (sound : StopSound s) (taken : stopStep hashes s (.stopped id) = some s') : StopSound s' := by
  obtain ⟨call, found, taken⟩ := Option.bind_eq_some_iff.mp taken
  split at taken
  · cases taken
  · rename_i apart
    obtain rfl := Option.some.inj taken
    have ok : RailOk s { call with stage := .stopped } := trivial
    exact sound.staged (Table.mem_of_find? found) apart (by rintro ⟨⟩) ok rfl rfl rfl rfl rfl sound.covers

end Rails

section TopUps

variable {id : Nat}

theorem topUp_step {job : TopUpJob} (sound : StopSound s) (ok : StopOk hashes s (.topUp id job))
    (taken : stopStep hashes s (.topUp id job) = some s') : StopSound s' := by
  obtain ⟨topUps, inserted, rfl⟩ := Option.map_eq_some_iff.mp taken
  refine ⟨sound.covers, sound.lasting, sound.rails, sound.traced, fun call member => ?_, sound.fleet⟩
  rcases (Table.mem_insert? inserted).mp member with rfl | old
  · exact ok.1
  · exact sound.topUps call old

theorem topUp_statement {executed : Except Failure Hash} {call : TopUpCall} (sound : StopSound s) (member : call ∈ s.topUps)
    (moved : topUpStatement s executed call = some s') : StopSound s' := by
  have unstopped := sound.topUps call member
  have goesOn {stage : TopUpStage} : ∀ other ∈ s.topUps.put { call with stage },
      stopsOn other.began other.job.orgId other.job.agentId = [] := by
    intro other present
    rcases Table.mem_put.mp present with ⟨old, -⟩ | ⟨rfl, -⟩
    · exact sound.topUps other old
    · exact unstopped
  unfold topUpStatement at moved
  dsimp only at moved
  split at moved
  · split at moved <;> obtain rfl := Option.some.inj moved <;>
      exact ⟨sound.covers, sound.lasting, sound.rails, sound.traced, goesOn, sound.fleet⟩
  · split at moved <;> obtain rfl := Option.some.inj moved <;>
      exact ⟨sound.covers, sound.lasting, sound.rails, sound.traced, goesOn, sound.fleet⟩
  · obtain rfl := Option.some.inj moved
    refine ⟨fun send sent => ?_, sound.lasting, sound.rails, sound.traced, goesOn, sound.fleet⟩
    rcases List.mem_cons.mp sent with rfl | sent
    · exact unstopped
    · exact sound.covers send sent
  · cases moved

end TopUps

theorem step {label : StopLabel} (sound : StopSound s) (ok : StopOk hashes s label)
    (taken : stopStep hashes s label = some s') : StopSound s' := by
  cases label with
  | payments => exact sound.payments_step ok taken
  | fleet => exact sound.fleet_step ok taken
  | begun => exact sound.begun_step ok taken
  | statement =>
    obtain ⟨call, found, moved⟩ := Option.bind_eq_some_iff.mp taken
    exact sound.rail_statement (Table.mem_of_find? found) moved
  | stopped => exact sound.stopped_step taken
  | topUp => exact sound.topUp_step ok taken
  | topUpStatement =>
    obtain ⟨call, found, moved⟩ := Option.bind_eq_some_iff.mp taken
    exact sound.topUp_statement (Table.mem_of_find? found) moved

end StopSound

def StopWorld.idle (s : StopWorld) : Prop :=
  s.payments.calls.rows = [] ∧ s.fleet.calls.rows = [] ∧ s.rails.rows = [] ∧ s.topUps.rows = [] ∧ s.sends = []

instance (s : StopWorld) : Decidable s.idle := inferInstanceAs (Decidable (_ ∧ _))

theorem StopWorld.idle.sound (idle : s.idle) : StopSound s := by
  obtain ⟨payments, fleet, rails, topUps, sends⟩ := idle
  constructor
  · simp [StopCovers, sends]
  · simp [StopsLast, rails]
  · simp [Table.mem_def, rails]
  · simp [Table.mem_def, payments]
  · simp [Table.mem_def, topUps]
  · simp [Table.mem_def, fleet]

theorem stop_covers {s₀ s : StopWorld} {events : List (StopWorld × StopLabel)} (run : Run (stopStep hashes) s₀ events s)
    (idle : s₀.idle) (ok : Conforms (StopOk hashes) events) : StopCovers s :=
  (run.invariant StopSound ok idle.sound fun _ _ _ sound ok taken => sound.step ok taken).covers

section Example

def agency : StopWorld where
  payments := Workspace.state .circleWallets
  fleet := { fleetWorld with db.pay.delegations.treasuries := .singleton ⟨1, .test, .arc, ⟨8, 0⟩, true⟩ }
  rails := .empty
  topUps := .empty
  begunAt := fun _ => (Workspace.state .circleWallets).db
  sends := []

def setsAccess (status : PaymentAccessStatus) : StopLabel :=
  .payments (.setAgentPaymentAccess 1 1 { Workspace.access 50 with status })

def halts : List StopLabel :=
  [setsAccess .active, setsAccess .disabled, .payments (.freezeOrg 1), .payments (.setAgentStatus 1 1 .paused)]

def hireFetcher (entry : Entry) : List StopLabel :=
  .begun 5 Workspace.auth entry (.intraFleet ⟨2, .test, .arc, "https://DataFetcher"⟩) ::
    (List.range 10).map fun i => .statement 5 (answered [] i).toPayAnswer

def buys (id : CallId) (events : List CallEvent) : List StopLabel :=
  .begun id Workspace.auth (.marketplace 1) (.x402 "k" "request") :: .statement id (answered [] 0).toPayAnswer ::
    events.map fun event => .payments (.call id event)

/-- Each rail sends USDC in a call that began under a stop: a hire with the agent's own connection after its payment access is
disabled, and a hire on the marketplace, a run, a top-up, the funding of an escrow job and the retry of a payment under all
three stops. -/
theorem stop_missed :
    (∃ events s, Run (stopStep Workspace.hashes) agency events s ∧ ¬StopCovers s) ∧
    (∃ events s, Run (stopStep Workspace.hashes) agency events s ∧ ¬StopCovers s) ∧
    (∃ events s, Run (stopStep Workspace.hashes) agency events s ∧ ¬StopCovers s) ∧
    (∃ events s, Run (stopStep Workspace.hashes) agency events s ∧ ¬StopCovers s) ∧
    (∃ events s, Run (stopStep Workspace.hashes) agency events s ∧ ¬StopCovers s) ∧
    ∃ events s, Run (stopStep Workspace.hashes) agency events s ∧ ¬StopCovers s := by
  refine ⟨?_, ?_, ?_, ?_, ?_, ?_⟩
  · exact exists_run (setsAccess .active :: setsAccess .disabled :: hireFetcher .runtime) _ (by decide +kernel)
  · exact exists_run (halts ++ hireFetcher (.marketplace 1)) _ (by decide +kernel)
  · exact exists_run (halts ++ [.fleet (.created 1 1 roster), .fleet (executes 1 1)] ++
      (goesThrough 1 [true] 0 28).map .fleet) _ (by decide +kernel)
  · exact exists_run (halts ++ .topUp 1 ⟨1, 1, .test, .arc, 20000⟩ ::
      List.replicate 3 (.topUpStatement 1 (.ok "0x5"))) _ (by decide +kernel)
  · exact exists_run ([setsAccess .active, .payments (.createEscrowJob 1 1 ⟨1, 1, .base, 20000, 10⟩)] ++ halts ++
      [.payments (.fundEscrowJob 1 1 (.ok ()))]) _ (by decide +kernel)
  · exact exists_run (setsAccess .active :: buys 100 Workspace.prepares ++
      [.payments (.call 100 (.preflight (.error (.thrown "unreachable")))), .payments (.call 100 .markRetryable)] ++
      halts ++ buys 101 ([.selectStranded, .commitStranded, .findAttempt, .readReservation, .readSource,
        .readApproval false (.ok ())] ++ Workspace.submits (.ok Workspace.settled))) _ (by decide +kernel)

def stopCheck (s : StopWorld) (label : StopLabel) : Bool :=
  decide (unchecked s label = []) &&
    (stopStep Workspace.hashes s label).all fun s' => decide (StopsLast s s'.payments.db)

theorem stopOk_of_check {s : StopWorld} {label : StopLabel} (passes : stopCheck s label = true) :
    StopOk Workspace.hashes s label := by
  simp only [stopCheck, Bool.and_eq_true, decide_eq_true_eq, Option.all_eq_true] at passes
  exact passes

/-- A payment that an operator makes while payment access is disabled fails; a hire after it is enabled draws. -/
theorem stop_covers_hire : ∃ events s, Run (stopStep Workspace.hashes) agency events s ∧ s.sends.length = 1 ∧
    (s.payments.calls.find? 100).any (fun call => call.phase.ended) = true ∧ StopCovers s := by
  obtain ⟨events, s, run, ok, sent, ended⟩ : ∃ events s, Run (stopStep Workspace.hashes) agency events s ∧
      Conforms (StopOk Workspace.hashes) events ∧ s.sends.length = 1 ∧
        (s.payments.calls.find? 100).any (fun call => call.phase.ended) = true :=
    exists_conforming_run (setsAccess .active :: setsAccess .disabled :: buys 100 (Workspace.prepares.take 6) ++
      setsAccess .active :: hireFetcher (.marketplace 1)) stopCheck _ (fun _ _ => stopOk_of_check) (by decide +kernel)
  exact ⟨events, s, run, sent, ended, stop_covers run (by decide) ok⟩

end Example

end AgentOps.EmergencyStop
