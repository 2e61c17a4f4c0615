import AgentOps.FleetRun.Executor
import AgentOps.Payments.IntraFleetRecords

namespace AgentOps.FleetRun
open Lib Identity Payments

/-! # Payments of the steps of a run -/

structure FleetDraw where
  run_id : FleetRunId
  step : FleetItem
  txHash : Hash
  deriving DecidableEq

structure FleetWorld where
  db : FleetDb
  calls : Table FleetCall.id
  draws : List FleetDraw
  hashes : List Hash

def canonicalChecklist : Checklist :=
  [.onboard, .wire, .payDataFetcher, .payAnalyst, .secondHop, .payWriter, .payReviewer, .activity].map (⟨·, .pending⟩)

def createFleetRun (db : FleetDb) (id : FleetRunId) (orgId : OrgId) (agents : FleetAgents) : Option FleetDb :=
  (db.runs.insert? ⟨id, orgId, .planned, canonicalChecklist, agents, none, none⟩).map fun runs => { db with runs }

def FleetStage.drawn? : FleetStage → Option (FleetItem × Hash)
  | .paying _ hire _ stage _ => stage.hash.map (hire.step, ·)
  | _ => none

def newDraws (call call' : FleetCall) : List FleetDraw :=
  match call.stage.drawn?, call'.stage.drawn? with
  | none, some (step, txHash) => [⟨call.input.runId, step, txHash⟩]
  | _, _ => []

inductive FleetLabel where
  | opened (id : Nat) (input : ExecuteFleetRunInput)
  | statement (id : Nat) (answer : FleetAnswer)
  | stopped (id : Nat)
  | created (id : FleetRunId) (orgId : OrgId) (agents : FleetAgents)
  | elsewhere (pay : PayDb) (hashes : List Hash)

/-- A hash names one transaction. -/
def fleetStep (s : FleetWorld) : FleetLabel → Option FleetWorld
  | .opened id input => (s.calls.insert? ⟨id, input, .read, []⟩).map fun calls => { s with calls }
  | .statement id answer =>
    (s.calls.find? id).bind fun call =>
      let landed := answer.executed.toOption.toList
      if ∃ txHash ∈ landed, txHash ∈ s.hashes then none
      else (fleetStatement s.db answer call).map fun (db, call') =>
        { db, calls := s.calls.put call', draws := newDraws call call' ++ s.draws, hashes := landed ++ s.hashes }
  | .stopped id => (s.calls.find? id).map fun call => { s with calls := s.calls.put { call with stage := .stopped } }
  | .created id orgId agents => (createFleetRun s.db id orgId agents).map fun db => { s with db }
  | .elsewhere pay hashes =>
    if ∀ row ∈ pay.events.rows, row.tx_hash ∈ hashes ++ s.hashes then
      some { s with db := { s.db with pay }, hashes := hashes ++ s.hashes }
    else none

/-! ## What a call may still pay, and what is listed -/

def paidSteps : List FleetItem := [.payDataFetcher, .payAnalyst, .secondHop, .payWriter, .payReviewer]

def FleetStatement.steps : FleetStatement → List FleetItem
  | .pay hire _ => [hire.step]
  | .findSecondHop | .resolveAnalystAuth => [.secondHop]
  | .probeEndpoints | .getOrgPaymentMode => paidSteps
  | _ => []

def stepsOf (todo : List FleetStatement) : List FleetItem := todo.flatMap FleetStatement.steps

def FleetStage.steps : FleetStage → List FleetItem
  | .claim _ => paidSteps
  | .trying _ todo => stepsOf todo
  | .paying _ hire _ stage todo => (if stage.hash = none then [hire.step] else []) ++ stepsOf todo
  | _ => []

def listingsOf (runId : FleetRunId) (receipts : List Receipt) : List (FleetRunId × Hash) :=
  receipts.map fun receipt => (runId, receipt.txHash)

def FleetDb.listings (db : FleetDb) : List (FleetRunId × Hash) :=
  (db.runs.rows.flatMap fun row => listingsOf row.id (row.fruit.getD [])) ++
    db.run_events.rows.flatMap fun row => listingsOf row.run_id row.receipts

def FleetWorld.listings (s : FleetWorld) : List (FleetRunId × Hash) :=
  s.db.listings ++ s.calls.rows.flatMap fun call => listingsOf call.input.runId call.receipts

def BeginsAlone (s : FleetWorld) (runId : FleetRunId) : Prop :=
  (∀ draw ∈ s.draws, draw.run_id ≠ runId) ∧
    ∀ other ∈ s.calls.rows, other.input.runId = runId → other.stage.steps = []

def FleetWorld.claims (s : FleetWorld) : List (FleetRunId × Hash) :=
  s.listings ++ s.draws.map fun draw => (draw.run_id, draw.txHash)

def OfNoOther (s : FleetWorld) (runId : FleetRunId) (txHash : Hash) : Prop :=
  ∀ claim ∈ s.claims, claim.2 = txHash → claim.1 = runId

instance (s : FleetWorld) (runId : FleetRunId) : Decidable (BeginsAlone s runId) := inferInstanceAs (Decidable (_ ∧ _))

instance (s : FleetWorld) (runId : FleetRunId) (txHash : Hash) : Decidable (OfNoOther s runId txHash) :=
  inferInstanceAs (Decidable (∀ claim ∈ s.claims, claim.2 = txHash → claim.1 = runId))

/-- A step of a run causes at most one draw. -/
def StepsOnce (s : FleetWorld) : Prop := (s.draws.map fun draw => (draw.run_id, draw.step)).Nodup

instance (s : FleetWorld) : Decidable (StepsOnce s) := inferInstanceAs (Decidable (List.Nodup _))

/-- No two runs list one transaction. -/
def ListedApart (s : FleetWorld) : Prop :=
  ∀ listing ∈ s.listings, ∀ other ∈ s.listings, listing.2 = other.2 → listing.1 = other.1

instance (s : FleetWorld) : Decidable (ListedApart s) :=
  inferInstanceAs (Decidable (∀ listing ∈ s.listings, ∀ other ∈ s.listings, listing.2 = other.2 → listing.1 = other.1))

def FleetRunStatus.opens : FleetRunStatus → Bool
  | .completed | .running => false
  | _ => true

theorem FleetRunStatus.opens_of {status : FleetRunStatus} (uncompleted : status = .completed → False)
    (idle : status = .running → False) : status.opens = true := by
  cases status with
  | completed => exact (uncompleted rfl).elim
  | running => exact (idle rfl).elim
  | planned | failed | cancelled => rfl

/-- A run is begun only while it is unpaid and no other call on it may pay; a payment found for the second hop is of no
other run. -/
def FleetOk (s : FleetWorld) : FleetLabel → Prop
  | .statement id answer =>
    match s.calls.find? id with
    | none => True
    | some call =>
      match call.stage with
      | .read => ∀ run ∈ (getFleetRun s.db call.input.orgId call.input.runId).toOption, run.status.opens = true →
          BeginsAlone s call.input.runId
      | .trying locals (.findSecondHop :: _) =>
        ∀ row ∈ findRecentSecondHopTx s.db.pay call.input.orgId locals.fleet.analyst.agentId
          locals.fleet.dataFetcher.agentId answer.now, OfNoOther s call.input.runId row.tx_hash
      | _ => True
  | _ => True

variable {db db' : FleetDb} {call call' : FleetCall} {answer : FleetAnswer} {locals : FleetLocals} {s s' : FleetWorld}
  {listing : FleetRunId × Hash} {todo : List FleetStatement}

def FleetCall.lists (call : FleetCall) : List (FleetRunId × Hash) := listingsOf call.input.runId call.receipts

theorem mem_listingsOf {runId : FleetRunId} {receipts : List Receipt} :
    listing ∈ listingsOf runId receipts ↔ ∃ receipt ∈ receipts, (runId, receipt.txHash) = listing := List.mem_map

theorem FleetDb.mem_listings : listing ∈ db.listings ↔
    (∃ row ∈ db.runs, listing ∈ listingsOf row.id (row.fruit.getD [])) ∨
      ∃ row ∈ db.run_events, listing ∈ listingsOf row.run_id row.receipts := by
  simp only [FleetDb.listings, List.mem_append, List.mem_flatMap]
  rfl

theorem FleetWorld.mem_listings : listing ∈ s.listings ↔
    listing ∈ s.db.listings ∨ ∃ call ∈ s.calls, listing ∈ listingsOf call.input.runId call.receipts := by
  simp only [FleetWorld.listings, List.mem_append, List.mem_flatMap]
  rfl

theorem FleetWorld.mem_claims : listing ∈ s.claims ↔ (listing ∈ s.db.listings ∨ ∃ call ∈ s.calls, listing ∈ call.lists) ∨
    ∃ draw ∈ s.draws, (draw.run_id, draw.txHash) = listing := by
  rw [FleetWorld.claims, List.mem_append, FleetWorld.mem_listings, List.mem_map]
  rfl

theorem update_listings {update : FleetRunUpdate} (fruit : ∀ receipts ∈ update.fruit, receipts = call.receipts)
    (member : listing ∈ (updateFleetRunState db call.input update).listings) :
    listing ∈ db.listings ∨ listing ∈ call.lists := by
  rcases FleetDb.mem_listings.mp member with ⟨row, present, listed⟩ | event
  · obtain ⟨base, stood, -, rfl⟩ := Table.mem_modify (by intro row; split <;> rfl) present
    have here (listed : listing ∈ listingsOf base.id (base.fruit.getD [])) : listing ∈ db.listings ∨ listing ∈ call.lists :=
      .inl (FleetDb.mem_listings.mpr (.inl ⟨base, stood, listed⟩))
    split_ifs at listed with named
    · rcases set : update.fruit with _ | receipts
      · simp only [FleetRunUpdate.apply, set, Option.none_or] at listed
        exact here listed
      · simp only [FleetRunUpdate.apply, set, Option.some_or, Option.getD_some] at listed
        rw [fruit receipts set, ← named] at listed
        exact .inr listed
    · exact here listed
    · exact here listed
  · exact .inl (FleetDb.mem_listings.mpr (.inr event))

theorem append_listings {id : Nat} {kind : FleetEventKind} {tool : Option String} {receipts : List Receipt}
    (known : receipts ⊆ call.receipts) (appended : appendFleetRunEvent db call.input id kind tool receipts = some db')
    (member : listing ∈ db'.listings) : listing ∈ db.listings ∨ listing ∈ call.lists := by
  obtain ⟨run_events, inserted, rfl⟩ := Option.map_eq_some_iff.mp appended
  rcases FleetDb.mem_listings.mp member with run | ⟨row, present, listed⟩
  · exact .inl (FleetDb.mem_listings.mpr (.inl run))
  · rcases (Table.mem_insert? inserted).mp present with rfl | present
    · obtain ⟨receipt, among, rfl⟩ := mem_listingsOf.mp listed
      exact .inr (mem_listingsOf.mpr ⟨receipt, known among, rfl⟩)
    · exact .inl (FleetDb.mem_listings.mpr (.inr ⟨row, present, listed⟩))

theorem append_pay {id : Nat} {kind : FleetEventKind} {tool : Option String} {receipts : List Receipt}
    {input : ExecuteFleetRunInput} (appended : appendFleetRunEvent db input id kind tool receipts = some db') :
    db'.pay = db.pay := by
  obtain ⟨run_events, -, rfl⟩ := Option.map_eq_some_iff.mp appended
  rfl

/-! ## Statements -/

inductive FleetMoved (db : FleetDb) (answer : FleetAnswer) (call : FleetCall) : FleetDb → FleetCall → Prop where
  | begins {run : FleetRunRow} (reading : call.stage = .read)
      (found : getFleetRun db call.input.orgId call.input.runId = .ok run) (opens : run.status.opens = true) :
      FleetMoved db answer call db { call with stage := .claim run }
  | goesOn {db' : FleetDb} {stage : FleetStage} (steps : stage.steps.Sublist call.stage.steps) (undrawn : stage.drawn? = none)
      (pay : db'.pay = db.pay) (listings : ∀ listing ∈ db'.listings, listing ∈ db.listings ∨ listing ∈ call.lists) :
      FleetMoved db answer call db' { call with stage }
  | pays {pay : PayDb} {locals : FleetLocals} {hire : FleetHire} {input : PayIntraFleetInput} {stage stage' : PayStage}
      {todo : List FleetStatement} (paying : call.stage = .paying locals hire input stage todo)
      (moved : PayMoved db.pay input answer.toPayAnswer stage pay stage') :
      FleetMoved db answer call { db with pay } { call with stage := .paying locals hire input stage' todo }
  | failed {pay : PayDb} {locals : FleetLocals} {hire : FleetHire} {input : PayIntraFleetInput} {stage stage' : PayStage}
      {todo : List FleetStatement} {failure : Failure} (paying : call.stage = .paying locals hire input stage todo)
      (moved : PayMoved db.pay input answer.toPayAnswer stage pay stage') :
      FleetMoved db answer call { db with pay } { call with stage := .failing locals.checklist failure }
  | paid {pay : PayDb} {locals : FleetLocals} {hire : FleetHire} {input : PayIntraFleetInput} {stage stage' : PayStage}
      {todo : List FleetStatement} {receipt : Receipt} (paying : call.stage = .paying locals hire input stage todo)
      (moved : PayMoved db.pay input answer.toPayAnswer stage pay stage') (drew : stage.hash = some receipt.txHash) :
      FleetMoved db answer call { db with pay }
        { call with stage := .trying locals todo, receipts := call.receipts ++ [receipt] }
  | found {locals : FleetLocals} {todo : List FleetStatement} {row : IntraFleetEventRow} {receipt : Receipt}
      (finding : call.stage = .trying locals (.findSecondHop :: todo))
      (found : findRecentSecondHopTx db.pay call.input.orgId locals.fleet.analyst.agentId locals.fleet.dataFetcher.agentId
        answer.now = some row) (same : receipt.txHash = row.tx_hash) :
      FleetMoved db answer call db { call with stage := .trying locals todo, receipts := call.receipts ++ [receipt] }

@[simp] theorem stepsOf_nil : stepsOf [] = [] := rfl

@[simp] theorem stepsOf_cons {statement : FleetStatement} : stepsOf (statement :: todo) = statement.steps ++ stepsOf todo :=
  List.flatMap_cons

@[simp] theorem stepsOf_append {todo' : List FleetStatement} : stepsOf (todo ++ todo') = stepsOf todo ++ stepsOf todo' :=
  List.flatMap_append

theorem stepsOf_hire {live : String → Bool} {step : FleetItem} {orch payee : FleetResolvedAgent} {chain : PaymentChain}
    {connection : ConnectionId} :
    (stepsOf (hire live step orch payee chain connection)).Sublist [step] := by
  unfold hire
  split <;> simp [FleetStatement.steps]

theorem stepsOf_secondHop {live : String → Bool} : (stepsOf (secondHop live)).Sublist [.secondHop] := by
  unfold secondHop
  split <;> simp [FleetStatement.steps]

theorem stepsOf_hires {fleet : Fleet} {live : String → Bool} {connection : ConnectionId} :
    (stepsOf (hires fleet live connection)).Sublist paidSteps := by
  simp only [hires, stepsOf_append]
  have rest : stepsOf conclusion = [] := rfl
  rw [rest, List.append_nil]
  exact (((stepsOf_hire.append stepsOf_hire).append stepsOf_secondHop).append stepsOf_hire).append stepsOf_hire

theorem stepsOf_wiring {dead : List String} {requireLive : Bool} :
    stepsOf (wiring dead requireLive) = paidSteps := by
  unfold wiring
  split_ifs <;> rfl

theorem goesOn_same {stage : FleetStage} (steps : stage.steps.Sublist call.stage.steps) (undrawn : stage.drawn? = none) :
    FleetMoved db answer call db { call with stage } :=
  .goesOn steps undrawn rfl fun _ member => .inl member

theorem tryStatement_moved {statement : FleetStatement} (trying : call.stage = .trying locals (statement :: todo))
    (moved : tryStatement db answer call locals todo statement = some (db', call')) :
    FleetMoved db answer call db' call' := by
  have onward {locals : FleetLocals} {todo' : List FleetStatement}
      (fewer : (stepsOf todo').Sublist (statement.steps ++ stepsOf todo)) :
      (FleetStage.trying locals todo').steps.Sublist call.stage.steps := by
    rw [trying]
    simpa only [FleetStage.steps, stepsOf_cons] using fewer
  have next {locals : FleetLocals} : (FleetStage.trying locals todo).steps.Sublist call.stage.steps :=
    onward (List.sublist_append_right _ _)
  cases statement with
  | await | resolveOrchestratorAuth =>
    obtain ⟨rfl, rfl⟩ := Prod.mk.inj (Option.some.inj moved)
    exact goesOn_same next rfl
  | append =>
    obtain ⟨db', appended, same⟩ := Option.map_eq_some_iff.mp moved
    obtain ⟨rfl, rfl⟩ := Prod.mk.inj same
    exact .goesOn next rfl (append_pay appended) fun _ => append_listings (List.nil_subset _) appended
  | setItem =>
    obtain ⟨rfl, rfl⟩ := Prod.mk.inj (Option.some.inj moved)
    exact .goesOn next rfl rfl fun _ => update_listings (by simp)
  | probeEndpoints =>
    obtain ⟨rfl, rfl⟩ := Prod.mk.inj (Option.some.inj moved)
    refine goesOn_same (onward ?_) rfl
    rw [stepsOf_append, stepsOf_wiring]
    exact .refl _
  | refuse =>
    obtain ⟨rfl, rfl⟩ := Prod.mk.inj (Option.some.inj moved)
    exact goesOn_same (List.nil_sublist _) rfl
  | getOrgPaymentMode =>
    obtain ⟨rfl, rfl⟩ := Prod.mk.inj (Option.some.inj moved)
    refine goesOn_same (onward ?_) rfl
    rw [stepsOf_append]
    exact stepsOf_hires.append (.refl _)
  | pay hire connection =>
    obtain ⟨rfl, rfl⟩ := Prod.mk.inj (Option.some.inj moved)
    refine goesOn_same ?_ rfl
    rw [trying]
    exact .refl _
  | findSecondHop =>
    simp only [tryStatement] at moved
    split at moved
    · obtain ⟨rfl, rfl⟩ := Prod.mk.inj (Option.some.inj moved)
      exact goesOn_same (onward (.refl _)) rfl
    · rename_i row found
      obtain ⟨rfl, rfl⟩ := Prod.mk.inj (Option.some.inj moved)
      exact .found trying found rfl
  | resolveAnalystAuth =>
    obtain ⟨rfl, rfl⟩ := Prod.mk.inj (Option.some.inj moved)
    exact goesOn_same (onward (.refl _)) rfl
  | appendPayment =>
    obtain ⟨db', appended, same⟩ := Option.map_eq_some_iff.mp moved
    obtain ⟨rfl, rfl⟩ := Prod.mk.inj same
    refine .goesOn next rfl (append_pay appended) fun _ => append_listings ?_ appended
    intro receipt member
    exact List.mem_of_getLast? (Option.mem_toList.mp member)
  | appendFruit =>
    obtain ⟨db', appended, same⟩ := Option.map_eq_some_iff.mp moved
    obtain ⟨rfl, rfl⟩ := Prod.mk.inj same
    exact .goesOn next rfl (append_pay appended) fun _ => append_listings (List.Subset.refl _) appended
  | complete =>
    obtain ⟨rfl, rfl⟩ := Prod.mk.inj (Option.some.inj moved)
    exact .goesOn next rfl rfl fun _ => update_listings (by simp)

theorem doneStatement_moved (moved : doneStatement db answer call = some (db', call')) : FleetMoved db answer call db' call' := by
  unfold doneStatement at moved
  split at moved
  · rename_i reading
    split at moved
    · obtain ⟨rfl, rfl⟩ := Prod.mk.inj (Option.some.inj moved)
      exact goesOn_same (List.nil_sublist _) rfl
    rename_i run found
    split at moved
    case h_3 completed running =>
      obtain ⟨rfl, rfl⟩ := Prod.mk.inj (Option.some.inj moved)
      exact .begins reading found (FleetRunStatus.opens_of completed running)
    all_goals
      obtain ⟨rfl, rfl⟩ := Prod.mk.inj (Option.some.inj moved)
      exact goesOn_same (List.nil_sublist _) rfl
  · rename_i run claiming
    split at moved <;> obtain ⟨rfl, rfl⟩ := Prod.mk.inj (Option.some.inj moved)
    · exact .goesOn (List.nil_sublist _) rfl rfl fun _ => update_listings (by simp)
    · refine .goesOn ?_ rfl rfl fun _ => update_listings (by simp)
      rw [claiming]
      exact .refl _
  · obtain ⟨rfl, rfl⟩ := Prod.mk.inj (Option.some.inj moved)
    exact goesOn_same (List.nil_sublist _) rfl
  · rename_i trying
    exact tryStatement_moved trying moved
  · rename_i locals hire input stage todo paying
    obtain ⟨⟨pay, stage'⟩, statement, same⟩ := Option.map_eq_some_iff.mp moved
    have payment := (payStatement_moved statement).2
    cases stage' with
    | finished ended outcome =>
      cases outcome with
      | error failure =>
        obtain ⟨rfl, rfl⟩ := Prod.mk.inj same
        exact .failed paying payment
      | ok result =>
        obtain ⟨rfl, rfl⟩ := Prod.mk.inj same
        exact .paid paying payment (payStatement_result statement)
    | wallet | allowlist | name | discovery | funding | delegation | signing | drawing | fetching | recording =>
      obtain ⟨rfl, rfl⟩ := Prod.mk.inj same
      exact .pays paying payment
  · obtain ⟨rfl, rfl⟩ := Prod.mk.inj (Option.some.inj moved)
    exact .goesOn (List.nil_sublist _) rfl rfl fun _ => update_listings (by simp)
  · obtain ⟨db', appended, same⟩ := Option.map_eq_some_iff.mp moved
    obtain ⟨rfl, rfl⟩ := Prod.mk.inj same
    exact .goesOn (List.nil_sublist _) rfl (append_pay appended) fun _ => append_listings (List.Subset.refl _) appended
  · obtain ⟨rfl, rfl⟩ := Prod.mk.inj (Option.some.inj moved)
    exact goesOn_same (List.nil_sublist _) rfl
  · cases moved
  · cases moved

theorem fleetStatement_moved (moved : fleetStatement db answer call = some (db', call')) :
    FleetMoved db answer call db' call' := by
  unfold fleetStatement at moved
  split at moved
  · obtain ⟨stage, caught, same⟩ := Option.map_eq_some_iff.mp moved
    obtain ⟨rfl, rfl⟩ := Prod.mk.inj same
    unfold FleetStage.caught at caught
    split at caught <;> cases caught <;> exact goesOn_same (List.nil_sublist _) rfl
  · exact doneStatement_moved moved

theorem drawn_paying {hire : FleetHire} {input : PayIntraFleetInput} {stage : PayStage} {txHash : Hash}
    (paying : call.stage = .paying locals hire input stage todo) (drew : stage.hash = some txHash) :
    call.stage.drawn? = some (hire.step, txHash) := by
  simp [paying, FleetStage.drawn?, drew]

namespace FleetMoved

theorem input (moved : FleetMoved db answer call db' call') : call'.id = call.id ∧ call'.input = call.input := by
  cases moved <;> exact ⟨rfl, rfl⟩

theorem steps (moved : FleetMoved db answer call db' call') : call'.stage.steps.Sublist call.stage.steps ∨
    call.stage = .read ∧ call'.stage.steps = paidSteps ∧
      ∃ run, getFleetRun db call.input.orgId call.input.runId = .ok run ∧ run.status.opens = true := by
  cases moved with
  | begins reading found opens => exact .inr ⟨reading, rfl, _, found, opens⟩
  | goesOn steps => exact .inl steps
  | @pays _ _ _ _ _ stage' _ paying moved =>
    left
    rw [paying]
    refine .append ?_ (.refl _)
    rcases moved.hash with same | ⟨none, txHash, -, drew⟩
    · rw [same]
    · rw [drew]
      exact List.nil_sublist _
  | failed => exact .inl (List.nil_sublist _)
  | paid paying =>
    left
    rw [paying]
    exact List.sublist_append_right _ _
  | found finding =>
    left
    rw [finding]
    exact List.sublist_cons_self _ _

theorem draws (moved : FleetMoved db answer call db' call') : newDraws call call' = [] ∨
    ∃ step txHash, answer.executed = .ok txHash ∧ newDraws call call' = [⟨call.input.runId, step, txHash⟩] ∧
      call.stage.steps = step :: call'.stage.steps := by
  cases moved with
  | begins reading =>
    left
    simp [newDraws, FleetStage.drawn?]
  | goesOn _ undrawn =>
    left
    simp [newDraws, undrawn]
  | @pays _ _ hire _ _ _ _ paying moved =>
    rcases moved.hash with same | ⟨none, txHash, executed, drew⟩
    · left
      unfold newDraws
      rw [paying]
      simp only [FleetStage.drawn?, same]
      split
      · rename_i undrawn drew
        cases undrawn.symm.trans drew
      · rfl
    · refine .inr ⟨hire.step, txHash, executed, ?_, ?_⟩
      · simp [newDraws, paying, FleetStage.drawn?, none, drew]
      · simp [paying, FleetStage.steps, none, drew]
  | failed | paid | found =>
    left
    simp [newDraws, FleetStage.drawn?]

theorem drew (moved : FleetMoved db answer call db' call') {step : FleetItem} {txHash : Hash}
    (drawn : call'.stage.drawn? = some (step, txHash)) :
    call.stage.drawn? = some (step, txHash) ∨ ⟨call.input.runId, step, txHash⟩ ∈ newDraws call call' := by
  cases before : call.stage.drawn? with
  | none =>
    right
    simp [newDraws, before, drawn]
  | some drawn' =>
    left
    cases moved with
    | begins | failed | paid | found => cases drawn
    | goesOn _ undrawn => cases undrawn.symm.trans drawn
    | pays paying moved =>
      rcases moved.hash with same | ⟨none, -⟩
      · rw [← before, paying]
        simpa only [FleetStage.drawn?, same] using drawn
      · simp [paying, FleetStage.drawn?, none] at before

theorem events (moved : FleetMoved db answer call db' call') {row : IntraFleetEventRow} (member : row ∈ db'.pay.events) :
    row ∈ db.pay.events ∨ ∃ step, call.stage.drawn? = some (step, row.tx_hash) := by
  cases moved with
  | begins | found => exact .inl member
  | goesOn _ _ same => exact .inl (same ▸ member)
  | pays paying moved | failed paying moved | paid paying moved =>
    exact (moved.events member).imp_right fun drew => ⟨_, drawn_paying paying drew⟩

theorem lists (moved : FleetMoved db answer call db' call') (member : listing ∈ db'.listings ∨ listing ∈ call'.lists) :
    (listing ∈ db.listings ∨ listing ∈ call.lists) ∨ listing.1 = call.input.runId ∧
      ((∃ step, call.stage.drawn? = some (step, listing.2)) ∨ ∃ locals todo row,
        call.stage = .trying locals (.findSecondHop :: todo) ∧ row.tx_hash = listing.2 ∧
        findRecentSecondHopTx db.pay call.input.orgId locals.fleet.analyst.agentId locals.fleet.dataFetcher.agentId
          answer.now = some row) := by
  have pushed {receipt : Receipt}
      (member : listing ∈ db.listings ∨ listing ∈ listingsOf call.input.runId (call.receipts ++ [receipt])) :
      (listing ∈ db.listings ∨ listing ∈ call.lists) ∨ (call.input.runId, receipt.txHash) = listing := by
    simpa only [listingsOf, List.map_append, List.mem_append, List.map_singleton, List.mem_singleton, or_assoc,
      FleetCall.lists, eq_comm] using member
  cases moved with
  | begins | pays | failed => exact .inl member
  | goesOn _ _ _ listings => exact .inl (member.elim (listings _) .inr)
  | paid paying _ drew =>
    refine (pushed member).imp_right ?_
    rintro rfl
    exact ⟨rfl, .inl ⟨_, drawn_paying paying drew⟩⟩
  | found finding found same =>
    refine (pushed member).imp_right ?_
    rintro rfl
    exact ⟨rfl, .inr ⟨_, _, _, finding, same.symm, found⟩⟩

end FleetMoved

/-! ## Runs -/

structure FleetSound (s : FleetWorld) : Prop where
  landed : ∀ claim ∈ s.claims, claim.2 ∈ s.hashes
  events : ∀ row ∈ s.db.pay.events, row.tx_hash ∈ s.hashes
  exclusive : ∀ call ∈ s.calls, ∀ other ∈ s.calls, call.input.runId = other.input.runId → call.stage.steps ≠ [] →
    other.stage.steps ≠ [] → call.id = other.id
  ahead : ∀ call ∈ s.calls, ∀ draw ∈ s.draws, draw.run_id = call.input.runId → draw.step ∉ call.stage.steps
  nodup : ∀ call ∈ s.calls, call.stage.steps.Nodup
  once : StepsOnce s
  drew : ∀ call ∈ s.calls, ∀ step txHash, call.stage.drawn? = some (step, txHash) →
    ⟨call.input.runId, step, txHash⟩ ∈ s.draws
  alone : ∀ claim ∈ s.claims, ∀ other ∈ s.claims, claim.2 = other.2 → claim.1 = other.1

theorem fleetStep_statement {id : Nat} (taken : fleetStep s (.statement id answer) = some s') : ∃ call call',
    s.calls.find? id = some call ∧ fleetStatement s.db answer call = some (s'.db, call') ∧
      (∀ txHash, answer.executed = .ok txHash → txHash ∉ s.hashes ∧ txHash ∈ s'.hashes) ∧
      (∀ txHash ∈ s.hashes, txHash ∈ s'.hashes) ∧ s'.calls = s.calls.put call' ∧
      s'.draws = newDraws call call' ++ s.draws := by
  obtain ⟨call, found, taken⟩ := Option.bind_eq_some_iff.mp taken
  simp only at taken
  split at taken
  · cases taken
  · rename_i fresh
    obtain ⟨⟨db, call'⟩, moved, rfl⟩ := Option.map_eq_some_iff.mp taken
    refine ⟨call, call', found, moved, fun txHash executed => ⟨fun landed => fresh ⟨txHash, ?_, landed⟩, ?_⟩,
      fun txHash landed => List.mem_append_right _ landed, rfl, rfl⟩
    · simp [executed, Except.toOption]
    · simp [executed, Except.toOption]

theorem alone_of_new {runId : FleetRunId} (alone : ∀ claim ∈ s.claims, ∀ other ∈ s.claims, claim.2 = other.2 → claim.1 = other.1)
    (new : ∀ claim ∈ s'.claims, claim ∈ s.claims ∨ claim.1 = runId ∧ OfNoOther s runId claim.2) :
    ∀ claim ∈ s'.claims, ∀ other ∈ s'.claims, claim.2 = other.2 → claim.1 = other.1 := by
  intro claim member other member' same
  rcases new claim member with stood | ⟨named, free⟩ <;> rcases new other member' with stood' | ⟨named', free'⟩
  · exact alone claim stood other stood' same
  · exact (free' claim stood same).trans named'.symm
  · exact named.trans (free other stood' same.symm).symm
  · exact named.trans named'.symm

theorem findRecentSecondHopTx_mem {pay : PayDb} {orgId : OrgId} {analyst dataFetcher : AgentId} {now : Time}
    {row : IntraFleetEventRow} (found : findRecentSecondHopTx pay orgId analyst dataFetcher now = some row) :
    row ∈ pay.events :=
  (List.mem_filter.mp (List.argmax_mem (Option.filter_eq_some_iff.mp found).1)).1

namespace FleetSound

theorem drawn_claimed (sound : FleetSound s) (member : call ∈ s.calls) {step : FleetItem} {txHash : Hash}
    (drawn : call.stage.drawn? = some (step, txHash)) : (call.input.runId, txHash) ∈ s.claims :=
  FleetWorld.mem_claims.mpr (.inr ⟨_, sound.drew call member step txHash drawn, rfl⟩)

theorem claimed {id : Nat} (sound : FleetSound s) (ok : FleetOk s (.statement id answer))
    (taken : fleetStep s (.statement id answer) = some s') (found : s.calls.find? id = some call) :
    ∀ claim ∈ s'.claims, claim ∈ s.claims ∨
      claim.1 = call.input.runId ∧ OfNoOther s call.input.runId claim.2 ∧ claim.2 ∈ s'.hashes := by
  obtain ⟨call, call', found', moved, landed, kept, calls, draws⟩ := fleetStep_statement taken
  obtain rfl := Option.some.inj (found'.symm.trans found)
  have member := Table.mem_of_find? found
  have moved := fleetStatement_moved moved
  intro claim claimed
  rcases FleetWorld.mem_claims.mp claimed with listed | ⟨draw, drew, rfl⟩
  · have here : (∃ other ∈ s.calls, claim ∈ other.lists) ∨ claim ∈ s'.db.listings ∨ claim ∈ call'.lists := by
      rcases listed with listed | ⟨other, present, listed⟩
      · exact .inr (.inl listed)
      · rw [calls] at present
        rcases Table.mem_put.mp present with ⟨present, -⟩ | ⟨rfl, -⟩
        · exact .inl ⟨other, present, listed⟩
        · exact .inr (.inr listed)
    rcases here with stood | here
    · exact .inl (FleetWorld.mem_claims.mpr (.inl (.inr stood)))
    rcases moved.lists here with stood | ⟨named, ⟨step, drawn⟩ | ⟨locals, todo, row, finding, same, found'⟩⟩
    · exact .inl (FleetWorld.mem_claims.mpr (.inl (stood.imp_right fun listed => ⟨call, member, listed⟩)))
    · left
      have stood := sound.drawn_claimed member drawn
      rwa [← named] at stood
    · right
      simp only [FleetOk, found, finding] at ok
      rw [← same]
      exact ⟨named, ok row found', kept _ (sound.events row (findRecentSecondHopTx_mem found'))⟩
  · rw [draws] at drew
    rcases List.mem_append.mp drew with new | stood
    · rcases moved.draws with none | ⟨step, txHash, executed, new', -⟩
      · rw [none] at new
        cases new
      · rw [new', List.mem_singleton] at new
        obtain rfl := new
        refine .inr ⟨rfl, fun other stood same => ?_, (landed txHash executed).2⟩
        have before := sound.landed other stood
        rw [same] at before
        exact ((landed txHash executed).1 before).elim
    · exact .inl (FleetWorld.mem_claims.mpr (.inr ⟨draw, stood, rfl⟩))

theorem statement {id : Nat} (sound : FleetSound s) (ok : FleetOk s (.statement id answer))
    (taken : fleetStep s (.statement id answer) = some s') : FleetSound s' := by
  obtain ⟨call, call', found, moved, landed, kept, calls, draws⟩ := fleetStep_statement taken
  have claimed := sound.claimed ok taken found
  have member := Table.mem_of_find? found
  have moved := fleetStatement_moved moved
  obtain ⟨sameId, sameInput⟩ := moved.input
  have others {other : FleetCall} (present : other ∈ s'.calls) : (other ∈ s.calls ∧ other.id ≠ call.id) ∨ other = call' := by
    rw [calls] at present
    rcases Table.mem_put.mp present with ⟨present, apart⟩ | ⟨rfl, -⟩
    · exact .inl ⟨present, sameId ▸ apart⟩
    · exact .inr rfl
  have begun : call'.stage.steps.Sublist call.stage.steps ∨
      call'.stage.steps = paidSteps ∧ BeginsAlone s call.input.runId := by
    refine moved.steps.imp_right ?_
    rintro ⟨reading, steps, run, run_found, opens⟩
    simp only [FleetOk, found, reading] at ok
    exact ⟨steps, ok run (by simp [run_found, Except.toOption]) opens⟩
  have apart {other : FleetCall} (present : other ∈ s.calls) (distinct : other.id ≠ call.id)
      (run : other.input.runId = call.input.runId) (pays : other.stage.steps ≠ []) : call'.stage.steps = [] := by
    rcases begun with fewer | ⟨-, -, idle⟩
    · by_contra ahead
      refine distinct (sound.exclusive other present call member run pays fun none => ahead ?_)
      rw [none] at fewer
      exact List.sublist_nil.mp fewer
    · exact (pays (idle other present run)).elim
  refine ⟨?_, ?_, ?_, ?_, ?_, ?_, ?_, ?_⟩
  · intro claim present
    rcases claimed claim present with stood | ⟨-, -, landed⟩
    · exact kept _ (sound.landed claim stood)
    · exact landed
  · intro row present
    rcases moved.events present with stood | ⟨step, drawn⟩
    · exact kept _ (sound.events row stood)
    · exact kept _ (sound.landed _ (sound.drawn_claimed member drawn))
  · intro one present other present' run pays pays'
    rcases others present with ⟨present, distinct⟩ | rfl <;> rcases others present' with ⟨present', distinct'⟩ | rfl
    · exact sound.exclusive one present other present' run pays pays'
    · exact (pays' (apart present distinct (run.trans (congrArg _ sameInput)) pays)).elim
    · exact (pays (apart present' distinct' (run.symm.trans (congrArg _ sameInput)) pays')).elim
    · rfl
  · intro other present draw drew run
    rw [draws] at drew
    rcases List.mem_append.mp drew with new | stood
    · rcases moved.draws with none | ⟨step, txHash, -, new', ahead⟩
      · rw [none] at new
        cases new
      · rw [new', List.mem_singleton] at new
        obtain rfl := new
        rcases others present with ⟨present, distinct⟩ | rfl
        · intro pays
          refine distinct (sound.exclusive other present call member run.symm (List.ne_nil_of_mem pays) ?_)
          rw [ahead]
          exact List.cons_ne_nil _ _
        · have distinct := sound.nodup call member
          rw [ahead] at distinct
          exact (List.nodup_cons.mp distinct).1
    · rcases others present with ⟨present, -⟩ | rfl
      · exact sound.ahead other present draw stood run
      · rw [sameInput] at run
        rcases begun with fewer | ⟨-, unpaid, -⟩
        · exact fun pays => sound.ahead call member draw stood run (fewer.subset pays)
        · exact (unpaid draw stood run).elim
  · intro other present
    rcases others present with ⟨present, -⟩ | rfl
    · exact sound.nodup other present
    · rcases begun with fewer | ⟨all, -⟩
      · exact (sound.nodup call member).sublist fewer
      · rw [all]
        decide
  · unfold StepsOnce
    rw [draws]
    rcases moved.draws with none | ⟨step, txHash, -, new, ahead⟩
    · rw [none]
      exact sound.once
    · rw [new, List.singleton_append, List.map_cons, List.nodup_cons]
      refine ⟨fun before => ?_, sound.once⟩
      obtain ⟨draw, drew, same⟩ := List.mem_map.mp before
      obtain ⟨run, rfl⟩ := Prod.mk.inj same
      refine sound.ahead call member draw drew run ?_
      rw [ahead]
      exact List.mem_cons_self
  · intro other present step txHash drawn
    rw [draws]
    rcases others present with ⟨present, -⟩ | rfl
    · exact List.mem_append_right _ (sound.drew other present step txHash drawn)
    · rw [sameInput]
      rcases moved.drew drawn with before | new
      · exact List.mem_append_right _ (sound.drew call member step txHash before)
      · exact List.mem_append_left _ new
  · exact alone_of_new sound.alone fun claim present => (claimed claim present).imp_right fun new => ⟨new.1, new.2.1⟩

theorem same_draws (sound : FleetSound s) (claims : ∀ claim ∈ s'.claims, claim ∈ s.claims)
    (events : ∀ row ∈ s'.db.pay.events, row.tx_hash ∈ s'.hashes) (kept : ∀ txHash ∈ s.hashes, txHash ∈ s'.hashes)
    (draws : s'.draws = s.draws)
    (calls : ∀ call ∈ s'.calls, call.stage.steps = [] ∧ call.stage.drawn? = none ∨ call ∈ s.calls) : FleetSound s' := by
  refine ⟨fun claim present => kept _ (sound.landed claim (claims claim present)), events, ?_, ?_, ?_, ?_, ?_, ?_⟩
  · intro one present other present' run pays pays'
    rcases calls one present with ⟨none, -⟩ | present
    · exact (pays none).elim
    rcases calls other present' with ⟨none, -⟩ | present'
    · exact (pays' none).elim
    exact sound.exclusive one present other present' run pays pays'
  · intro call present draw drew run
    rw [draws] at drew
    rcases calls call present with ⟨none, -⟩ | present
    · simp [none]
    · exact sound.ahead call present draw drew run
  · intro call present
    rcases calls call present with ⟨none, -⟩ | present
    · simp [none]
    · exact sound.nodup call present
  · unfold StepsOnce
    rw [draws]
    exact sound.once
  · intro call present step txHash drawn
    rw [draws]
    rcases calls call present with ⟨-, none⟩ | present
    · cases none.symm.trans drawn
    · exact sound.drew call present step txHash drawn
  · exact fun claim present other present' => sound.alone claim (claims claim present) other (claims other present')

theorem step {label : FleetLabel} (sound : FleetSound s) (ok : FleetOk s label) (taken : fleetStep s label = some s') :
    FleetSound s' := by
  cases label with
  | statement => exact sound.statement ok taken
  | opened id input =>
    obtain ⟨calls, inserted, rfl⟩ := Option.map_eq_some_iff.mp taken
    refine sound.same_draws ?_ sound.events (fun _ landed => landed) rfl ?_
    · intro claim claimed
      refine FleetWorld.mem_claims.mpr ((FleetWorld.mem_claims.mp claimed).imp_left (Or.imp_right ?_))
      rintro ⟨call, present, listed⟩
      rcases (Table.mem_insert? inserted).mp present with rfl | present
      · cases listed
      · exact ⟨call, present, listed⟩
    · intro call present
      rcases (Table.mem_insert? inserted).mp present with rfl | present
      · exact .inl ⟨rfl, rfl⟩
      · exact .inr present
  | stopped id =>
    obtain ⟨call, found, rfl⟩ := Option.map_eq_some_iff.mp taken
    refine sound.same_draws ?_ sound.events (fun _ landed => landed) rfl ?_
    · intro claim claimed
      refine FleetWorld.mem_claims.mpr ((FleetWorld.mem_claims.mp claimed).imp_left (Or.imp_right ?_))
      rintro ⟨other, present, listed⟩
      rcases Table.mem_put.mp present with ⟨present, -⟩ | ⟨rfl, -⟩
      · exact ⟨other, present, listed⟩
      · exact ⟨call, Table.mem_of_find? found, listed⟩
    · intro other present
      rcases Table.mem_put.mp present with ⟨present, -⟩ | ⟨rfl, -⟩
      · exact .inr present
      · exact .inl ⟨rfl, rfl⟩
  | created id orgId agents =>
    obtain ⟨db, created, rfl⟩ := Option.map_eq_some_iff.mp taken
    obtain ⟨runs, inserted, rfl⟩ := Option.map_eq_some_iff.mp created
    refine sound.same_draws ?_ sound.events (fun _ landed => landed) rfl fun call present => .inr present
    intro claim claimed
    refine FleetWorld.mem_claims.mpr ((FleetWorld.mem_claims.mp claimed).imp_left (Or.imp_left fun listed => ?_))
    refine FleetDb.mem_listings.mpr ((FleetDb.mem_listings.mp listed).imp_left ?_)
    rintro ⟨row, present, listed⟩
    rcases (Table.mem_insert? inserted).mp present with rfl | present
    · cases listed
    · exact ⟨row, present, listed⟩
  | elsewhere pay hashes =>
    simp only [fleetStep] at taken
    split at taken
    · rename_i known
      obtain rfl := Option.some.inj taken
      exact sound.same_draws (fun _ claimed => claimed) known (fun _ => List.mem_append_right _) rfl
        fun call present => .inr present
    · cases taken

end FleetSound

variable {s₀ : FleetWorld} {events : List (FleetWorld × FleetLabel)}

/-- From a database without runs, while a run is begun only when it is unpaid and no other call on it may pay, and the
second hop finds no payment of another run -/
theorem steps_paid_once (run : Run fleetStep s₀ events s) (idle : s₀.calls = .empty) (unpaid : s₀.draws = [])
    (runs : s₀.db.runs = .empty) (run_events : s₀.db.run_events = .empty)
    (landed : ∀ row ∈ s₀.db.pay.events, row.tx_hash ∈ s₀.hashes) (ok : Conforms FleetOk events) :
    StepsOnce s ∧ ListedApart s := by
  have none : s₀.claims = [] := by
    simp [FleetWorld.claims, FleetWorld.listings, FleetDb.listings, idle, unpaid, runs, run_events, Table.empty]
  have initial : FleetSound s₀ := by
    refine ⟨?_, landed, ?_, ?_, ?_, ?_, ?_, ?_⟩ <;> simp [idle, unpaid, none, StepsOnce]
  have sound := run.invariant FleetSound ok initial fun _ _ _ sound ok taken => sound.step ok taken
  refine ⟨sound.once, fun listing listed other listed' => sound.alone listing ?_ other ?_⟩
  · exact List.mem_append_left _ listed
  · exact List.mem_append_left _ listed'

section Example

def agentNamed (id : AgentId) (name : String) : FleetResolvedAgent := ⟨id, name, "https://" ++ name⟩

def roster : FleetAgents :=
  ⟨some (agentNamed 1 "Orchestrator"), some (agentNamed 2 "DataFetcher"), some (agentNamed 3 "Analyst"),
    some (agentNamed 4 "Writer"), some (agentNamed 5 "SeniorReviewer")⟩

def delegationTo (id : Nat) (payee : AgentId) : AgentDelegationRow :=
  ⟨id, 1, some 1, ⟨1, 0⟩, some payee, ⟨payee, 0⟩, .test, .arc, ⟨9, 0⟩, 5000000, 0, 100, 0, .active, .agent⟩

def pastHop : IntraFleetEventRow :=
  ⟨1, 1, 3, none, .test, ⟨.directExact, .arc⟩, .arc, 10000, ⟨2, 0⟩, "eip155:5042002", "https://DataFetcher", "Fleet hire", "0x9", 2,
    "DataFetcher", ⟨true, 200, none⟩, 0⟩

def fleetWorld : FleetWorld where
  db := {
    pay := {
      delegations := {
        delegations := ⟨[delegationTo 1 2, delegationTo 2 3], by decide⟩
        drawdowns := .empty
        treasuries := .empty
        wallets := ⟨[⟨1, .test, .arc, ⟨1, 0⟩, true⟩, ⟨2, .test, .arc, ⟨2, 0⟩, true⟩, ⟨3, .test, .arc, ⟨3, 0⟩, true⟩], by decide⟩
        ceilings := .empty }
      agents := .empty
      allowlist := .empty
      events := ⟨[pastHop], by decide⟩ }
    runs := .empty
    run_events := .empty }
  calls := .empty
  draws := []
  hashes := ["0x9"]

def answered (probes : List Bool) (i : Nat) : FleetAnswer where
  id := 100 + i
  now := 0
  micros := .ok 10000
  executed := .ok (String.ofList ('t' :: Nat.toDigits 10 i))
  discovery := some ⟨402, some [⟨some "10000", none⟩]⟩
  paid := some ⟨200, none⟩
  failed := none
  connection := 7
  probes
  requireLive := false
  mode := .test

def goesThrough (id : Nat) (probes : List Bool) (first n : Nat) : List FleetLabel :=
  (List.range' first n).map fun i => .statement id (answered probes i)

def executes (id : Nat) (runId : FleetRunId) : FleetLabel := .opened id ⟨1, runId, 8⟩

/-- Two calls read the status of a run before either changes it; a run that has paid a step fails and is executed again; and
two runs find one payment for their second hops. -/
theorem step_paid_twice :
    (∃ events s, Run fleetStep fleetWorld events s ∧ ¬StepsOnce s) ∧
    (∃ events s, Run fleetStep fleetWorld events s ∧ ¬StepsOnce s) ∧
    ∃ events s, Run fleetStep fleetWorld events s ∧ ¬ListedApart s := by
  refine ⟨?_, ?_, ?_⟩
  · exact exists_run (.created 1 1 roster :: executes 1 1 :: executes 2 1 :: goesThrough 1 [true] 0 1 ++
      goesThrough 2 [true] 1 1 ++ goesThrough 1 [true] 2 27 ++ goesThrough 2 [true] 40 27) _ (by decide +kernel)
  · exact exists_run (.created 1 1 roster :: executes 1 1 :: executes 2 1 :: goesThrough 1 [true] 0 28 ++
      .statement 1 { answered [] 28 with failed := some fetchFailed } :: goesThrough 1 [] 29 2 ++
      goesThrough 2 [true] 40 28) _ (by decide +kernel)
  · exact exists_run (.created 1 1 roster :: .created 2 1 roster :: executes 1 1 :: executes 2 2 ::
      goesThrough 1 [true, true] 0 49 ++ goesThrough 2 [true, true] 100 49) _ (by decide +kernel)

def fleetCheck (s : FleetWorld) : FleetLabel → Bool
  | .statement id answer =>
    (s.calls.find? id).all fun call =>
      match call.stage with
      | .read => (getFleetRun s.db call.input.orgId call.input.runId).toOption.all fun run =>
          !run.status.opens || decide (BeginsAlone s call.input.runId)
      | .trying locals (.findSecondHop :: _) =>
        (findRecentSecondHopTx s.db.pay call.input.orgId locals.fleet.analyst.agentId locals.fleet.dataFetcher.agentId
          answer.now).all fun row => decide (OfNoOther s call.input.runId row.tx_hash)
      | _ => true
  | _ => true

theorem fleetOk_of_check (s : FleetWorld) (label : FleetLabel) (passes : fleetCheck s label = true) : FleetOk s label := by
  cases label with
  | statement id answer =>
    simp only [fleetCheck, FleetOk] at passes ⊢
    split
    · trivial
    · rename_i call found
      simp only [found, Option.all_some] at passes
      split at passes
      · intro run found opens
        simp only [Option.mem_def.mp found, Option.all_some, opens] at passes
        simpa using passes
      · intro row found
        simp only [Option.mem_def.mp found, Option.all_some] at passes
        simpa using passes
      · trivial
  | opened | stopped | created | elsewhere => trivial

/-- A run that pays two of its steps, as far as the payment it finds for its second hop -/
theorem steps_paid_once_alone : ∃ events s, Run fleetStep fleetWorld events s ∧ s.draws.length = 2 ∧
    (1, "0x9") ∈ s.db.listings ∧ StepsOnce s ∧ ListedApart s := by
  obtain ⟨events, s, run, ok, drew, listed⟩ : ∃ events s, Run fleetStep fleetWorld events s ∧ Conforms FleetOk events ∧
      s.draws.length = 2 ∧ (1, "0x9") ∈ s.db.listings :=
    exists_conforming_run (.created 1 1 roster :: executes 1 1 :: goesThrough 1 [true, true] 0 50) fleetCheck _
      fleetOk_of_check (by decide +kernel)
  exact ⟨events, s, run, drew, listed, steps_paid_once run rfl rfl rfl rfl (by decide) ok⟩

end Example

end AgentOps.FleetRun
