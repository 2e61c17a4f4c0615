import AgentOps.Lib.Transition
import AgentOps.Payments.IntraFleet

namespace AgentOps.Payments
open Lib Identity

/-! # The record of a payment within a fleet -/

structure PayCall where
  id : Nat
  input : PayIntraFleetInput
  stage : PayStage

structure PayWorld where
  db : PayDb
  calls : Table PayCall.id
  hashes : List Hash

/-- The ceilings that a `numeric(20, 6)` column holds -/
def DelegationDb.Bounded (db : DelegationDb) : Prop := ∀ row ∈ db.delegations, row.ceiling_usdc < 10 ^ 20

instance (db : DelegationDb) : Decidable db.Bounded :=
  inferInstanceAs (Decidable (∀ row ∈ db.delegations.rows, row.ceiling_usdc < 10 ^ 20))

inductive PayLabel where
  | opened (id : Nat) (input : PayIntraFleetInput)
  | statement (id : Nat) (answer : PayAnswer)
  | elsewhere (delegations : DelegationDb) (agents : Table FleetAgentRow.id) (allowlist : DestinationAllowlist)

/-- A call may stop at any statement; a hash names one transaction. -/
def payStep (s : PayWorld) : PayLabel → Option PayWorld
  | .opened id input => (s.calls.insert? ⟨id, input, .wallet⟩).map fun calls => { s with calls }
  | .statement id answer =>
    (s.calls.find? id).bind fun call =>
      let landed := answer.executed.toOption.toList
      if ∃ txHash ∈ landed, txHash ∈ s.hashes then none
      else (payStatement s.db call.input answer call.stage).map fun (db, stage) =>
        { db, calls := s.calls.put { call with stage }, hashes := landed ++ s.hashes }
  | .elsewhere delegations agents allowlist =>
    if delegations.Bounded then some { s with db := ⟨delegations, agents, allowlist, s.db.events⟩ } else none

variable {db db' : PayDb} {input : PayIntraFleetInput} {answer : PayAnswer} {stage stage' : PayStage} {hire : Hire}
  {txHash : Hash} {drawn : DrawnPayment} {paid : PaidAnswer} {call : PayCall} {s s' : PayWorld}

def PayStage.hash : PayStage → Option Hash
  | .fetching _ txHash | .recording _ txHash _ => some txHash
  | .finished (some drawn) _ => some drawn.txHash
  | _ => none

def PayStage.drawn? : PayStage → Option DrawnPayment
  | .finished drawn _ => drawn
  | _ => none

def Hire.Payable (hire : Hire) : Prop := 0 < hire.amountMicros ∧ hire.amountMicros < 10 ^ 20

/-- The seller has answered the paid request, with what the event can hold. -/
def Storable (input : PayIntraFleetInput) (drawn : DrawnPayment) : Prop :=
  input.storable = true ∧ ∃ paid, drawn.paid = some paid ∧ paid.storable = true

theorem setDrawn_bounded {delegations : DelegationDb} (bounded : delegations.Bounded) (id : DelegationId) (micros : Nat)
    (status : DelegationStatus) : (delegations.setDrawn id micros status).Bounded := by
  unfold DelegationDb.setDrawn
  split
  · exact bounded
  · rename_i row found
    intro other member
    rcases Table.mem_put.mp member with ⟨member, -⟩ | ⟨rfl, -⟩
    · exact bounded other member
    · exact bounded row (Table.mem_of_find? found)

theorem drawDown_executed {delegations delegations' : DelegationDb} {draw : DrawDownInput} {answer : ChainAnswer}
    (drew : drawDown delegations draw answer = .ok (delegations', txHash)) : answer.executed = .ok txHash := by
  unfold drawDown at drew
  split at drew
  · cases drew
  obtain ⟨_, -, drew⟩ := bind_eq_ok.mp drew
  split at drew
  · cases drew
  obtain ⟨_, executed, drew⟩ := bind_eq_ok.mp drew
  split at drew
  · cases drew
  obtain ⟨-, rfl⟩ := Prod.mk.inj (Except.ok.inj drew)
  exact executed

theorem drawDown_ok {delegations delegations' : DelegationDb} {draw : DrawDownInput} {answer : ChainAnswer}
    (bounded : delegations.Bounded) (drew : drawDown delegations draw answer = .ok (delegations', txHash)) :
    delegations'.Bounded ∧ 0 < draw.amountUsdc ∧ draw.amountUsdc < 10 ^ 20 := by
  unfold drawDown at drew
  split at drew
  · cases drew
  rename_i delegation found
  obtain ⟨_, drawable, drew⟩ := bind_eq_ok.mp drew
  split at drew
  · cases drew
  rename_i positive
  obtain ⟨_, -, drew⟩ := bind_eq_ok.mp drew
  split at drew
  · cases drew
  rename_i recorded
  obtain ⟨rfl, rfl⟩ := Prod.mk.inj (Except.ok.inj drew)
  have fits := (assertDrawable_ok drawable).2
  have ceiling := bounded delegation (Table.mem_of_find? found)
  refine ⟨?_, Nat.pos_of_ne_zero positive, by omega⟩
  unfold recordDraw at recorded
  split at recorded
  · cases recorded
  · obtain rfl := Option.some.inj recorded
    refine setDrawn_bounded ?_ _ _ _
    exact bounded

theorem recordSignedDelegation_ok {delegations delegations' : DelegationDb} {grant : RecordSignedDelegationInput}
    {answer : ChainAnswer} {delegationId : DelegationId} (bounded : delegations.Bounded)
    (signed : recordSignedDelegation delegations grant answer = .ok (delegations', delegationId)) : delegations'.Bounded := by
  obtain ⟨payer, -, signed⟩ := bind_eq_ok.mp signed
  obtain ⟨nonce, -, signed⟩ := bind_eq_ok.mp signed
  obtain ⟨_, -, signed⟩ := bind_eq_ok.mp signed
  obtain ⟨_, -, signed⟩ := bind_eq_ok.mp signed
  obtain ⟨db', inserted, signed⟩ := bind_eq_ok.mp signed
  obtain ⟨rfl, -⟩ := Prod.mk.inj (Except.ok.inj signed)
  unfold insertDelegation at inserted
  split_ifs at inserted with _ large
  split at inserted
  · cases inserted
  · rename_i kept
    obtain rfl := Except.ok.inj inserted
    intro row member
    rcases (Table.mem_insert? kept).mp member with rfl | member
    · exact not_le.mp large
    · exact bounded row member

theorem fundStatement_ok {delegations delegations' : DelegationDb} {fund : JustInTimeFundingInput} {answer : ChainAnswer}
    {stage : FundStage} {next : Option FundStage} (bounded : delegations.Bounded)
    (moved : fundStatement delegations fund answer stage = .ok (delegations', next)) : delegations'.Bounded := by
  cases stage with
  | draw delegationId shortfall =>
    obtain ⟨⟨_, _⟩, drew, same⟩ := bind_eq_ok.mp moved
    obtain ⟨rfl, -⟩ := Prod.mk.inj (Except.ok.inj same)
    exact (drawDown_ok bounded drew).1
  | wallet =>
    obtain ⟨rfl, -⟩ := Prod.mk.inj (Except.ok.inj moved)
    exact bounded
  | balance address =>
    obtain ⟨balance, -, moved⟩ := bind_eq_ok.mp moved
    split_ifs at moved <;> obtain ⟨rfl, -⟩ := Prod.mk.inj (Except.ok.inj moved) <;> exact bounded
  | gasTransfer | transfer =>
    obtain ⟨_, -, moved⟩ := bind_eq_ok.mp moved
    obtain ⟨rfl, -⟩ := Prod.mk.inj (Except.ok.inj moved)
    exact bounded
  | gasTreasury | delegations | treasury =>
    simp only [fundStatement] at moved
    split at moved <;> obtain ⟨rfl, -⟩ := Prod.mk.inj (Except.ok.inj moved) <;> exact bounded

inductive PayMoved (db : PayDb) (input : PayIntraFleetInput) (answer : PayAnswer) : PayStage → PayDb → PayStage → Prop where
  | before {db' : PayDb} {stage stage' : PayStage} (undrawn : stage.hash = none) (still : stage'.hash = none)
      (events : db'.events = db.events) : PayMoved db input answer stage db' stage'
  | drew {db' : PayDb} {hire : Hire} {delegationId : DelegationId} {txHash : Hash} (executed : answer.executed = .ok txHash)
      (payable : db.delegations.Bounded → hire.Payable) (events : db'.events = db.events) :
      PayMoved db input answer (.drawing hire delegationId) db' (.fetching hire txHash)
  | unanswered {hire : Hire} {txHash : Hash} :
      PayMoved db input answer (.fetching hire txHash) db (.finished (some ⟨hire, txHash, none⟩) (.error fetchFailed))
  | answered {hire : Hire} {txHash : Hash} {paid : PaidAnswer} :
      PayMoved db input answer (.fetching hire txHash) db (.recording hire txHash paid)
  | refused {hire : Hire} {txHash : Hash} {paid : PaidAnswer} {failure : Failure}
      (refused : hire.Payable → ¬Storable input ⟨hire, txHash, some paid⟩) :
      PayMoved db input answer (.recording hire txHash paid) db (.finished (some ⟨hire, txHash, some paid⟩) (.error failure))
  | recorded {hire : Hire} {txHash : Hash} {paid : PaidAnswer} {events : Table IntraFleetEventRow.id}
      (storable : Storable input ⟨hire, txHash, some paid⟩)
      (inserted : db.events.insert? (eventRow input hire txHash paid answer.toChainAnswer) = some events) :
      PayMoved db input answer (.recording hire txHash paid) { db with events }
        (.finished (some ⟨hire, txHash, some paid⟩) (.ok ⟨paid.status, paid.body, txHash, hire.amountMicros, answer.id⟩))

theorem record_cases {answer : ChainAnswer} {result : Except Failure PayDb}
    (recorded : recordIntraFleetPaymentEvent db input hire txHash paid answer = some result) :
    (∃ failure, result = .error failure ∧ (hire.Payable → ¬Storable input ⟨hire, txHash, some paid⟩)) ∨
      ∃ events, result = .ok { db with events } ∧ Storable input ⟨hire, txHash, some paid⟩ ∧
        db.events.insert? (eventRow input hire txHash paid answer) = some events := by
  unfold recordIntraFleetPaymentEvent at recorded
  split_ifs at recorded with url body large zero
  · refine .inl ⟨_, (Option.some.inj recorded).symm, fun _ storable => ?_⟩
    simp [storable.1] at url
  · refine .inl ⟨_, (Option.some.inj recorded).symm, fun _ storable => ?_⟩
    obtain ⟨-, _, same, fits⟩ := storable
    obtain rfl := Option.some.inj same
    simp [fits] at body
  · exact .inl ⟨_, (Option.some.inj recorded).symm, fun payable => (not_le.mpr payable.2 large).elim⟩
  · exact .inl ⟨_, (Option.some.inj recorded).symm, fun payable => (payable.1.ne' zero).elim⟩
  · obtain ⟨events, inserted, rfl⟩ := Option.map_eq_some_iff.mp recorded
    exact .inr ⟨events, rfl, ⟨by simpa using url, paid, rfl, by simpa using body⟩, inserted⟩

inductive PayMove (db : PayDb) (input : PayIntraFleetInput) (answer : PayAnswer) : PayStage → PayDb → PayStage → Prop where
  | resolves {payee : Address} (found : agentAddress? db.delegations input.payeeAgentId input.network = some payee) :
      PayMove db input answer .wallet db (.allowlist payee)
  | lists {payee : Address} : PayMove db input answer (.allowlist payee)
      { db with allowlist := db.allowlist.insertUnlessListed (input.payee.row answer.id payee) } (.name payee)
  | names {payee : Address} {name : String} : PayMove db input answer (.name payee) db (.discovery payee name)
  | prices {payee : Address} {name : String} {micros : Nat} (quoted : quotedMicros answer.discovery = .ok micros) :
      PayMove db input answer (.discovery payee name) db (.funding ⟨payee, name, micros⟩ .wallet)
  | funds {hire : Hire} {stage next : FundStage} {delegations : DelegationDb}
      (funded : fundStatement db.delegations (input.funding hire.amountMicros) answer.toChainAnswer stage =
        .ok (delegations, some next)) :
      PayMove db input answer (.funding hire stage) { db with delegations } (.funding hire next)
  | funded {hire : Hire} {stage : FundStage} {delegations : DelegationDb}
      (funded : fundStatement db.delegations (input.funding hire.amountMicros) answer.toChainAnswer stage = .ok (delegations, none)) :
      PayMove db input answer (.funding hire stage) { db with delegations } (.delegation hire)
  | asksToSign {hire : Hire} : PayMove db input answer (.delegation hire) db (.signing hire)
  | picks {hire : Hire} {delegationId : DelegationId}
      (active : findActiveDelegationWithHeadroom db.delegations input hire.payeeAddress answer.now hire.amountMicros =
        some delegationId) : PayMove db input answer (.delegation hire) db (.drawing hire delegationId)
  | signs {hire : Hire} {delegationId : DelegationId} {delegations : DelegationDb}
      (signed : recordSignedDelegation db.delegations (input.delegation hire.payeeAddress answer.now) answer.toChainAnswer =
        .ok (delegations, delegationId)) :
      PayMove db input answer (.signing hire) { db with delegations } (.drawing hire delegationId)
  | draws {hire : Hire} {delegationId : DelegationId} {delegations : DelegationDb} {txHash : Hash}
      (drew : drawDown db.delegations ⟨delegationId, hire.amountMicros⟩ answer.toChainAnswer = .ok (delegations, txHash)) :
      PayMove db input answer (.drawing hire delegationId) { db with delegations } (.fetching hire txHash)
  | fails {stage : PayStage} {failure : Failure} (undrawn : stage.hash = none) :
      PayMove db input answer stage db (.finished none (.error failure))
  | unanswered {hire : Hire} {txHash : Hash} :
      PayMove db input answer (.fetching hire txHash) db (.finished (some ⟨hire, txHash, none⟩) (.error fetchFailed))
  | answered {hire : Hire} {txHash : Hash} {paid : PaidAnswer} :
      PayMove db input answer (.fetching hire txHash) db (.recording hire txHash paid)
  | refused {hire : Hire} {txHash : Hash} {paid : PaidAnswer} {failure : Failure}
      (refused : hire.Payable → ¬Storable input ⟨hire, txHash, some paid⟩) :
      PayMove db input answer (.recording hire txHash paid) db (.finished (some ⟨hire, txHash, some paid⟩) (.error failure))
  | records {hire : Hire} {txHash : Hash} {paid : PaidAnswer} {events : Table IntraFleetEventRow.id}
      (storable : Storable input ⟨hire, txHash, some paid⟩)
      (inserted : db.events.insert? (eventRow input hire txHash paid answer.toChainAnswer) = some events) :
      PayMove db input answer (.recording hire txHash paid) { db with events }
        (.finished (some ⟨hire, txHash, some paid⟩) (.ok ⟨paid.status, paid.body, txHash, hire.amountMicros, answer.id⟩))

theorem payStatement_cases (moved : payStatement db input answer stage = some (db', stage')) :
    PayMove db input answer stage db' stage' := by
  cases stage with
  | allowlist =>
    obtain ⟨rfl, rfl⟩ := Prod.mk.inj (Option.some.inj moved)
    exact .lists
  | name =>
    obtain ⟨rfl, rfl⟩ := Prod.mk.inj (Option.some.inj moved)
    exact .names
  | recording =>
    obtain ⟨result, recorded, same⟩ := Option.map_eq_some_iff.mp moved
    rcases record_cases recorded with ⟨failure, rfl, refused⟩ | ⟨events, rfl, storable, inserted⟩ <;>
      obtain ⟨rfl, rfl⟩ := Prod.mk.inj same
    · exact .refused refused
    · exact .records storable inserted
  | finished => cases moved
  | wallet =>
    simp only [payStatement] at moved
    split at moved <;> obtain ⟨rfl, rfl⟩ := Prod.mk.inj (Option.some.inj moved)
    · exact .fails rfl
    · exact .resolves ‹_›
  | discovery =>
    simp only [payStatement] at moved
    split at moved <;> obtain ⟨rfl, rfl⟩ := Prod.mk.inj (Option.some.inj moved)
    · exact .fails rfl
    · exact .prices ‹_›
  | funding =>
    simp only [payStatement] at moved
    split at moved <;> obtain ⟨rfl, rfl⟩ := Prod.mk.inj (Option.some.inj moved)
    · exact .fails rfl
    · exact .funded ‹_›
    · exact .funds ‹_›
  | delegation =>
    simp only [payStatement] at moved
    split at moved <;> obtain ⟨rfl, rfl⟩ := Prod.mk.inj (Option.some.inj moved)
    · exact .asksToSign
    · exact .picks ‹_›
  | signing =>
    simp only [payStatement] at moved
    split at moved <;> obtain ⟨rfl, rfl⟩ := Prod.mk.inj (Option.some.inj moved)
    · exact .fails rfl
    · exact .signs ‹_›
  | drawing =>
    simp only [payStatement] at moved
    split at moved <;> obtain ⟨rfl, rfl⟩ := Prod.mk.inj (Option.some.inj moved)
    · exact .fails rfl
    · exact .draws ‹_›
  | fetching =>
    simp only [payStatement] at moved
    split at moved <;> obtain ⟨rfl, rfl⟩ := Prod.mk.inj (Option.some.inj moved)
    · exact .unanswered
    · exact .answered

theorem payStatement_moved (moved : payStatement db input answer stage = some (db', stage')) :
    (db.delegations.Bounded → db'.delegations.Bounded) ∧ PayMoved db input answer stage db' stage' := by
  cases payStatement_cases moved with
  | resolves | lists | names | prices | asksToSign | picks => exact ⟨id, .before rfl rfl rfl⟩
  | funds funded | funded funded => exact ⟨fun bounded => fundStatement_ok bounded funded, .before rfl rfl rfl⟩
  | signs signed => exact ⟨fun bounded => recordSignedDelegation_ok bounded signed, .before rfl rfl rfl⟩
  | draws drew =>
    refine ⟨fun bounded => (drawDown_ok bounded drew).1, .drew ?_ (fun bounded => (drawDown_ok bounded drew).2) rfl⟩
    exact drawDown_executed drew
  | fails undrawn => exact ⟨id, .before undrawn rfl rfl⟩
  | unanswered => exact ⟨id, .unanswered⟩
  | answered => exact ⟨id, .answered⟩
  | refused refused => exact ⟨id, .refused refused⟩
  | records storable inserted => exact ⟨id, .recorded storable inserted⟩

theorem payStatement_result {ended : Option DrawnPayment} {result : PayIntraFleetResult}
    (moved : payStatement db input answer stage = some (db', .finished ended (.ok result))) :
    stage.hash = some result.txHash := by
  cases payStatement_cases moved with
  | records => rfl

def NoEvent (db : PayDb) (txHash : Hash) : Prop := ∀ row ∈ db.events, row.tx_hash ≠ txHash

/-- One event has the hash, and it names the amount, the payer and the payee. -/
def RecordedOnce (db : PayDb) (input : PayIntraFleetInput) (drawn : DrawnPayment) : Prop :=
  ∃ row ∈ db.events, row.tx_hash = drawn.txHash ∧ row.amount_usdc = drawn.hire.amountMicros ∧
    row.agent_id = input.payerAgentId ∧ row.payee_agent_id = input.payeeAgentId ∧
    row.recipient = drawn.hire.payeeAddress ∧ ∀ other ∈ db.events, other.tx_hash = drawn.txHash → other = row

def Told (db : PayDb) (input : PayIntraFleetInput) (stage : PayStage) : Prop :=
  match stage with
  | .fetching hire txHash | .recording hire txHash _ => hire.Payable ∧ NoEvent db txHash
  | .finished (some drawn) _ =>
    (Storable input drawn ∧ RecordedOnce db input drawn) ∨ (¬Storable input drawn ∧ NoEvent db drawn.txHash)
  | _ => True

def SameEvents (db db' : PayDb) (txHash : Hash) : Prop :=
  ∀ row : IntraFleetEventRow, row.tx_hash = txHash → (row ∈ db'.events ↔ row ∈ db.events)

theorem NoEvent.same (none : NoEvent db txHash) (same : SameEvents db db' txHash) : NoEvent db' txHash :=
  fun row member named => none row ((same row named).mp member) named

theorem Told.same (told : Told db input stage) (same : ∀ txHash, stage.hash = some txHash → SameEvents db db' txHash) :
    Told db' input stage := by
  unfold Told at told ⊢
  split
  · exact ⟨told.1, told.2.same (same _ rfl)⟩
  · exact ⟨told.1, told.2.same (same _ rfl)⟩
  · rename_i drawn outcome
    have here : SameEvents db db' drawn.txHash := same _ rfl
    rcases told with ⟨storable, row, member, named, amount, payer, payee, recipient, only⟩ | ⟨refused, none⟩
    · exact .inl ⟨storable, row, (here row named).mpr member, named, amount, payer, payee, recipient,
        fun other member' named' => only other ((here other named').mp member') named'⟩
    · exact .inr ⟨refused, none.same here⟩
  · trivial

namespace PayMoved

theorem hash (moved : PayMoved db input answer stage db' stage') : stage'.hash = stage.hash ∨
    stage.hash = none ∧ ∃ txHash, answer.executed = .ok txHash ∧ stage'.hash = some txHash := by
  cases moved with
  | before undrawn still => exact .inl (still.trans undrawn.symm)
  | drew executed => exact .inr ⟨rfl, _, executed, rfl⟩
  | unanswered | answered | refused | recorded => exact .inl rfl

theorem events (moved : PayMoved db input answer stage db' stage') {row : IntraFleetEventRow} (member : row ∈ db'.events) :
    row ∈ db.events ∨ stage.hash = some row.tx_hash := by
  cases moved with
  | before _ _ same | drew _ _ same => exact .inl (same ▸ member)
  | unanswered | answered | refused => exact .inl member
  | recorded _ inserted =>
    rcases (Table.mem_insert? inserted).mp member with rfl | member
    · exact .inr rfl
    · exact .inl member

theorem kept (moved : PayMoved db input answer stage db' stage') {row : IntraFleetEventRow} (member : row ∈ db.events) :
    row ∈ db'.events := by
  cases moved with
  | before _ _ same | drew _ _ same => exact same ▸ member
  | unanswered | answered | refused => exact member
  | recorded _ inserted => exact (Table.mem_insert? inserted).mpr (.inr member)

theorem same (moved : PayMoved db input answer stage db' stage') (other : stage.hash ≠ some txHash) :
    SameEvents db db' txHash := by
  intro row named
  refine ⟨fun member => (moved.events member).resolve_right ?_, moved.kept⟩
  rw [named]
  exact other

theorem told (moved : PayMoved db input answer stage db' stage') (bounded : db.delegations.Bounded) (told : Told db input stage)
    (fresh : ∀ txHash, answer.executed = .ok txHash → NoEvent db txHash) : Told db' input stage' := by
  cases moved with
  | before _ still =>
    unfold Told
    split <;> first | cases still | trivial
  | drew executed payable same => exact ⟨payable bounded, fun row member => fresh _ executed row (same ▸ member)⟩
  | unanswered =>
    refine .inr ⟨?_, told.2⟩
    rintro ⟨-, _, same, -⟩
    cases same
  | answered => exact told
  | refused refused => exact .inr ⟨refused told.1, told.2⟩
  | recorded storable inserted =>
    refine .inl ⟨storable, _, (Table.mem_insert? inserted).mpr (.inl rfl), rfl, rfl, rfl, rfl, rfl, ?_⟩
    intro other member named
    rcases (Table.mem_insert? inserted).mp member with same | member
    · exact same
    · exact (told.2 other member named).elim

end PayMoved

structure PaySound (initial : Table IntraFleetEventRow.id) (s : PayWorld) : Prop where
  bounded : s.db.delegations.Bounded
  events : ∀ row ∈ s.db.events, row.tx_hash ∈ s.hashes
  drawn : ∀ call ∈ s.calls, ∀ txHash, call.stage.hash = some txHash → txHash ∈ s.hashes
  apart : ∀ call ∈ s.calls, ∀ other ∈ s.calls, ∀ txHash, call.stage.hash = some txHash →
    other.stage.hash = some txHash → call.id = other.id
  told : ∀ call ∈ s.calls, Told s.db call.input call.stage
  rows : ∀ row ∈ s.db.events, row ∈ initial ∨ ∃ call ∈ s.calls, call.stage.hash = some row.tx_hash

theorem payStep_statement {id : Nat} (taken : payStep s (.statement id answer) = some s') : ∃ call db stage,
    s.calls.find? id = some call ∧ payStatement s.db call.input answer call.stage = some (db, stage) ∧
      (∀ txHash, answer.executed = .ok txHash → txHash ∉ s.hashes ∧ txHash ∈ s'.hashes) ∧
      (∀ txHash ∈ s.hashes, txHash ∈ s'.hashes) ∧ s'.db = db ∧ s'.calls = s.calls.put { call with stage } := by
  obtain ⟨call, found, taken⟩ := Option.bind_eq_some_iff.mp taken
  simp only at taken
  split at taken
  · cases taken
  · rename_i fresh
    obtain ⟨⟨db, stage⟩, moved, rfl⟩ := Option.map_eq_some_iff.mp taken
    refine ⟨call, db, stage, found, moved, fun txHash executed => ⟨fun landed => fresh ⟨txHash, ?_, landed⟩, ?_⟩,
      fun txHash landed => List.mem_append_right _ landed, rfl, rfl⟩
    · simp [executed, Except.toOption]
    · simp [executed, Except.toOption]

namespace PaySound

variable {initial : Table IntraFleetEventRow.id}

theorem statement {id : Nat} (sound : PaySound initial s) (taken : payStep s (.statement id answer) = some s') :
    PaySound initial s' := by
  obtain ⟨call, db', stage', found, moved, landed, kept, rfl, putback⟩ := payStep_statement taken
  obtain ⟨bounded, moved⟩ := payStatement_moved moved
  have member := Table.mem_of_find? found
  have named := Table.key_of_find? found
  have self : s'.calls.find? id = some { call with stage := stage' } := by
    rw [putback, ← named]
    exact Table.find?_put_self (r := { call with stage := stage' }) (named ▸ found)
  -- Who has drawn what is as before, but for a hash that lands now.
  have drawer {other : PayCall} (present : other ∈ s'.calls) {txHash : Hash} (drew : other.stage.hash = some txHash) :
      (∃ before ∈ s.calls, before.id = other.id ∧ before.stage.hash = some txHash) ∨
        other.id = id ∧ txHash ∉ s.hashes ∧ txHash ∈ s'.hashes := by
    rw [putback] at present
    rcases Table.mem_put.mp present with ⟨present, -⟩ | ⟨rfl, -⟩
    · exact .inl ⟨other, present, rfl, drew⟩
    · rcases moved.hash with same | ⟨-, fresh, executed, landing⟩
      · exact .inl ⟨call, member, rfl, same ▸ drew⟩
      · obtain rfl := Option.some.inj (landing.symm.trans drew)
        exact .inr ⟨named, landed fresh executed⟩
  refine ⟨bounded sound.bounded, ?_, ?_, ?_, ?_, ?_⟩
  · intro row present
    rcases moved.events present with present | drew
    · exact kept _ (sound.events row present)
    · exact kept _ (sound.drawn call member _ drew)
  · intro other present txHash drew
    rcases drawer present drew with ⟨before, present, -, drew⟩ | ⟨-, -, landed⟩
    · exact kept _ (sound.drawn before present txHash drew)
    · exact landed
  · intro one present other present' txHash drew drew'
    rcases drawer present drew with ⟨before, present, same, drew⟩ | ⟨same, fresh, -⟩ <;>
      rcases drawer present' drew' with ⟨before', present', same', drew'⟩ | ⟨same', fresh', -⟩
    · rw [← same, ← same']
      exact sound.apart before present before' present' txHash drew drew'
    · exact (fresh' (sound.drawn before present txHash drew)).elim
    · exact (fresh (sound.drawn before' present' txHash drew')).elim
    · rw [same, same']
  · intro other present
    rw [putback] at present
    rcases Table.mem_put.mp present with ⟨present, apart⟩ | ⟨rfl, -⟩
    · refine (sound.told other present).same fun txHash drew => moved.same fun same => apart ?_
      exact sound.apart other present call member txHash drew same
    · refine moved.told sound.bounded (sound.told call member) fun txHash executed row present same => ?_
      exact (landed txHash executed).1 (same ▸ sound.events row present)
  · intro row present
    rcases moved.events present with present | drew
    · rcases sound.rows row present with first | ⟨other, present, drew⟩
      · exact .inl first
      · right
        by_cases same : other.id = id
        · obtain rfl : other = call := Option.some.inj ((Table.find?_of_mem present).symm.trans (same ▸ found))
          refine ⟨_, Table.mem_of_find? self, ?_⟩
          rcases moved.hash with kept | ⟨none, -⟩
          · exact kept.trans drew
          · cases none.symm.trans drew
        · refine ⟨other, ?_, drew⟩
          rw [putback]
          exact Table.mem_put.mpr (.inl ⟨present, fun key => same (key.trans named)⟩)
    · refine .inr ⟨_, Table.mem_of_find? self, ?_⟩
      rcases moved.hash with kept | ⟨none, -⟩
      · exact kept.trans drew
      · cases none.symm.trans drew

theorem opened {id : Nat} (sound : PaySound initial s) (taken : payStep s (.opened id input) = some s') :
    PaySound initial s' := by
  obtain ⟨calls, inserted, rfl⟩ := Option.map_eq_some_iff.mp taken
  have drawer {other : PayCall} (present : other ∈ calls) {txHash : Hash} (drew : other.stage.hash = some txHash) :
      other ∈ s.calls := by
    rcases (Table.mem_insert? inserted).mp present with rfl | present
    · cases drew
    · exact present
  refine ⟨sound.bounded, sound.events, ?_, ?_, ?_, ?_⟩
  · exact fun other present txHash drew => sound.drawn other (drawer present drew) txHash drew
  · exact fun one present other present' txHash drew drew' =>
      sound.apart one (drawer present drew) other (drawer present' drew') txHash drew drew'
  · intro other present
    rcases (Table.mem_insert? inserted).mp present with rfl | present
    · trivial
    · exact sound.told other present
  · intro row present
    refine (sound.rows row present).imp_right ?_
    rintro ⟨other, present, drew⟩
    exact ⟨other, (Table.mem_insert? inserted).mpr (.inr present), drew⟩

theorem elsewhere {delegations : DelegationDb} {agents : Table FleetAgentRow.id} {allowlist : DestinationAllowlist}
    (sound : PaySound initial s) (taken : payStep s (.elsewhere delegations agents allowlist) = some s') :
    PaySound initial s' := by
  simp only [payStep] at taken
  split at taken
  · rename_i bounded
    obtain rfl := Option.some.inj taken
    refine ⟨bounded, sound.events, sound.drawn, sound.apart, fun other present => ?_, sound.rows⟩
    exact (sound.told other present).same fun _ _ _ _ => Iff.rfl
  · cases taken

end PaySound

variable {s₀ : PayWorld} {events : List (PayWorld × PayLabel)}

theorem run_sound (run : Run payStep s₀ events s) (idle : s₀.calls = .empty) (bounded : s₀.db.delegations.Bounded)
    (landed : ∀ row ∈ s₀.db.events, row.tx_hash ∈ s₀.hashes) : PaySound s₀.db.events s := by
  refine run.always (PaySound s₀.db.events) ⟨bounded, landed, ?_, ?_, ?_, fun row present => .inl present⟩ ?_
  · simp [idle]
  · simp [idle]
  · simp [idle]
  · intro s label s' sound taken
    cases label with
    | opened => exact sound.opened taken
    | statement => exact sound.statement taken
    | elsewhere => exact sound.elsewhere taken

/-- A call that has drawn leaves its event if and only if the seller has answered what the event can hold, and every other
event is of what some call has drawn. -/
theorem drawn_recorded_iff (run : Run payStep s₀ events s) (idle : s₀.calls = .empty) (bounded : s₀.db.delegations.Bounded)
    (landed : ∀ row ∈ s₀.db.events, row.tx_hash ∈ s₀.hashes) :
    (∀ call ∈ s.calls, ∀ drawn, call.stage.drawn? = some drawn →
      (RecordedOnce s.db call.input drawn ↔ Storable call.input drawn)) ∧
    ∀ row ∈ s.db.events, row ∈ s₀.db.events ∨ ∃ call ∈ s.calls, call.stage.hash = some row.tx_hash := by
  have sound := run_sound run idle bounded landed
  refine ⟨fun call member drawn finished => ?_, sound.rows⟩
  have told := sound.told call member
  unfold PayStage.drawn? at finished
  split at finished
  case h_2 => cases finished
  rename_i ended
  subst finished
  rw [ended] at told
  rcases told with ⟨storable, recorded⟩ | ⟨refused, none⟩
  · exact iff_of_true recorded storable
  · refine iff_of_false ?_ refused
    rintro ⟨row, present, named, -⟩
    exact none row present named

section Example

def fleetSeller : Address := ⟨2, 0⟩

def fleet : PayWorld where
  db := {
    delegations := {
      delegations := ⟨[⟨1, 1, some 1, ⟨1, 0⟩, some 2, fleetSeller, .test, .base, ⟨9, 0⟩, 5000000, 0, 100, 0, .active, .agent⟩],
        by decide⟩
      drawdowns := .empty
      treasuries := .empty
      wallets := ⟨[⟨1, .test, .base, ⟨1, 0⟩, true⟩, ⟨2, .test, .base, fleetSeller, true⟩], by decide⟩
      ceilings := .empty }
    agents := ⟨[⟨2, 1, "seller"⟩], by decide⟩
    allowlist := ⟨.empty, by decide⟩
    events := .empty }
  calls := .empty
  hashes := []

def hiresSeller (id : Nat) : PayLabel := .opened id ⟨1, 1, 2, .test, .base, "https://seller", .operator 1, none⟩

def paidStatements (id : Nat) (txHash : Hash) (paid : Option PaidAnswer) : List PayLabel :=
  List.replicate 7 (.statement id ⟨⟨id, 0, .ok 10000, .error fetchFailed⟩, some ⟨402, some [⟨some "10000", none⟩]⟩, none⟩) ++
    [.statement id ⟨⟨id, 0, .ok 0, .ok txHash⟩, none, none⟩, .statement id ⟨⟨id, 0, .ok 0, .error fetchFailed⟩, none, paid⟩]

def drawnFrom (paid : Option PaidAnswer) : DrawnPayment := ⟨⟨fleetSeller, "seller", 10000⟩, "0x77", paid⟩

def nulText : CodeUnits := [0x22, 0x5C, 0x75, 0x30, 0x30, 0x30, 0x30, 0x22]

/-- The seller closes the connection of the paid request, or answers with a text that `jsonb` does not take. -/
theorem drawn_unrecorded :
    (∃ events s, Run payStep fleet events s ∧
      (s.calls.find? 5).bind (fun call => call.stage.drawn?) = some (drawnFrom none) ∧ s.db.events.rows = []) ∧
    ∃ events s, Run payStep fleet events s ∧
      (s.calls.find? 5).bind (fun call => call.stage.drawn?) = some (drawnFrom (some ⟨200, some nulText⟩)) ∧
      s.db.events.rows = [] := by
  constructor
  · exact exists_run (hiresSeller 5 :: paidStatements 5 "0x77" none) _ (by decide +kernel)
  · exact exists_run (hiresSeller 5 :: paidStatements 5 "0x77" (some ⟨200, some nulText⟩) ++
      [.statement 5 ⟨⟨5, 0, .ok 0, .error fetchFailed⟩, none, none⟩]) _ (by decide +kernel)

/-- The seller answers with an empty object. -/
theorem drawn_recorded : ∃ events s, Run payStep fleet events s ∧ ∃ call ∈ s.calls,
    call.stage.drawn? = some (drawnFrom (some ⟨200, some [0x7B, 0x7D]⟩)) ∧
    RecordedOnce s.db call.input (drawnFrom (some ⟨200, some [0x7B, 0x7D]⟩)) := by
  obtain ⟨events, s, run, reached⟩ : ∃ events s, Run payStep fleet events s ∧
      (s.calls.find? 5).any fun call => call.stage.drawn? = some (drawnFrom (some ⟨200, some [0x7B, 0x7D]⟩)) ∧
        call.input.storable = true :=
    exists_run (hiresSeller 5 :: paidStatements 5 "0x77" (some ⟨200, some [0x7B, 0x7D]⟩) ++
      [.statement 5 ⟨⟨5, 0, .ok 0, .error fetchFailed⟩, none, none⟩]) _ (by decide +kernel)
  obtain ⟨call, found, reached⟩ := (Option.any_eq_true _ _).mp reached
  obtain ⟨drew, storable⟩ := of_decide_eq_true reached
  refine ⟨events, s, run, call, Table.mem_of_find? found, drew, ?_⟩
  refine ((drawn_recorded_iff run rfl (by decide) ?_).1 call (Table.mem_of_find? found) _ drew).mpr ?_
  · simp [fleet]
  · exact ⟨storable, _, rfl, by decide⟩

end Example

end AgentOps.Payments
