import AgentOps.Payments.DelegationSteps

namespace AgentOps.Payments
open Lib Identity

/-! # The accounts of delegations under concurrent draws -/

variable {s s' : DelegationWorld} {call : DelegationCall} {id : Nat} {db db' : DelegationDb} {work : DelegationWork}
  {result : DelegationResult}

theorem insertDelegation_ok {row : AgentDelegationRow} (inserted : insertDelegation db row = .ok db') :
    ∃ delegations, db.delegations.insert? row = some delegations ∧ db' = { db with delegations } := by
  unfold insertDelegation at inserted
  split_ifs at inserted
  split at inserted
  · cases inserted
  · rename_i delegations fresh
    exact ⟨delegations, fresh, (Except.ok.inj inserted).symm⟩

theorem setDrawn_of_find? {row : AgentDelegationRow} (found : db.delegations.find? id = some row) (drawn : Nat)
    (status : DelegationStatus) : db.setDrawn id drawn status =
      { db with delegations := db.delegations.put { row with drawn_usdc := drawn, status } } := by
  simp [DelegationDb.setDrawn, found]

theorem setRevoked_of_find? {row : AgentDelegationRow} (found : db.delegations.find? id = some row) :
    db.setRevoked id = { db with delegations := db.delegations.put { row with status := .revoked } } := by
  simp [DelegationDb.setRevoked, found]

def confirmedDrawdown (id : DrawdownId) (input : DrawDownInput) (txHash : Hash) : DelegationDrawdownRow :=
  ⟨id, input.delegationId, input.amountUsdc, some txHash, .confirmed⟩

def drawnRow (delegation : AgentDelegationRow) (amountMicros : Nat) : AgentDelegationRow :=
  { delegation with
    drawn_usdc := delegation.drawn_usdc + amountMicros
    status := if delegation.ceiling_usdc ≤ delegation.drawn_usdc + amountMicros then .exhausted else .active }

theorem recordDraw_eq {input : DrawDownInput} {delegation : AgentDelegationRow} {txHash : Hash}
    (found : db.delegations.find? input.delegationId = some delegation)
    (recorded : recordDraw db id input delegation txHash = some db') :
    ∃ drawdowns, db.drawdowns.insert? (confirmedDrawdown id input txHash) = some drawdowns ∧
      db' = { db with drawdowns, delegations := db.delegations.put (drawnRow delegation input.amountUsdc) } := by
  unfold recordDraw at recorded
  split at recorded
  · cases recorded
  rename_i drawdowns inserted
  refine ⟨drawdowns.put (confirmedDrawdown id input txHash), Table.insert?_put inserted rfl, ?_⟩
  have located : ({ db with drawdowns := drawdowns.put (confirmedDrawdown id input txHash) } :
      DelegationDb).delegations.find? input.delegationId = some delegation := found
  rw [← Option.some.inj recorded]
  exact setDrawn_of_find? located _ _

def DelegationWork.snapshot : DelegationWork → Option AgentDelegationRow
  | .drawDown _ (.insert delegation) | .drawDown _ (.transfer delegation) | .drawDown _ (.update delegation _)
  | .revokeDelegation _ (.lockdown delegation) | .revokeDelegation _ (.update delegation) => some delegation
  | _ => none

structure DelegationWork.Fits (work : DelegationWork) (row : AgentDelegationRow) : Prop where
  draws : ∀ input phase, work = .drawDown input phase →
    row.status = .active ∧ row.drawn_usdc + input.amountUsdc ≤ row.ceiling_usdc
  platform : ∀ input delegation, work = .revokeDelegation input (.lockdown delegation) → row.payer_kind ≠ .user

def Holding (db : DelegationDb) (work : DelegationWork) : Prop :=
  ∀ id, work.holds = some id → ∃ row, work.snapshot = some row ∧ db.delegations.find? id = some row ∧ row.status ≠ .revoked ∧
    work.Fits row

structure Serialized (s : DelegationWorld) : Prop where
  alone : ∀ call ∈ s.calls, ∀ other ∈ s.calls, ∀ id, call.work.holds = some id → other.work.holds = some id → call = other
  holding : ∀ call ∈ s.calls, Holding s.db call.work
  unused : ∀ call ∈ s.calls, s.db.Unused call.id

theorem not_held (free : s.held id = false) : ∀ call ∈ s.calls, call.work.holds ≠ some id := by
  intro call member holds
  have held : s.held id = true := List.any_eq_true.mpr ⟨call, member, by simpa using holds⟩
  rw [free] at held
  cases held

theorem fits_drawDown {input : DrawDownInput} {phase : DrawPhase} {row : AgentDelegationRow} (active : row.status = .active)
    (within : row.drawn_usdc + input.amountUsdc ≤ row.ceiling_usdc) : (DelegationWork.drawDown input phase).Fits row where
  draws input' phase' same := by
    obtain ⟨rfl, -⟩ := DelegationWork.drawDown.inj same
    exact ⟨active, within⟩
  platform _ _ same := DelegationWork.noConfusion same

theorem fits_revokeDelegation {input : RevokeDelegationInput} {phase : RevokePhase} {row : AgentDelegationRow}
    (platform : ∀ delegation, phase = .lockdown delegation → row.payer_kind ≠ .user) :
    (DelegationWork.revokeDelegation input phase).Fits row where
  draws _ _ same := DelegationWork.noConfusion same
  platform _ delegation same := platform delegation (DelegationWork.revokeDelegation.inj same).2

theorem holding_of_not_holds (nothing : work.holds = none) : Holding db work := by
  intro id holds
  rw [nothing] at holds
  cases holds

theorem Holding.row {row : AgentDelegationRow} (holding : Holding db work) (holds : work.holds = some id)
    (read : work.snapshot = some row) : db.delegations.find? id = some row ∧ row.status ≠ .revoked ∧ work.Fits row := by
  obtain ⟨other, same, rest⟩ := holding id holds
  obtain rfl := Option.some.inj (read.symm.trans same)
  exact rest

theorem DelegationAdvance.holding {answer : Nat} {work' : DelegationWork} (advance : DelegationAdvance s call answer work work')
    (holding : Holding s.db work) : Holding s.db work' ∧ ∀ id, work'.holds = some id →
      work.holds = some id ∨ s.held id = false := by
  cases advance with
  | grant => exact ⟨holding_of_not_holds rfl, fun _ holds => nomatch holds⟩
  | @drawLock input delegation free found live within =>
    refine ⟨fun id holds => ?_, fun id holds => .inr ?_⟩
    · obtain rfl := Option.some.inj holds
      refine ⟨delegation, rfl, found, ?_, fits_drawDown live.1 within⟩
      rw [live.1]
      exact nofun
    · obtain rfl := Option.some.inj holds
      exact free
  | @drawInsert input delegation =>
    refine ⟨fun id holds => ?_, fun id holds => .inl holds⟩
    obtain ⟨found, going, fits⟩ := holding.row holds rfl
    obtain ⟨active, within⟩ := fits.draws input _ rfl
    exact ⟨delegation, rfl, found, going, fits_drawDown active within⟩
  | @lockdown input delegation free found going platform =>
    refine ⟨fun id holds => ?_, fun id holds => .inr ?_⟩
    · obtain rfl := Option.some.inj holds
      exact ⟨delegation, rfl, found, going, fits_revokeDelegation fun _ _ => platform⟩
    · obtain rfl := Option.some.inj holds
      exact free
  | @revokeUser input delegation free found going user =>
    refine ⟨fun id holds => ?_, fun id holds => .inr ?_⟩
    · obtain rfl := Option.some.inj holds
      exact ⟨delegation, rfl, found, going, fits_revokeDelegation fun _ same => RevokePhase.noConfusion same⟩
    · obtain rfl := Option.some.inj holds
      exact free

theorem confirmed_holding {transaction : ChainTransaction} (sends : work.sends = some transaction) (txHash : Hash)
    (holding : Holding db work) : Holding db (work.confirmed txHash) ∧ (work.confirmed txHash).holds = work.holds := by
  unfold DelegationWork.sends at sends
  split at sends
  · exact ⟨holding_of_not_holds rfl, rfl⟩
  · exact ⟨holding_of_not_holds rfl, rfl⟩
  · refine ⟨fun id holds => ?_, rfl⟩
    obtain ⟨found, going, fits⟩ := holding.row holds rfl
    obtain ⟨active, within⟩ := fits.draws _ _ rfl
    exact ⟨_, rfl, found, going, fits_drawDown active within⟩
  · refine ⟨fun id holds => ?_, rfl⟩
    obtain ⟨found, going, -⟩ := holding.row holds rfl
    exact ⟨_, rfl, found, going, fits_revokeDelegation fun _ same => RevokePhase.noConfusion same⟩
  · cases sends

theorem DelegationCommit.keeps (commit : DelegationCommit s id work db result) (holding : Holding s.db work)
    {other : DelegationId} {row : AgentDelegationRow} (apart : work.holds ≠ some other)
    (found : s.db.delegations.find? other = some row) : db.delegations.find? other = some row := by
  cases commit with
  | granted inserted =>
    obtain ⟨delegations, fresh, rfl⟩ := insertDelegation_ok inserted
    exact Table.find?_insert?_of_find? fresh found
  | @drawn input delegation txHash db recorded =>
    have held := (holding.row rfl rfl).1
    obtain ⟨drawdowns, -, rfl⟩ := recordDraw_eq held recorded
    refine (Table.find?_put_ne ?_).trans found
    intro same
    exact apart (congrArg some ((Table.key_of_find? held).symm.trans same))
  | wasRevoked => exact found
  | @revoked input delegation onChainRevoked =>
    have held := (holding.row rfl rfl).1
    rw [setRevoked_of_find? held]
    refine (Table.find?_put_ne ?_).trans found
    intro same
    exact apart (congrArg some ((Table.key_of_find? held).symm.trans same))

theorem DelegationCommit.unused (commit : DelegationCommit s id work db result) (holding : Holding s.db work) {other : Nat}
    (apart : id ≠ other) (unused : s.db.Unused other) : db.Unused other := by
  cases commit with
  | granted inserted =>
    obtain ⟨delegations, fresh, rfl⟩ := insertDelegation_ok inserted
    exact ⟨(Table.find?_insert?_ne fresh apart).trans unused.1, unused.2⟩
  | @drawn input delegation txHash db recorded =>
    have held := (holding.row rfl rfl).1
    obtain ⟨drawdowns, inserted, rfl⟩ := recordDraw_eq held recorded
    exact ⟨Table.find?_put_none unused.1 _, (Table.find?_insert?_ne inserted apart).trans unused.2⟩
  | wasRevoked => exact unused
  | @revoked input delegation onChainRevoked =>
    have held := (holding.row rfl rfl).1
    rw [setRevoked_of_find? held]
    exact ⟨Table.find?_put_none unused.1 _, unused.2⟩

namespace Serialized

theorem sub (serialized : Serialized s) (sub : ∀ call ∈ s'.calls, call ∈ s.calls) (same : s'.db = s.db) : Serialized s' where
  alone call member other member' := serialized.alone call (sub call member) other (sub other member')
  holding call member := same ▸ serialized.holding call (sub call member)
  unused call member := same ▸ serialized.unused call (sub call member)

theorem remove (serialized : Serialized s) : Serialized (s.dropped id) :=
  serialized.sub (fun _ member => (Table.mem_remove.mp member).1) rfl

theorem put (serialized : Serialized s) (found : s.calls.find? id = some call) (holding : Holding s.db work)
    (locks : ∀ id, work.holds = some id → call.work.holds = some id ∨ s.held id = false) :
    Serialized (s.continued call work) := by
  have member := Table.mem_of_find? found
  have others : ∀ other ∈ s.calls, other.id ≠ call.id → ∀ id, work.holds = some id → other.work.holds ≠ some id := by
    intro other inside apart id holds both
    rcases locks id holds with held | free
    · exact apart (congrArg DelegationCall.id (serialized.alone other inside call member id both held))
    · exact not_held free other inside both
  constructor
  · intro first inside second inside' id holds holds'
    rcases Table.mem_put.mp inside with ⟨inside, apart⟩ | ⟨rfl, -⟩
    · rcases Table.mem_put.mp inside' with ⟨inside', -⟩ | ⟨rfl, -⟩
      · exact serialized.alone first inside second inside' id holds holds'
      · exact (others first inside apart id holds' holds).elim
    · rcases Table.mem_put.mp inside' with ⟨inside', apart⟩ | ⟨rfl, -⟩
      · exact (others second inside' apart id holds holds').elim
      · rfl
  · intro other inside
    rcases Table.mem_put.mp inside with ⟨inside, -⟩ | ⟨rfl, -⟩
    · exact serialized.holding other inside
    · exact holding
  · intro other inside
    rcases Table.mem_put.mp inside with ⟨inside, -⟩ | ⟨rfl, -⟩
    · exact serialized.unused other inside
    · exact serialized.unused call member

theorem commit (serialized : Serialized s) (found : s.calls.find? id = some call)
    (commit : DelegationCommit s call.id call.work db result) :
    Serialized { s.dropped id with db, returned := result :: s.returned } := by
  have member := Table.mem_of_find? found
  have held := serialized.holding call member
  constructor
  · exact serialized.remove.alone
  · intro other inside id holds
    obtain ⟨inside, apart⟩ := Table.mem_remove.mp inside
    obtain ⟨row, read, located, rest⟩ := serialized.holding other inside id holds
    refine ⟨row, read, commit.keeps held ?_ located, rest⟩
    intro both
    have same := serialized.alone other inside call member id holds both
    exact apart (same ▸ Table.key_of_find? found)
  · intro other inside
    obtain ⟨inside, apart⟩ := Table.mem_remove.mp inside
    refine commit.unused held ?_ (serialized.unused other inside)
    rw [Table.key_of_find? found]
    exact Ne.symm apart

theorem step {label : DelegationLabel} (serialized : Serialized s) (move : DelegationMove s label s') : Serialized s' := by
  cases move with
  | pass => exact serialized.sub (fun _ member => member) rfl
  | @call id request calls unused begun =>
    have starts : request.work.holds = none := by cases request <;> rfl
    constructor
    · intro first inside second inside' id holds holds'
      rcases (Table.mem_insert? begun).mp inside with rfl | inside
      · rw [starts] at holds
        cases holds
      · rcases (Table.mem_insert? begun).mp inside' with rfl | inside'
        · rw [starts] at holds'
          cases holds'
        · exact serialized.alone first inside second inside' id holds holds'
    · intro other inside
      rcases (Table.mem_insert? begun).mp inside with rfl | inside
      · exact holding_of_not_holds starts
      · exact serialized.holding other inside
    · intro other inside
      rcases (Table.mem_insert? begun).mp inside with rfl | inside
      · exact unused
      · exact serialized.unused other inside
  | goOn found stated =>
    have advance := advance_of_statement stated
    obtain ⟨holding, locks⟩ := advance.holding (serialized.holding _ (Table.mem_of_find? found))
    exact serialized.put found holding locks
  | failed => exact serialized.remove
  | committed found stated => exact serialized.commit found (commit_of_statement stated)
  | confirm found sends =>
    obtain ⟨holding, same⟩ := confirmed_holding sends _ (serialized.holding _ (Table.mem_of_find? found))
    have kept := serialized.put found holding fun id holds => .inl (same ▸ holds)
    exact kept.sub (fun _ member => member) rfl
  | abandon => exact serialized.remove.sub (fun _ member => member) rfl
  | fail => exact serialized.remove
  | land => exact serialized.sub (fun _ member => member) rfl

end Serialized

def confirmedTotal (db : DelegationDb) (id : DelegationId) : Nat :=
  db.drawdowns.sum fun drawdown =>
    if drawdown.delegation_id = id ∧ drawdown.status = .confirmed then drawdown.amount_usdc else 0

structure DelegationAccounts (db : DelegationDb) : Prop where
  drawn : ∀ row ∈ db.delegations, row.drawn_usdc = confirmedTotal db row.id
  within : ∀ row ∈ db.delegations, row.drawn_usdc ≤ row.ceiling_usdc
  exhausted : ∀ row ∈ db.delegations, row.status = .exhausted → row.drawn_usdc = row.ceiling_usdc

/-- `REFERENCES agent_delegations (id)` -/
def Referenced (db : DelegationDb) : Prop :=
  ∀ drawdown ∈ db.drawdowns, ∃ row, db.delegations.find? drawdown.delegation_id = some row

theorem confirmedTotal_unused (referenced : Referenced db) (unused : db.delegations.find? id = none) :
    confirmedTotal db id = 0 := by
  have nothing : ∀ drawdown ∈ db.drawdowns,
      (if drawdown.delegation_id = id ∧ drawdown.status = .confirmed then drawdown.amount_usdc else 0) = 0 := by
    intro drawdown member
    refine if_neg fun mine => ?_
    obtain ⟨row, found⟩ := referenced drawdown member
    rw [mine.1, unused] at found
    cases found
  rw [confirmedTotal, Table.sum_congr nothing]
  simp [Table.sum]

theorem confirmedTotal_drawn {drawdowns : Table DelegationDrawdownRow.id} {input : DrawDownInput} {txHash : Hash}
    (inserted : db.drawdowns.insert? (confirmedDrawdown id input txHash) = some drawdowns)
    (delegations : Table AgentDelegationRow.id) (other : DelegationId) :
    confirmedTotal { db with drawdowns, delegations } other =
      confirmedTotal db other + if input.delegationId = other then input.amountUsdc else 0 := by
  have total := Table.sum_insert? (fun drawdown : DelegationDrawdownRow =>
    if drawdown.delegation_id = other ∧ drawdown.status = .confirmed then drawdown.amount_usdc else 0) inserted
  simp only [confirmedDrawdown, and_true] at total
  simp only [confirmedTotal]
  omega

structure Accounted (db : DelegationDb) : Prop extends DelegationAccounts db where
  referenced : Referenced db

theorem Accounted.commit (accounted : Accounted s.db) (commit : DelegationCommit s id work db result)
    (holding : Holding s.db work) (unused : s.db.Unused id) : Accounted db := by
  cases commit with
  | @granted input payer balance nonce db inserted =>
    obtain ⟨delegations, fresh, rfl⟩ := insertDelegation_ok inserted
    constructor
    · constructor
      · intro row member
        rcases (Table.mem_insert? fresh).mp member with rfl | member
        · exact (confirmedTotal_unused accounted.referenced unused.1).symm
        · exact accounted.drawn row member
      · intro row member
        rcases (Table.mem_insert? fresh).mp member with rfl | member
        · exact Nat.zero_le _
        · exact accounted.within row member
      · intro row member exhausted
        rcases (Table.mem_insert? fresh).mp member with rfl | member
        · cases exhausted
        · exact accounted.exhausted row member exhausted
    · intro drawdown member
      obtain ⟨row, found⟩ := accounted.referenced drawdown member
      exact ⟨row, Table.find?_insert?_of_find? fresh found⟩
  | @drawn input delegation txHash db recorded =>
    obtain ⟨found, -, fits⟩ := holding.row rfl rfl
    have within := (fits.draws input _ rfl).2
    have key := Table.key_of_find? found
    obtain ⟨drawdowns, inserted, rfl⟩ := recordDraw_eq found recorded
    constructor
    · constructor
      · intro row member
        rw [confirmedTotal_drawn inserted]
        rcases Table.mem_put.mp member with ⟨member, apart⟩ | ⟨rfl, -⟩
        · have other : input.delegationId ≠ row.id := fun same => apart (same.symm.trans key.symm)
          rw [if_neg other, Nat.add_zero]
          exact accounted.drawn row member
        · have before := accounted.drawn delegation (Table.mem_of_find? found)
          have mine : input.delegationId = (drawnRow delegation input.amountUsdc).id := key.symm
          rw [if_pos mine]
          exact congrArg (· + input.amountUsdc) before
      · intro row member
        rcases Table.mem_put.mp member with ⟨member, -⟩ | ⟨rfl, -⟩
        · exact accounted.within row member
        · exact within
      · intro row member exhausted
        rcases Table.mem_put.mp member with ⟨member, -⟩ | ⟨rfl, -⟩
        · exact accounted.exhausted row member exhausted
        · simp only [drawnRow, ite_eq_left_iff, reduceCtorEq, imp_false, not_not] at exhausted
          exact Nat.le_antisymm within exhausted
    · have grows (other : DelegationId) (row : AgentDelegationRow) (located : s.db.delegations.find? other = some row) :
          ∃ row', (s.db.delegations.put (drawnRow delegation input.amountUsdc)).find? other = some row' :=
        ⟨_, Table.find?_put located⟩
      intro drawdown member
      rcases (Table.mem_insert? inserted).mp member with rfl | member
      · exact grows _ delegation found
      · obtain ⟨row, located⟩ := accounted.referenced drawdown member
        exact grows _ row located
  | wasRevoked => exact accounted
  | @revoked input delegation onChainRevoked =>
    have found := (holding.row rfl rfl).1
    rw [setRevoked_of_find? found]
    constructor
    · constructor
      · intro row member
        rcases Table.mem_put.mp member with ⟨member, -⟩ | ⟨rfl, -⟩
        · exact accounted.drawn row member
        · exact accounted.drawn delegation (Table.mem_of_find? found)
      · intro row member
        rcases Table.mem_put.mp member with ⟨member, -⟩ | ⟨rfl, -⟩
        · exact accounted.within row member
        · exact accounted.within delegation (Table.mem_of_find? found)
      · intro row member exhausted
        rcases Table.mem_put.mp member with ⟨member, -⟩ | ⟨rfl, -⟩
        · exact accounted.exhausted row member exhausted
        · cases exhausted
    · intro drawdown member
      obtain ⟨row, located⟩ := accounted.referenced drawdown member
      exact ⟨_, Table.find?_put located⟩

structure DelegationWorld.Fresh (s : DelegationWorld) : Prop where
  delegations : s.db.delegations = .empty
  drawdowns : s.db.drawdowns = .empty
  calls : s.calls = .empty

structure Orderly (s : DelegationWorld) : Prop where
  serialized : Serialized s
  accounted : Accounted s.db

theorem DelegationWorld.Fresh.orderly (fresh : s.Fresh) : Orderly s := by
  obtain ⟨delegations, drawdowns, calls⟩ := fresh
  constructor
  · constructor <;> simp [calls]
  · constructor
    · constructor <;> simp [delegations]
    · simp [Referenced, drawdowns]

theorem Orderly.step {label : DelegationLabel} (orderly : Orderly s) (move : DelegationMove s label s') : Orderly s' := by
  refine ⟨orderly.serialized.step move, ?_⟩
  cases move with
  | committed found stated =>
    have member := Table.mem_of_find? found
    exact orderly.accounted.commit (commit_of_statement stated) (orderly.serialized.holding _ member)
      (orderly.serialized.unused _ member)
  | _ => exact orderly.accounted

theorem orderly_of_run {s₀ : DelegationWorld} {events : List (DelegationWorld × DelegationLabel)} (orderly : Orderly s₀)
    (run : Run delegationStep s₀ events s) : Orderly s :=
  run.always Orderly orderly fun _ _ _ orderly taken => orderly.step (move_of_step taken)

def Revoked (db : DelegationDb) (id : DelegationId) : Prop :=
  ∃ row, db.delegations.find? id = some row ∧ row.status = .revoked

/-- The drawdowns of a delegation that `db'` has, `db` has too. -/
def NotDrawnSince (db db' : DelegationDb) (id : DelegationId) : Prop :=
  ∀ drawdown ∈ db'.drawdowns, drawdown.delegation_id = id → drawdown ∈ db.drawdowns

theorem DelegationCommit.revoked_stays (commit : DelegationCommit s call.id work db result) (holding : Holding s.db work)
    (revoked : Revoked s.db id) : Revoked db id ∧ NotDrawnSince s.db db id := by
  obtain ⟨row, found, closed⟩ := revoked
  have apart : work.holds ≠ some id := by
    intro holds
    obtain ⟨other, -, located, going, -⟩ := holding id holds
    obtain rfl := Option.some.inj (found.symm.trans located)
    exact going closed
  refine ⟨⟨row, commit.keeps holding apart found, closed⟩, ?_⟩
  intro drawdown member mine
  cases commit with
  | granted inserted =>
    obtain ⟨delegations, -, rfl⟩ := insertDelegation_ok inserted
    exact member
  | drawn recorded =>
    obtain ⟨drawdowns, inserted, rfl⟩ := recordDraw_eq (holding.row rfl rfl).1 recorded
    rcases (Table.mem_insert? inserted).mp member with rfl | member
    · exact (apart (congrArg some mine)).elim
    · exact member
  | wasRevoked => exact member
  | revoked =>
    rw [setRevoked_of_find? (holding.row rfl rfl).1] at member
    exact member

theorem not_drawn_after_revocation {later : List (DelegationWorld × DelegationLabel)} (orderly : Orderly s)
    (revoked : Revoked s.db id) (run : Run delegationStep s later s') : NotDrawnSince s.db s'.db id := by
  have kept : Orderly s' ∧ Revoked s'.db id ∧ NotDrawnSince s.db s'.db id := by
    refine run.always (fun t => Orderly t ∧ Revoked t.db id ∧ NotDrawnSince s.db t.db id)
      ⟨orderly, revoked, fun _ member _ => member⟩ ?_
    rintro t label t' ⟨orderly, revoked, before⟩ taken
    have move := move_of_step taken
    refine ⟨orderly.step move, ?_⟩
    cases move with
    | committed found stated =>
      have holding := orderly.serialized.holding _ (Table.mem_of_find? found)
      obtain ⟨revoked, now⟩ := (commit_of_statement stated).revoked_stays holding revoked
      exact ⟨revoked, fun drawdown member mine => before drawdown (now drawdown member mine) mine⟩
    | _ => exact ⟨revoked, before⟩
  exact kept.2.2

/-- Under this id, a draw of the input has locked the row while its delegation was active and unexpired. -/
def LockedWhileLive (events : List (DelegationWorld × DelegationLabel)) (id : Nat) (input : DrawDownInput) : Prop :=
  ∃ e ∈ events, ∃ answer call row, e.2 = .statement id answer ∧ e.1.calls.find? id = some call ∧
    call.work = .drawDown input .lock ∧ e.1.db.delegations.find? input.delegationId = some row ∧ row.live e.1.now

structure DrawsLocked (events : List (DelegationWorld × DelegationLabel)) (s : DelegationWorld) : Prop where
  calls : ∀ call ∈ s.calls, ∀ input phase, call.work = .drawDown input phase → phase ≠ .lock →
    LockedWhileLive events call.id input
  drawdowns : ∀ drawdown ∈ s.db.drawdowns, LockedWhileLive events drawdown.id ⟨drawdown.delegation_id, drawdown.amount_usdc⟩

theorem LockedWhileLive.append {events : List (DelegationWorld × DelegationLabel)} {input : DrawDownInput}
    (locked : LockedWhileLive events id input) (later : List (DelegationWorld × DelegationLabel)) :
    LockedWhileLive (events ++ later) id input := by
  obtain ⟨e, member, rest⟩ := locked
  exact ⟨e, List.mem_append_left _ member, rest⟩

theorem DrawsLocked.sub {events : List (DelegationWorld × DelegationLabel)} (locked : DrawsLocked events s)
    (later : List (DelegationWorld × DelegationLabel)) (sub : ∀ call ∈ s'.calls, call ∈ s.calls) (same : s'.db = s.db) :
    DrawsLocked (events ++ later) s' where
  calls call member input phase doing begun := (locked.calls call (sub call member) input phase doing begun).append later
  drawdowns drawdown member := (locked.drawdowns drawdown (same ▸ member)).append later

theorem DrawsLocked.put {events later : List (DelegationWorld × DelegationLabel)} (locked : DrawsLocked events s)
    (mine : ∀ input phase, work = .drawDown input phase → phase ≠ .lock → LockedWhileLive (events ++ later) call.id input) :
    DrawsLocked (events ++ later) (s.continued call work) where
  calls other member input phase doing begun := by
    rcases Table.mem_put.mp member with ⟨member, -⟩ | ⟨rfl, -⟩
    · exact (locked.calls other member input phase doing begun).append later
    · exact mine input phase doing begun
  drawdowns drawdown member := (locked.drawdowns drawdown member).append later

theorem DrawsLocked.step {events : List (DelegationWorld × DelegationLabel)} {label : DelegationLabel}
    (orderly : Orderly s) (locked : DrawsLocked events s) (move : DelegationMove s label s') :
    DrawsLocked (events ++ [(s, label)]) s' := by
  cases move with
  | pass => exact locked.sub _ (fun _ member => member) rfl
  | @call id request calls unused begun =>
    constructor
    · intro other member input phase doing started
      rcases (Table.mem_insert? begun).mp member with rfl | member
      · cases request <;> cases doing
        exact (started rfl).elim
      · exact (locked.calls other member input phase doing started).append _
    · exact fun drawdown member => (locked.drawdowns drawdown member).append _
  | @goOn id answer call work found stated =>
    obtain rfl := Table.key_of_find? found
    have advance := advance_of_statement stated
    refine locked.put ?_
    rintro input phase rfl begun
    generalize doing : call.work = before at advance
    cases advance with
    | drawLock free located live =>
      exact ⟨_, List.mem_append_right _ (List.mem_singleton_self _), answer, call, _, rfl, found, doing, located, live⟩
    | drawInsert => exact (locked.calls call (Table.mem_of_find? found) _ _ doing nofun).append _
  | failed => exact locked.sub _ (fun _ member => (Table.mem_remove.mp member).1) rfl
  | @committed id answer call db result found stated =>
    have commit := commit_of_statement stated
    have holding := orderly.serialized.holding call (Table.mem_of_find? found)
    constructor
    · intro other member input phase doing begun
      exact (locked.calls other (Table.mem_remove.mp member).1 input phase doing begun).append _
    · intro drawdown member
      have earlier (old : drawdown ∈ s.db.drawdowns) := (locked.drawdowns drawdown old).append [(s, .statement id answer)]
      generalize doing : call.work = before at commit
      cases commit with
      | granted inserted =>
        obtain ⟨delegations, -, rfl⟩ := insertDelegation_ok inserted
        exact earlier member
      | drawn recorded =>
        rw [doing] at holding
        obtain ⟨drawdowns, inserted, rfl⟩ := recordDraw_eq (holding.row rfl rfl).1 recorded
        rcases (Table.mem_insert? inserted).mp member with rfl | member
        · exact (locked.calls call (Table.mem_of_find? found) _ _ doing nofun).append _
        · exact earlier member
      | wasRevoked => exact earlier member
      | revoked =>
        rw [doing] at holding
        rw [setRevoked_of_find? (holding.row rfl rfl).1] at member
        exact earlier member
  | @confirm id txHash call transaction chain found sends landed =>
    have kept : DrawsLocked (events ++ [(s, .confirm id txHash)]) (s.continued call (call.work.confirmed txHash)) := by
      refine locked.put ?_
      intro input phase doing begun
      refine (?_ : LockedWhileLive events call.id input).append _
      cases work : call.work with
      | drawDown input' phase' =>
        have draws := locked.calls call (Table.mem_of_find? found) input' phase' work
        rw [work] at doing sends
        cases phase' with
        | transfer delegation =>
          obtain ⟨rfl, -⟩ := DelegationWork.drawDown.inj doing
          exact draws nofun
        | _ => cases sends
      | recordSignedDelegation input' phase' =>
        rw [work] at doing
        cases phase' <;> cases doing
      | revokeDelegation input' phase' =>
        rw [work] at doing
        cases phase' <;> cases doing
    exact ⟨kept.calls, kept.drawdowns⟩
  | abandon => exact locked.sub _ (fun _ member => (Table.mem_remove.mp member).1) rfl
  | fail => exact locked.sub _ (fun _ member => (Table.mem_remove.mp member).1) rfl
  | land => exact locked.sub _ (fun _ member => member) rfl

theorem drawsLocked_of_run {s₀ : DelegationWorld} {events : List (DelegationWorld × DelegationLabel)} (fresh : s₀.Fresh)
    (run : Run delegationStep s₀ events s) : DrawsLocked events s := by
  have initial : DrawsLocked [] s₀ := by
    constructor
    · simp [fresh.calls]
    · simp [fresh.drawdowns]
  have everywhere : Conforms (fun _ _ => True) events := fun _ _ => trivial
  refine run.history DrawsLocked everywhere initial ?_
  intro events s label s' before _ locked _ taken
  exact locked.step (orderly_of_run fresh.orderly before) (move_of_step taken)

theorem failed_writes_nothing (failed : delegationStep s (.fail id) = some s' ∨ delegationStep s (.abandon id) = some s') :
    s'.db = s.db ∧ s'.calls.find? id = none := by
  rcases failed with taken | taken
  · cases move_of_step taken
    exact ⟨rfl, Table.find?_remove_self _ _⟩
  · cases move_of_step taken
    exact ⟨rfl, Table.find?_remove_self _ _⟩

/-- The accounts hold in every state reached, a revoked delegation is not drawn on, every draw has locked its row while
the delegation was active and unexpired, and a draw that fails leaves the accounts. -/
theorem delegation_accounts_kept {s₀ : DelegationWorld} {events : List (DelegationWorld × DelegationLabel)} (fresh : s₀.Fresh)
    (run : Run delegationStep s₀ events s) :
    DelegationAccounts s.db ∧
      (∀ id later s', Revoked s.db id → Run delegationStep s later s' → NotDrawnSince s.db s'.db id) ∧
      (∀ drawdown ∈ s.db.drawdowns, LockedWhileLive events drawdown.id ⟨drawdown.delegation_id, drawdown.amount_usdc⟩) ∧
      ∀ id call input phase s', s.calls.find? id = some call → call.work = .drawDown input phase →
        (delegationStep s (.fail id) = some s' ∨ delegationStep s (.abandon id) = some s') →
        s'.db = s.db ∧ s'.calls.find? id = none := by
  have orderly := orderly_of_run fresh.orderly run
  refine ⟨orderly.accounted.toDelegationAccounts, ?_, (drawsLocked_of_run fresh run).drawdowns, ?_⟩
  · exact fun id later s' revoked run => not_drawn_after_revocation orderly revoked run
  · exact fun id call input phase s' found draws failed => failed_writes_nothing failed

namespace DelegationWorkspace

def world : DelegationWorld where
  now := 0
  db :=
    { delegations := .empty
      drawdowns := .empty
      treasuries := .singleton ⟨1, .test, .base, ⟨10, 0⟩, true⟩
      wallets := .singleton ⟨1, .test, .base, ⟨11, 0⟩, true⟩
      ceilings := .singleton ⟨1, .test, .base, 10⟩ }
  chain := ⟨fun _ => ⟨0, 0, 0⟩, fun _ => 0⟩
  calls := .empty
  sent := []
  returned := []

def input (payerTreasury : Bool) (ceilingUsdc : Nat) : RecordSignedDelegationInput :=
  ⟨1, some 1, none, payerTreasury, ⟨20, 0⟩, .test, .base, none, ceilingUsdc, 60000000, none⟩

def agentGrant (id ceilingUsdc nonce : Nat) : List DelegationLabel :=
  [.call id (.recordSignedDelegation (input false ceilingUsdc)), .statement id 0, .statement id nonce, .statement id 0,
    .confirm id "0xa", .statement id 0, .confirm id "0xb", .statement id 0]

def transfer (id : Nat) (delegationId : DelegationId) (amountUsdc : Nat) : List DelegationLabel :=
  [.call id (.drawDown ⟨delegationId, amountUsdc⟩), .statement id 0, .statement id 0, .confirm id "0xc"]

def revocation (id : Nat) (delegationId : DelegationId) : List DelegationLabel :=
  [.call id (.revokeDelegation ⟨delegationId⟩), .statement id 0, .confirm id "0xd", .statement id 0]

theorem fresh : world.Fresh := ⟨rfl, rfl, rfl⟩

def confirmsLate (s : DelegationWorld) : Bool :=
  (delegationStep s (.statement 2 0)).any fun s' => (s'.db.drawdowns.find? 2).any fun drawdown =>
    (s'.db.delegations.find? 1).any fun row => drawdown.status = .confirmed && drawdown.delegation_id = 1 &&
      (s.db.drawdowns.find? 2).isNone && row.expires_at ≤ s.now

end DelegationWorkspace

/-- The transfer takes longer than the delegation lasts. -/
theorem draw_confirmed_after_expiry : ∃ events s s' drawdown row,
    Run delegationStep DelegationWorkspace.world (events ++ [(s, .statement 2 0)]) s' ∧
      s.db.drawdowns.find? 2 = none ∧ s'.db.drawdowns.find? 2 = some drawdown ∧ drawdown.status = .confirmed ∧
      s'.db.delegations.find? drawdown.delegation_id = some row ∧ row.expires_at ≤ s.now := by
  obtain ⟨events, s, run, late⟩ : ∃ events s, Run delegationStep DelegationWorkspace.world events s ∧
      DelegationWorkspace.confirmsLate s = true :=
    exists_run (DelegationWorkspace.agentGrant 1 5 0 ++ DelegationWorkspace.transfer 2 1 3 ++ [.pass 90000000])
      (fun s => DelegationWorkspace.confirmsLate s = true) (by decide)
  obtain ⟨s', taken, late⟩ := (Option.any_eq_true _ _).mp late
  obtain ⟨drawdown, found, late⟩ := (Option.any_eq_true _ _).mp late
  obtain ⟨row, located, late⟩ := (Option.any_eq_true _ _).mp late
  simp only [Bool.and_eq_true, decide_eq_true_eq, Option.isNone_iff_eq_none] at late
  obtain ⟨⟨⟨confirmed, mine⟩, missing⟩, expired⟩ := late
  exact ⟨events, s, s', drawdown, row, run.next taken, missing, found, confirmed, mine ▸ located, expired⟩

theorem drawn_then_revoked_kept : ∃ events s, Run delegationStep DelegationWorkspace.world events s ∧ Revoked s.db 1 ∧
    DelegationAccounts s.db := by
  obtain ⟨events, s, run, revoked⟩ : ∃ events s, Run delegationStep DelegationWorkspace.world events s ∧
      ((s.db.delegations.find? 1).any fun row => row.status = .revoked) = true :=
    exists_run (DelegationWorkspace.agentGrant 1 5 0 ++ DelegationWorkspace.transfer 2 1 3 ++ [.statement 2 0] ++
      DelegationWorkspace.revocation 3 1)
      (fun s : DelegationWorld => ((s.db.delegations.find? 1).any fun row => row.status = .revoked) = true) (by decide)
  obtain ⟨row, found, revoked⟩ := (Option.any_eq_true _ _).mp revoked
  exact ⟨events, s, run, ⟨row, found, by simpa using revoked⟩,
    (delegation_accounts_kept DelegationWorkspace.fresh run).1⟩

end AgentOps.Payments
