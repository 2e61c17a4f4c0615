import AgentOps.Payments.DelegationAccounts

namespace AgentOps.Payments
open Lib Identity

/-! # Headroom and the allowances that back it -/

def headroomOn (db : DelegationDb) (now : Time) (slot : AllowanceSlot) : Nat :=
  db.delegations.sum fun row => if row.slot = slot then row.headroom now else 0

/-! ## What calls in flight have done to a slot

A draw takes from the allowance before it is written, a lockdown empties it before the row is revoked, and a permit fills
it before the row is there. -/

def DelegationWork.relief : DelegationWork → Option (AgentDelegationRow × Nat)
  | .drawDown input (.update delegation _) => some (delegation, input.amountUsdc)
  | .revokeDelegation _ (.update delegation) =>
    if delegation.payer_kind = .user then none else some (delegation, delegation.ceiling_usdc - delegation.drawn_usdc)
  | _ => none

def DelegationWork.relieves (work : DelegationWork) (id : DelegationId) : Nat :=
  match work.relief with
  | none => 0
  | some (delegation, amount) => if delegation.id = id then amount else 0

def DelegationWork.grants (now : Time) (slot : AllowanceSlot) : DelegationWork → Nat
  | .recordSignedDelegation input (.insert payer _ _) =>
    if input.slot payer = slot ∧ now < input.expiresAt then input.ceilingUsdc else 0
  | _ => 0

def relievedBy (calls : Table DelegationCall.id) (id : DelegationId) : Nat := calls.sum fun call => call.work.relieves id

def grantedOn (calls : Table DelegationCall.id) (now : Time) (slot : AllowanceSlot) : Nat :=
  calls.sum fun call => call.work.grants now slot

def claimedOn (rows : Table AgentDelegationRow.id) (calls : Table DelegationCall.id) (now : Time) (slot : AllowanceSlot) : Nat :=
  rows.sum fun row => if row.slot = slot then row.headroom now - relievedBy calls row.id else 0

namespace DelegationWorld

def committedOn (s : DelegationWorld) (slot : AllowanceSlot) : Nat :=
  claimedOn s.db.delegations s.calls s.now slot + grantedOn s.calls s.now slot

def allowanceOn (s : DelegationWorld) (slot : AllowanceSlot) : Nat := (s.chain.allowance slot).amount

def Spares (s : DelegationWorld) (slot : AllowanceSlot) (amount : Nat) : Prop :=
  s.committedOn slot + amount ≤ s.allowanceOn slot

/-- A permit lands where nothing is outstanding and a lockdown where nothing else is; a transfer lands while its delegation
is live; a call that has moved an allowance does not fail, and none that was given up on lands, beyond what is spare. -/
def Backs (s : DelegationWorld) : DelegationLabel → Prop
  | .confirm id _ => ∀ call, s.calls.find? id = some call →
      match call.work with
      | .recordSignedDelegation input (.permit payer _ _) => s.committedOn (input.slot payer) = 0
      | .drawDown input (.transfer delegation) => delegation.live s.now ∨ s.Spares delegation.slot input.amountUsdc
      | .revokeDelegation _ (.lockdown delegation) => s.committedOn delegation.slot ≤ delegation.headroom s.now
      | _ => True
  | .fail id => ∀ call, s.calls.find? id = some call → ∀ delegation amount, call.work.relief = some (delegation, amount) →
      s.Spares delegation.slot (min (delegation.headroom s.now) amount)
  | .land (.permit slot amount _ _) => s.committedOn slot ≤ amount
  | .land (.transferFrom slot amount) => s.Spares slot amount
  | .land (.lockdown slot) => s.committedOn slot = 0
  | _ => True

end DelegationWorld

/-- No slot has less than what is outstanding on it. -/
def Backed (s : DelegationWorld) : Prop := ∀ slot, s.committedOn slot ≤ s.allowanceOn slot

variable {s s' : DelegationWorld} {call : DelegationCall} {id : Nat} {work : DelegationWork} {slot : AllowanceSlot}
  {calls calls' : Table DelegationCall.id} {rows : Table AgentDelegationRow.id} {now : Time}

/-! ## Sums over the calls -/

theorem sum_continued (w : DelegationWork → Nat) (found : calls.find? id = some call) (work : DelegationWork) :
    (calls.put { call with work }).sum (fun call => w call.work) + w call.work =
      calls.sum (fun call => w call.work) + w work := by
  have located : calls.find? ({ call with work } : DelegationCall).id = some call := by
    show calls.find? call.id = some call
    rw [Table.key_of_find? found]
    exact found
  exact Table.sum_put (fun call : DelegationCall => w call.work) located

theorem sum_dropped (w : DelegationWork → Nat) (found : calls.find? id = some call) :
    (calls.remove id).sum (fun call => w call.work) + w call.work = calls.sum fun call => w call.work :=
  Table.sum_remove (fun call : DelegationCall => w call.work) found

theorem claimedOn_congr (same : ∀ id, relievedBy calls' id = relievedBy calls id) :
    claimedOn rows calls' now slot = claimedOn rows calls now slot := by
  simp only [claimedOn, same]

structure DelegationWork.Idle (work : DelegationWork) : Prop where
  relieves : ∀ id, work.relieves id = 0
  grants : ∀ now slot, work.grants now slot = 0

theorem idle_of_sends {transaction : ChainTransaction} (sends : work.sends = some transaction) : work.Idle := by
  unfold DelegationWork.sends at sends
  split at sends
  · exact ⟨fun _ => rfl, fun _ _ => rfl⟩
  · exact ⟨fun _ => rfl, fun _ _ => rfl⟩
  · exact ⟨fun _ => rfl, fun _ _ => rfl⟩
  · exact ⟨fun _ => rfl, fun _ _ => rfl⟩
  · cases sends

theorem DelegationAdvance.idle {answer : Nat} {work' : DelegationWork} (advance : DelegationAdvance s call answer work work') :
    work.Idle ∧ work'.Idle := by
  cases advance with
  | grant advance =>
    constructor
    · cases advance <;> exact ⟨fun _ => rfl, fun _ _ => rfl⟩
    · cases advance with
      | resolved => split <;> exact ⟨fun _ => rfl, fun _ _ => rfl⟩
      | _ => exact ⟨fun _ => rfl, fun _ _ => rfl⟩
  | revokeUser free found going user =>
    refine ⟨⟨fun _ => rfl, fun _ _ => rfl⟩, fun id => ?_, fun _ _ => rfl⟩
    simp [DelegationWork.relieves, DelegationWork.relief, user]
  | _ => exact ⟨⟨fun _ => rfl, fun _ _ => rfl⟩, fun _ => rfl, fun _ _ => rfl⟩

theorem committedOn_continued (found : s.calls.find? id = some call) (before : call.work.Idle) (after : work.Idle) :
    (s.continued call work).committedOn slot = s.committedOn slot := by
  have granted := sum_continued (DelegationWork.grants s.now slot) found work
  rw [before.grants, after.grants] at granted
  have relieved : ∀ other, relievedBy (s.calls.put { call with work }) other = relievedBy s.calls other := by
    intro other
    have total := sum_continued (fun work => work.relieves other) found work
    rw [before.relieves, after.relieves] at total
    exact total
  have claimed : claimedOn s.db.delegations (s.calls.put { call with work }) s.now slot =
      claimedOn s.db.delegations s.calls s.now slot := claimedOn_congr relieved
  show claimedOn s.db.delegations (s.calls.put { call with work }) s.now slot +
    grantedOn (s.calls.put { call with work }) s.now slot = _
  rw [claimed]
  exact congrArg _ granted

theorem committedOn_dropped (found : s.calls.find? id = some call) (before : ∀ other, call.work.relieves other = 0) :
    (s.dropped id).committedOn slot ≤ s.committedOn slot := by
  have granted := sum_dropped (DelegationWork.grants s.now slot) found
  have relieved : ∀ other, relievedBy (s.calls.remove id) other = relievedBy s.calls other := by
    intro other
    have total := sum_dropped (fun work => work.relieves other) found
    rw [before other] at total
    exact total
  have claimed : claimedOn s.db.delegations (s.calls.remove id) s.now slot =
      claimedOn s.db.delegations s.calls s.now slot := claimedOn_congr relieved
  show claimedOn s.db.delegations (s.calls.remove id) s.now slot + grantedOn (s.calls.remove id) s.now slot ≤ _
  rw [claimed]
  exact Nat.add_le_add_left (by unfold grantedOn; omega) _

/-! ## The rows under the lock -/

theorem relief_holds {delegation : AgentDelegationRow} {amount : Nat} (relief : work.relief = some (delegation, amount)) :
    ∃ id, work.holds = some id ∧ work.snapshot = some delegation := by
  unfold DelegationWork.relief at relief
  split at relief
  · obtain ⟨rfl, -⟩ := Prod.mk.inj (Option.some.inj relief)
    exact ⟨_, rfl, rfl⟩
  · split at relief
    · cases relief
    · obtain ⟨rfl, -⟩ := Prod.mk.inj (Option.some.inj relief)
      exact ⟨_, rfl, rfl⟩
  · cases relief

theorem relievedBy_held (serialized : Serialized s) (found : s.calls.find? id = some call) {held : DelegationId}
    (holds : call.work.holds = some held) : relievedBy s.calls held = call.work.relieves held := by
  have total := sum_dropped (fun work => work.relieves held) found
  have others : ∀ other ∈ s.calls.remove id, other.work.relieves held = 0 := by
    intro other member
    obtain ⟨member, apart⟩ := Table.mem_remove.mp member
    unfold DelegationWork.relieves
    split
    · rfl
    rename_i delegation amount relief
    refine if_neg fun same => apart ?_
    obtain ⟨key, both, read⟩ := relief_holds relief
    have located := ((serialized.holding other member).row both read).1
    have mine : key = held := (Table.key_of_find? located).symm.trans same
    rw [serialized.alone other member call (Table.mem_of_find? found) held (mine ▸ both) holds]
    exact Table.key_of_find? found
  have nothing : (s.calls.remove id).sum (fun call => call.work.relieves held) = 0 := by
    rw [Table.sum_congr others]
    simp [Table.sum]
  unfold relievedBy
  omega

theorem claimedOn_written {row row' : AgentDelegationRow} {amount : Nat} (found : rows.find? row.id = some row)
    (key : row'.id = row.id) (same : row'.slot = row.slot) (less : row'.headroom now ≤ row.headroom now - amount)
    (relieved : ∀ other, relievedBy calls' other + (if row.id = other then amount else 0) = relievedBy calls other) :
    claimedOn (rows.put row') calls' now slot ≤ claimedOn rows calls now slot := by
  let claim (calls : Table DelegationCall.id) (row : AgentDelegationRow) : Nat :=
    if row.slot = slot then row.headroom now - relievedBy calls row.id else 0
  have put : (rows.put row').sum (claim calls') + claim calls' row = rows.sum (claim calls') + claim calls' row' :=
    Table.sum_put (claim calls') (by rw [key]; exact found)
  have change : rows.sum (claim calls') + claim calls row = rows.sum (claim calls) + claim calls' row := by
    refine Table.sum_change found fun other _ apart => ?_
    have elsewhere := relieved other.id
    rw [if_neg (Ne.symm apart), Nat.add_zero] at elsewhere
    simp only [claim, elsewhere]
  have mine : claim calls' row' ≤ claim calls row := by
    have here := relieved row.id
    rw [if_pos rfl] at here
    simp only [claim, same, key]
    split <;> omega
  show (rows.put row').sum (claim calls') ≤ rows.sum (claim calls)
  omega

theorem claimedOn_relieved {row : AgentDelegationRow} {amount : Nat} (found : rows.find? row.id = some row)
    (nothing : relievedBy calls row.id = 0)
    (relieved : ∀ other, relievedBy calls' other = relievedBy calls other + if row.id = other then amount else 0) :
    claimedOn rows calls' now slot + (if row.slot = slot then min (row.headroom now) amount else 0) =
      claimedOn rows calls now slot := by
  let claim (calls : Table DelegationCall.id) (row : AgentDelegationRow) : Nat :=
    if row.slot = slot then row.headroom now - relievedBy calls row.id else 0
  have change : rows.sum (claim calls') + claim calls row = rows.sum (claim calls) + claim calls' row := by
    refine Table.sum_change found fun other _ apart => ?_
    have elsewhere := relieved other.id
    rw [if_neg (Ne.symm apart), Nat.add_zero] at elsewhere
    simp only [claim, elsewhere]
  have here := relieved row.id
  rw [if_pos rfl, nothing, Nat.zero_add] at here
  have bounded : claim calls row ≤ rows.sum (claim calls) := Table.weight_le_sum _ (Table.mem_of_find? found)
  show rows.sum (claim calls') + _ = rows.sum (claim calls)
  revert change bounded
  simp only [claim, here, nothing]
  split <;> omega

/-! ## The steps -/

variable {chain chain' : Permit2Chain} {amount : Nat}

theorem apply_allowance {transaction : ChainTransaction} (landed : chain.apply now transaction = some chain') :
    (∀ network owner token amount, transaction = .approve network owner token amount →
        ∀ other, (chain'.allowance other).amount = (chain.allowance other).amount) ∧
      (∀ slot amount expiration nonce, transaction = .permit slot amount expiration nonce →
        ∀ other, (chain'.allowance other).amount = if other = slot then amount else (chain.allowance other).amount) ∧
      (∀ slot amount, transaction = .transferFrom slot amount → amount ≤ (chain.allowance slot).amount ∧
        ∀ other, (chain'.allowance other).amount = (chain.allowance other).amount - if other = slot then amount else 0) ∧
      ∀ slot, transaction = .lockdown slot →
        ∀ other, (chain'.allowance other).amount = if other = slot then 0 else (chain.allowance other).amount := by
  refine ⟨?_, ?_, ?_, ?_⟩
  · rintro network owner token amount rfl other
    obtain rfl := Option.some.inj landed
    rfl
  · rintro slot amount expiration nonce rfl other
    rw [Permit2Chain.apply] at landed
    split_ifs at landed
    obtain rfl := Option.some.inj landed
    simp only [Function.update_apply]
    split <;> rfl
  · rintro slot amount rfl
    rw [Permit2Chain.apply] at landed
    split_ifs at landed with enough
    obtain rfl := Option.some.inj landed
    refine ⟨enough.2.1, fun other => ?_⟩
    simp only [Function.update_apply]
    split
    · rename_i same
      rw [same]
    · rfl
  · rintro slot rfl other
    obtain rfl := Option.some.inj landed
    simp only [Function.update_apply]
    split <;> rfl

theorem Backed.of_le (backed : Backed s) (less : ∀ slot, s'.committedOn slot ≤ s.committedOn slot)
    (same : s'.chain = s.chain) : Backed s' := by
  intro slot
  refine (less slot).trans ((backed slot).trans_eq ?_)
  rw [DelegationWorld.allowanceOn, DelegationWorld.allowanceOn, same]

theorem grants_later (work : DelegationWork) {later : Time} (after : now ≤ later) :
    work.grants later slot ≤ work.grants now slot := by
  unfold DelegationWork.grants
  split
  · rename_i input payer _ _
    by_cases unexpired : input.slot payer = slot ∧ later < input.expiresAt
    · rw [if_pos unexpired, if_pos ⟨unexpired.1, lt_of_le_of_lt after unexpired.2⟩]
    · rw [if_neg unexpired]
      exact Nat.zero_le _
  · exact le_rfl

theorem committedOn_pass {later : Time} (after : s.now ≤ later) :
    ({ s with now := later } : DelegationWorld).committedOn slot ≤ s.committedOn slot := by
  refine Nat.add_le_add (Table.sum_mono fun row _ => ?_) (Table.sum_mono fun call _ => grants_later call.work after)
  by_cases here : row.slot = slot
  · rw [if_pos here, if_pos here]
    exact Nat.sub_le_sub_right (row.headroom_later after) _
  · rw [if_neg here, if_neg here]

theorem committedOn_call {request : DelegationRequest} {calls : Table DelegationCall.id}
    (begun : s.calls.insert? ⟨id, s.now, request.work⟩ = some calls) :
    ({ s with calls } : DelegationWorld).committedOn slot = s.committedOn slot := by
  have idle : request.work.Idle := by cases request <;> exact ⟨fun _ => rfl, fun _ _ => rfl⟩
  have claimed : claimedOn s.db.delegations calls s.now slot = claimedOn s.db.delegations s.calls s.now slot := by
    refine claimedOn_congr fun other => ?_
    have total := Table.sum_insert? (fun call : DelegationCall => call.work.relieves other) begun
    simp only [idle.relieves, Nat.zero_add] at total
    exact total
  have granted := Table.sum_insert? (fun call : DelegationCall => call.work.grants s.now slot) begun
  simp only [idle.grants, Nat.zero_add] at granted
  show claimedOn s.db.delegations calls s.now slot + grantedOn calls s.now slot = _
  rw [claimed]
  exact congrArg _ granted

theorem relieves_of_failed {answer : Nat} {failure : Failure} (unused : s.db.Unused call.id)
    (stated : s.statement call answer = some (.failed failure)) (other : DelegationId) : call.work.relieves other = 0 := by
  unfold DelegationWorld.statement at stated
  cases doing : call.work with
  | recordSignedDelegation input phase => rfl
  | drawDown input phase =>
    rw [doing] at stated
    cases phase with
    | update delegation txHash =>
      have inserts := Table.insert?_isSome (r := submittedDrawdown call.id input) unused.2
      simp only [drawStatement] at stated
      split at stated
      · rename_i refused
        unfold recordDraw at refused
        split at refused
        · rename_i taken
          rw [taken] at inserts
          cases inserts
        · cases refused
      · cases stated
    | _ => rfl
  | revokeDelegation input phase =>
    rw [doing] at stated
    cases phase with
    | update delegation => cases stated
    | _ => rfl

theorem committedOn_commit {db : DelegationDb} {result : DelegationResult} (serialized : Serialized s)
    (found : s.calls.find? id = some call) (commit : DelegationCommit s call.id call.work db result) :
    ({ s.dropped id with db, returned := result :: s.returned } : DelegationWorld).committedOn slot ≤ s.committedOn slot := by
  have member := Table.mem_of_find? found
  have holding := serialized.holding call member
  have granted := sum_dropped (DelegationWork.grants s.now slot) found
  have relieved (other : DelegationId) : relievedBy (s.calls.remove id) other + call.work.relieves other =
      relievedBy s.calls other := sum_dropped (fun work => work.relieves other) found
  show claimedOn db.delegations (s.calls.remove id) s.now slot + grantedOn (s.calls.remove id) s.now slot ≤
    claimedOn s.db.delegations s.calls s.now slot + grantedOn s.calls s.now slot
  unfold grantedOn
  generalize doing : call.work = before at commit granted relieved holding
  cases commit with
  | @granted input payer balance nonce db inserted =>
    obtain ⟨delegations, fresh, rfl⟩ := insertDelegation_ok inserted
    have same : claimedOn s.db.delegations (s.calls.remove id) s.now slot =
        claimedOn s.db.delegations s.calls s.now slot := claimedOn_congr fun other => relieved other
    have total : claimedOn delegations (s.calls.remove id) s.now slot = _ + claimedOn s.db.delegations _ s.now slot :=
      Table.sum_insert? _ fresh
    have mine : (delegationRow call.id input payer nonce).headroom s.now =
        if s.now < input.expiresAt then input.ceilingUsdc else 0 := by
      simp [AgentDelegationRow.headroom, AgentDelegationRow.live, delegationRow]
    have slots : (delegationRow call.id input payer nonce).slot = input.slot payer := rfl
    have grants : (DelegationWork.recordSignedDelegation input (.insert payer balance nonce)).grants s.now slot =
        if input.slot payer = slot ∧ s.now < input.expiresAt then input.ceilingUsdc else 0 := rfl
    rw [grants] at granted
    rw [slots, mine] at total
    by_cases here : input.slot payer = slot
    · by_cases unexpired : s.now < input.expiresAt
      · rw [if_pos ⟨here, unexpired⟩] at granted
        rw [if_pos here, if_pos unexpired] at total
        show claimedOn delegations (s.calls.remove id) s.now slot + _ ≤ _
        omega
      · rw [if_neg fun both => unexpired both.2] at granted
        rw [if_pos here, if_neg unexpired] at total
        show claimedOn delegations (s.calls.remove id) s.now slot + _ ≤ _
        omega
    · rw [if_neg fun both => here both.1] at granted
      rw [if_neg here] at total
      show claimedOn delegations (s.calls.remove id) s.now slot + _ ≤ _
      omega
  | @drawn input delegation txHash db recorded =>
    obtain ⟨located, -, fits⟩ := holding.row rfl rfl
    obtain ⟨drawdowns, -, rfl⟩ := recordDraw_eq located recorded
    have itself : s.db.delegations.find? delegation.id = some delegation := by
      rw [Table.key_of_find? located]
      exact located
    have written : claimedOn (s.db.delegations.put (drawnRow delegation input.amountUsdc)) (s.calls.remove id) s.now slot ≤
        claimedOn s.db.delegations s.calls s.now slot := by
      have relieved (other : DelegationId) : relievedBy (s.calls.remove id) other +
          (if delegation.id = other then input.amountUsdc else 0) = relievedBy s.calls other := relieved other
      refine claimedOn_written itself rfl rfl ?_ relieved
      unfold AgentDelegationRow.headroom
      by_cases live : (drawnRow delegation input.amountUsdc).live s.now
      · have before : delegation.live s.now := ⟨(fits.draws input _ rfl).1, live.2⟩
        rw [if_pos live, if_pos before]
        exact (Nat.sub_sub _ _ _).ge
      · rw [if_neg live]
        exact Nat.zero_le _
    show claimedOn (s.db.delegations.put (drawnRow delegation input.amountUsdc)) _ _ _ + _ ≤ _
    omega
  | wasRevoked =>
    have same : claimedOn s.db.delegations (s.calls.remove id) s.now slot =
        claimedOn s.db.delegations s.calls s.now slot := claimedOn_congr fun other => relieved other
    omega
  | @revoked input delegation onChainRevoked =>
    have located := (holding.row rfl rfl).1
    have itself : s.db.delegations.find? delegation.id = some delegation := by
      rw [Table.key_of_find? located]
      exact located
    rw [setRevoked_of_find? located]
    have gone : ({ delegation with status := .revoked } : AgentDelegationRow).headroom s.now = 0 :=
      if_neg fun live => nomatch live.1
    have written : claimedOn (s.db.delegations.put { delegation with status := .revoked }) (s.calls.remove id) s.now slot ≤
        claimedOn s.db.delegations s.calls s.now slot := by
      by_cases user : delegation.payer_kind = .user
      · have relieved (other : DelegationId) : relievedBy (s.calls.remove id) other +
            (if delegation.id = other then 0 else 0) = relievedBy s.calls other := by
          simpa [DelegationWork.relieves, DelegationWork.relief, user] using relieved other
        exact claimedOn_written itself rfl rfl (gone ▸ Nat.zero_le _) relieved
      · have relieved (other : DelegationId) : relievedBy (s.calls.remove id) other +
            (if delegation.id = other then delegation.ceiling_usdc - delegation.drawn_usdc else 0) =
              relievedBy s.calls other := by
          simpa only [DelegationWork.relieves, DelegationWork.relief, if_neg user] using relieved other
        exact claimedOn_written itself rfl rfl (gone ▸ Nat.zero_le _) relieved
    show claimedOn (s.db.delegations.put { delegation with status := .revoked }) _ _ _ + _ ≤ _
    omega

theorem Backed.fail (backed : Backed s) (serialized : Serialized s) (found : s.calls.find? id = some call)
    (spare : ∀ delegation amount, call.work.relief = some (delegation, amount) →
      s.Spares delegation.slot (min (delegation.headroom s.now) amount)) : Backed (s.dropped id) := by
  cases relief : call.work.relief with
  | none =>
    have nothing : ∀ other, call.work.relieves other = 0 := by simp [DelegationWork.relieves, relief]
    exact backed.of_le (fun _ => committedOn_dropped found nothing) rfl
  | some pair =>
    obtain ⟨delegation, amount⟩ := pair
    intro slot
    obtain ⟨held, holds, read⟩ := relief_holds relief
    have member := Table.mem_of_find? found
    have located := ((serialized.holding call member).row holds read).1
    obtain rfl := Table.key_of_find? located
    have relieved (other : DelegationId) : relievedBy s.calls other = relievedBy (s.calls.remove id) other +
        if delegation.id = other then amount else 0 := by
      have total := sum_dropped (fun work => work.relieves other) found
      simp only [DelegationWork.relieves, relief] at total
      exact total.symm
    have nothing : relievedBy (s.calls.remove id) delegation.id = 0 := by
      have mine := relievedBy_held serialized found holds
      rw [relieved, if_pos rfl] at mine
      simp only [DelegationWork.relieves, relief, if_true] at mine
      omega
    have claimed : claimedOn s.db.delegations s.calls s.now slot +
        (if delegation.slot = slot then min (delegation.headroom s.now) amount else 0) =
          claimedOn s.db.delegations (s.calls.remove id) s.now slot := claimedOn_relieved located nothing relieved
    have granted := sum_dropped (DelegationWork.grants s.now slot) found
    have before := backed slot
    show claimedOn s.db.delegations (s.calls.remove id) s.now slot + grantedOn (s.calls.remove id) s.now slot ≤
      s.allowanceOn slot
    rw [← claimed]
    by_cases here : delegation.slot = slot
    · subst here
      have room := spare delegation amount relief
      rw [if_pos rfl]
      unfold DelegationWorld.Spares DelegationWorld.committedOn grantedOn at room
      unfold grantedOn
      omega
    · rw [if_neg here]
      unfold DelegationWorld.committedOn grantedOn at before
      unfold grantedOn
      omega

theorem Backed.land {transaction : ChainTransaction} (backed : Backed s)
    (landed : s.chain.apply s.now transaction = some chain) (allowed : s.Backs (.land transaction)) (sent : List ChainTransaction) :
    Backed { s with chain, sent } := by
  obtain ⟨approve, permit, transferFrom, lockdown⟩ := apply_allowance landed
  intro other
  have before := backed other
  show s.committedOn other ≤ (chain.allowance other).amount
  cases transaction with
  | approve network owner token amount =>
    rw [approve _ _ _ _ rfl]
    exact before
  | permit slot amount expiration nonce =>
    rw [permit _ _ _ _ rfl]
    split
    · rename_i same
      exact same ▸ allowed
    · exact before
  | transferFrom slot amount =>
    rw [(transferFrom _ _ rfl).2]
    have room : s.committedOn slot + amount ≤ (s.chain.allowance slot).amount := allowed
    by_cases same : other = slot
    · subst same
      rw [if_pos rfl]
      omega
    · rw [if_neg same]
      exact before
  | lockdown slot =>
    rw [lockdown _ rfl]
    have nothing : s.committedOn slot = 0 := allowed
    split
    · rename_i same
      rw [same, nothing]
    · exact before

theorem committedOn_granting (found : s.calls.find? id = some call) (idle : call.work.Idle)
    (relieves : ∀ other, work.relieves other = 0) (slot : AllowanceSlot) :
    (s.continued call work).committedOn slot = s.committedOn slot + work.grants s.now slot := by
  have granted := sum_continued (DelegationWork.grants s.now slot) found work
  rw [idle.grants] at granted
  have relieved : ∀ other, relievedBy (s.calls.put { call with work }) other = relievedBy s.calls other := by
    intro other
    have total := sum_continued (fun work => work.relieves other) found work
    rw [idle.relieves, relieves] at total
    exact total
  have claimed : claimedOn s.db.delegations (s.calls.put { call with work }) s.now slot =
      claimedOn s.db.delegations s.calls s.now slot := claimedOn_congr relieved
  show claimedOn s.db.delegations (s.calls.put { call with work }) s.now slot +
    grantedOn (s.calls.put { call with work }) s.now slot = _
  rw [claimed, DelegationWorld.committedOn, Nat.add_assoc]
  exact congrArg _ granted

theorem committedOn_relieving {delegation : AgentDelegationRow} (serialized : Serialized s)
    (found : s.calls.find? id = some call) (idle : call.work.Idle) (holds : call.work.holds = some delegation.id)
    (located : s.db.delegations.find? delegation.id = some delegation)
    (relieves : ∀ other, work.relieves other = if delegation.id = other then amount else 0)
    (grants : ∀ now slot, work.grants now slot = 0) (slot : AllowanceSlot) :
    (s.continued call work).committedOn slot +
        (if delegation.slot = slot then min (delegation.headroom s.now) amount else 0) = s.committedOn slot := by
  have granted := sum_continued (DelegationWork.grants s.now slot) found work
  rw [idle.grants, grants] at granted
  have nothing : relievedBy s.calls delegation.id = 0 :=
    (relievedBy_held serialized found holds).trans (idle.relieves _)
  have relieved (other : DelegationId) : relievedBy (s.calls.put { call with work }) other =
      relievedBy s.calls other + if delegation.id = other then amount else 0 := by
    have total := sum_continued (fun work => work.relieves other) found work
    rw [idle.relieves, relieves] at total
    exact total
  have claimed : claimedOn s.db.delegations (s.calls.put { call with work }) s.now slot +
      (if delegation.slot = slot then min (delegation.headroom s.now) amount else 0) =
        claimedOn s.db.delegations s.calls s.now slot := claimedOn_relieved located nothing relieved
  show claimedOn s.db.delegations (s.calls.put { call with work }) s.now slot +
    grantedOn (s.calls.put { call with work }) s.now slot + _ = _
  unfold DelegationWorld.committedOn grantedOn
  omega

theorem Backed.confirm {transaction : ChainTransaction} {txHash : Hash} (backed : Backed s) (serialized : Serialized s)
    (found : s.calls.find? id = some call) (sends : call.work.sends = some transaction)
    (landed : s.chain.apply s.now transaction = some chain) (allowed : s.Backs (.confirm id txHash)) :
    Backed { s.continued call (call.work.confirmed txHash) with chain } := by
  obtain ⟨approve, permit, transferFrom, lockdown⟩ := apply_allowance landed
  have idle := idle_of_sends sends
  have holding := serialized.holding call (Table.mem_of_find? found)
  have allowed := allowed call found
  intro slot
  have before : s.committedOn slot ≤ (s.chain.allowance slot).amount := backed slot
  show (s.continued call (call.work.confirmed txHash)).committedOn slot ≤ (chain.allowance slot).amount
  cases doing : call.work with
  | recordSignedDelegation input phase =>
    rw [doing] at sends allowed idle
    cases phase with
    | approve payer balance nonce approvalMicros =>
      obtain rfl := Option.some.inj sends
      have same : (s.continued call (.recordSignedDelegation input (.submitter payer balance nonce))).committedOn slot = _ :=
        committedOn_granting found (doing ▸ idle) (fun _ => rfl) slot
      rw [approve _ _ _ _ rfl]
      exact same.trans_le before
    | permit payer balance nonce =>
      obtain rfl := Option.some.inj sends
      have more : (s.continued call (.recordSignedDelegation input (.insert payer balance nonce))).committedOn slot = _ :=
        committedOn_granting found (doing ▸ idle) (fun _ => rfl) slot
      have nothing : s.committedOn (input.slot payer) = 0 := allowed
      rw [permit _ _ _ _ rfl]
      refine more.trans_le ?_
      by_cases here : slot = input.slot payer
      · subst here
        rw [if_pos rfl, nothing, Nat.zero_add, DelegationWork.grants]
        split
        · exact le_rfl
        · exact Nat.zero_le _
      · rw [if_neg here, DelegationWork.grants, if_neg fun both => here both.1.symm]
        exact before
    | _ => cases sends
  | drawDown input phase =>
    rw [doing] at sends allowed idle holding
    cases phase with
    | transfer delegation =>
      obtain rfl := Option.some.inj sends
      obtain ⟨located, -, fits⟩ := holding.row rfl rfl
      have key := Table.key_of_find? located
      have fits := fits.draws input _ rfl
      have relieves (other : DelegationId) : (DelegationWork.drawDown input (.update delegation txHash)).relieves other =
          if delegation.id = other then input.amountUsdc else 0 := rfl
      have less := committedOn_relieving serialized found (doing ▸ idle) (by rw [doing, key]; rfl)
        (by rw [key]; exact located) relieves (fun _ _ => rfl) slot
      obtain ⟨enough, taken⟩ := transferFrom _ _ rfl
      rw [taken]
      show (s.continued call (.drawDown input (.update delegation txHash))).committedOn slot ≤ _
      by_cases here : slot = delegation.slot
      · subst here
        rw [if_pos rfl] at less ⊢
        rcases allowed with live | spare
        · rw [AgentDelegationRow.headroom, if_pos live] at less
          omega
        · have room : s.committedOn delegation.slot + input.amountUsdc ≤ (s.chain.allowance delegation.slot).amount := spare
          omega
      · rw [if_neg (Ne.symm here)] at less
        rw [if_neg here]
        omega
    | _ => cases sends
  | revokeDelegation input phase =>
    rw [doing] at sends allowed idle holding
    cases phase with
    | lockdown delegation =>
      obtain rfl := Option.some.inj sends
      obtain ⟨located, -, fits⟩ := holding.row rfl rfl
      have platform := fits.platform input delegation rfl
      have key := Table.key_of_find? located
      have relieves (other : DelegationId) :
          (DelegationWork.revokeDelegation input (.update delegation)).relieves other =
            if delegation.id = other then delegation.ceiling_usdc - delegation.drawn_usdc else 0 := by
        simp [DelegationWork.relieves, DelegationWork.relief, platform]
      have less := committedOn_relieving serialized found (doing ▸ idle) (by rw [doing, key]; rfl)
        (by rw [key]; exact located) relieves (fun _ _ => rfl) slot
      have alone : s.committedOn delegation.slot ≤ delegation.headroom s.now := allowed
      rw [lockdown _ rfl]
      show (s.continued call (.revokeDelegation input (.update delegation))).committedOn slot ≤ _
      by_cases here : slot = delegation.slot
      · subst here
        have within : delegation.headroom s.now ≤ delegation.ceiling_usdc - delegation.drawn_usdc := by
          unfold AgentDelegationRow.headroom
          split
          · exact le_rfl
          · exact Nat.zero_le _
        rw [if_pos rfl, min_eq_left within] at less
        rw [if_pos rfl]
        omega
      · rw [if_neg (Ne.symm here)] at less
        rw [if_neg here]
        omega
    | _ => cases sends

theorem Backed.step {label : DelegationLabel} (backed : Backed s) (orderly : Orderly s) (backs : s.Backs label)
    (move : DelegationMove s label s') : Backed s' := by
  cases move with
  | pass after => exact backed.of_le (fun _ => committedOn_pass after) rfl
  | call unused begun => exact backed.of_le (fun _ => (committedOn_call begun).le) rfl
  | goOn found stated =>
    have idle := (advance_of_statement stated).idle
    exact backed.of_le (fun _ => (committedOn_continued found idle.1 idle.2).le) rfl
  | failed found stated =>
    have nothing := relieves_of_failed (orderly.serialized.unused _ (Table.mem_of_find? found)) stated
    exact backed.of_le (fun _ => committedOn_dropped found nothing) rfl
  | committed found stated =>
    exact backed.of_le (fun _ => committedOn_commit orderly.serialized found (commit_of_statement stated)) rfl
  | confirm found sends landed => exact backed.confirm orderly.serialized found sends landed backs
  | abandon found sends =>
    have idle := idle_of_sends sends
    exact backed.of_le (fun _ => committedOn_dropped found idle.relieves) rfl
  | fail found => exact backed.fail orderly.serialized found fun delegation amount => backs _ found delegation amount
  | land sent landed => exact backed.land landed backs _

theorem DelegationWorld.Fresh.backed (fresh : s.Fresh) : Backed s := by
  intro slot
  simp [DelegationWorld.committedOn, claimedOn, grantedOn, fresh.delegations, fresh.calls]

theorem committedOn_quiet (quiet : s.calls = .empty) (slot : AllowanceSlot) :
    s.committedOn slot = headroomOn s.db s.now slot := by
  simp [DelegationWorld.committedOn, claimedOn, grantedOn, relievedBy, headroomOn, quiet]

/-- In a run whose steps are backed, the headroom between the calls is backed by the allowances. -/
theorem headroom_backed {s₀ : DelegationWorld} {events : List (DelegationWorld × DelegationLabel)} (fresh : s₀.Fresh)
    (run : Run delegationStep s₀ events s) (backs : Conforms DelegationWorld.Backs events) (quiet : s.calls = .empty) :
    ∀ slot, headroomOn s.db s.now slot ≤ (s.chain.allowance slot).amount := by
  have kept : Orderly s ∧ Backed s := by
    refine run.invariant (fun t => Orderly t ∧ Backed t) backs ⟨fresh.orderly, fresh.backed⟩ ?_
    rintro t label t' ⟨orderly, backed⟩ backs taken
    have move := move_of_step taken
    exact ⟨orderly.step move, backed.step orderly backs move⟩
  intro slot
  rw [← committedOn_quiet quiet]
  exact kept.2 slot

namespace DelegationWorkspace

def agentSlot : AllowanceSlot := ⟨(.test, .base), 11, 0x036CbD53842c5426634e7929541eC2318f3dCF7e, 20⟩

def quietBelow (s : DelegationWorld) : Bool :=
  s.calls.rows.isEmpty && (s.chain.allowance agentSlot).amount < headroomOn s.db s.now agentSlot

def backedBy (s : DelegationWorld) : DelegationLabel → Bool
  | .confirm id _ => (s.calls.find? id).all fun call =>
      match call.work with
      | .recordSignedDelegation input (.permit payer _ _) => s.committedOn (input.slot payer) = 0
      | .drawDown _ (.transfer delegation) => delegation.live s.now
      | .revokeDelegation _ (.lockdown delegation) => s.committedOn delegation.slot ≤ delegation.headroom s.now
      | _ => true
  | .fail _ | .land _ => false
  | _ => true

theorem backs_of_backedBy {s : DelegationWorld} {label : DelegationLabel} (checked : backedBy s label = true) :
    s.Backs label := by
  cases label with
  | confirm id txHash =>
    intro call found
    simp only [backedBy, found, Option.all_some] at checked
    cases doing : call.work with
    | recordSignedDelegation input phase =>
      rw [doing] at checked
      cases phase with
      | permit payer balance nonce => exact of_decide_eq_true checked
      | _ => trivial
    | drawDown input phase =>
      rw [doing] at checked
      cases phase with
      | transfer delegation => exact .inl (of_decide_eq_true checked)
      | _ => trivial
    | revokeDelegation input phase =>
      rw [doing] at checked
      cases phase with
      | lockdown delegation => exact of_decide_eq_true checked
      | _ => trivial
  | fail | land => cases checked
  | _ => trivial

theorem quiet_of_rows {s : DelegationWorld} (none_ : s.calls.rows.isEmpty = true) : s.calls = .empty :=
  Table.ext_rows (List.isEmpty_iff.mp none_)

end DelegationWorkspace

/-- A second delegation from the same payer to the same payee overwrites the allowance of the first. -/
theorem second_grant_overwrites : ∃ events s, Run delegationStep DelegationWorkspace.world events s ∧ s.calls = .empty ∧
    (s.chain.allowance DelegationWorkspace.agentSlot).amount < headroomOn s.db s.now DelegationWorkspace.agentSlot := by
  obtain ⟨events, s, run, below⟩ : ∃ events s, Run delegationStep DelegationWorkspace.world events s ∧
      DelegationWorkspace.quietBelow s = true :=
    exists_run (DelegationWorkspace.agentGrant 1 5 0 ++ DelegationWorkspace.agentGrant 2 2 1)
      (fun s => DelegationWorkspace.quietBelow s = true) (by decide)
  rw [DelegationWorkspace.quietBelow, Bool.and_eq_true, decide_eq_true_eq] at below
  exact ⟨events, s, run, DelegationWorkspace.quiet_of_rows below.1, below.2⟩

theorem single_grant_backed : ∃ events s, Run delegationStep DelegationWorkspace.world events s ∧
    ∀ slot, headroomOn s.db s.now slot ≤ (s.chain.allowance slot).amount := by
  obtain ⟨events, s, run, backs, quiet⟩ : ∃ events s, Run delegationStep DelegationWorkspace.world events s ∧
      Conforms DelegationWorld.Backs events ∧ s.calls.rows.isEmpty = true :=
    exists_conforming_run (DelegationWorkspace.agentGrant 1 5 0 ++ DelegationWorkspace.transfer 2 1 3 ++ [.statement 2 0])
      DelegationWorkspace.backedBy (fun s => s.calls.rows.isEmpty = true)
      (fun _ _ => DelegationWorkspace.backs_of_backedBy) (by decide)
  exact ⟨events, s, run, headroom_backed DelegationWorkspace.fresh run backs (DelegationWorkspace.quiet_of_rows quiet)⟩

end AgentOps.Payments
