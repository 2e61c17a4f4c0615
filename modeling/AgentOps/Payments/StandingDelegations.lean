import AgentOps.Payments.IntraFleetRecords

namespace AgentOps.Payments
open Lib Identity

/-! # Standing delegations and the permits beside them -/

def Standing (input : PayIntraFleetInput) (hire : Hire) (now : Time) (row : AgentDelegationRow) : Prop :=
  row.payer_agent_id = some input.payerAgentId ∧ row.payee_address.account = hire.payeeAddress.account ∧
    row.mode = input.mode ∧ row.chain = input.chain ∧ row.live now ∧ row.drawn_usdc + hire.amountMicros ≤ row.ceiling_usdc

instance (input : PayIntraFleetInput) (hire : Hire) (now : Time) (row : AgentDelegationRow) :
    Decidable (Standing input hire now row) := inferInstanceAs (Decidable (_ ∧ _))

def SignsPermit (db : DelegationDb) (input : PayIntraFleetInput) (hire : Hire) (answer : PayAnswer) : Prop :=
  (∃ payer, (input.delegation hire.payeeAddress answer.now).resolve db = .ok payer) ∧ ∃ nonce, answer.micros = .ok nonce

def Executes (e : PayWorld × PayLabel) (id : Nat) (call : PayCall) (answer : PayAnswer) : Prop :=
  e.2 = .statement id answer ∧ e.1.calls.find? id = some call

/-- Where a lookup sees a standing delegation, its call goes on to draw on one and never signs. A permit that is signed covers the
price. -/
structure ReusesStanding (events : List (PayWorld × PayLabel)) : Prop where
  reused : ∀ before e after, events = before ++ e :: after → ∀ id call answer hire, Executes e id call answer →
    call.stage = .delegation hire → (∃ row ∈ e.1.db.delegations.delegations, Standing call.input hire answer.now row) →
      ∃ row ∈ e.1.db.delegations.delegations, Standing call.input hire answer.now row ∧
        payStatement e.1.db call.input answer call.stage = some (e.1.db, .drawing hire row.id) ∧
        ∀ e' ∈ after, ∀ call' answer', Executes e' id call' answer' →
          (∀ hire', call'.stage ≠ .signing hire') ∧ ∀ hire' drawn, call'.stage = .drawing hire' drawn → drawn = row.id
  covers : ∀ e ∈ events, ∀ id call answer hire, Executes e id call answer → call.stage = .signing hire →
    SignsPermit e.1.db.delegations call.input hire answer →
      hire.amountMicros ≤ (call.input.delegation hire.payeeAddress answer.now).ceilingUsdc

/-- At a lookup the latest delegation with the payee's address, letter by letter, is a standing one that floating point has room in,
or nothing is standing; at a signature the price is at most the fixed ceiling. -/
def PicksStanding (s : PayWorld) (label : PayLabel) : Prop := ∀ id call answer hire, Executes (s, label) id call answer →
  (call.stage = .delegation hire → (∃ row ∈ s.db.delegations.delegations, Standing call.input hire answer.now row) →
    ∃ row, latestDelegation? s.db.delegations call.input hire.payeeAddress answer.now = some row ∧
      Standing call.input hire answer.now row ∧ hasHeadroom row hire.amountMicros = true) ∧
  (call.stage = .signing hire → SignsPermit s.db.delegations call.input hire answer →
    hire.amountMicros ≤ defaultDelegationCeilingUsdc)

variable {db db' : PayDb} {input : PayIntraFleetInput} {answer : PayAnswer} {stage stage' : PayStage} {hire : Hire}
  {s s' s₀ : PayWorld} {events : List (PayWorld × PayLabel)} {label : PayLabel} {delegationId : DelegationId} {row : AgentDelegationRow}

/-- A column's amounts are never too large for `BigInt`. -/
theorem hasHeadroom_column (ceiling : row.ceiling_usdc < 10 ^ 20) (drawn : row.drawn_usdc < 10 ^ 20) :
    ∃ ceilingMicros drawnMicros, numericMicros? row.ceiling_usdc = some ceilingMicros ∧
      numericMicros? row.drawn_usdc = some drawnMicros ∧
      ∀ neededMicros : Nat, hasHeadroom row neededMicros = true ↔ drawnMicros + neededMicros ≤ ceilingMicros := by
  obtain ⟨ceilingMicros, top⟩ := Option.isSome_iff_exists.mp (numericMicros?_isSome (m := row.ceiling_usdc) (by simpa using ceiling))
  obtain ⟨drawnMicros, used⟩ := Option.isSome_iff_exists.mp (numericMicros?_isSome (m := row.drawn_usdc) (by simpa using drawn))
  exact ⟨ceilingMicros, drawnMicros, top, used, fun neededMicros => by simp [hasHeadroom, top, used]⟩

/-- Up to a billion dollars, floating point has the room that there is. -/
theorem hasHeadroom_iff {neededMicros : Nat} (ceiling : row.ceiling_usdc < 2 ^ 50) (drawn : row.drawn_usdc < 2 ^ 50) :
    hasHeadroom row neededMicros = true ↔ row.drawn_usdc + neededMicros ≤ row.ceiling_usdc := by
  obtain ⟨ceilingMicros, drawnMicros, top, used, room⟩ := hasHeadroom_column (show row.ceiling_usdc < 10 ^ 20 by omega) (by omega)
  obtain rfl : ceilingMicros = row.ceiling_usdc := Option.some.inj (top.symm.trans (numericMicros?_small (by simpa using ceiling)))
  obtain rfl : drawnMicros = row.drawn_usdc := Option.some.inj (used.symm.trans (numericMicros?_small (by simpa using drawn)))
  rw [room]
  exact_mod_cast Iff.rfl

theorem latestDelegation?_mem {delegations : DelegationDb} {payee : Address} {now : Time}
    (latest : latestDelegation? delegations input payee now = some row) : row ∈ delegations.delegations :=
  List.mem_of_find?_eq_some latest

theorem payStatement_delegation : payStatement db input answer (.delegation hire) = some (db,
    match latestDelegation? db.delegations input hire.payeeAddress answer.now with
    | none => .signing hire
    | some row => if hasHeadroom row hire.amountMicros then .drawing hire row.id else .signing hire) := by
  simp only [payStatement, findActiveDelegationWithHeadroom]
  cases latestDelegation? db.delegations input hire.payeeAddress answer.now with
  | none => rfl
  | some row => cases room : hasHeadroom row hire.amountMicros <;> simp [room]

theorem draws_standing_iff :
    (∃ row ∈ db.delegations.delegations, Standing input hire answer.now row ∧
      payStatement db input answer (.delegation hire) = some (db, .drawing hire row.id)) ↔
    ∃ row, latestDelegation? db.delegations input hire.payeeAddress answer.now = some row ∧ Standing input hire answer.now row ∧
      hasHeadroom row hire.amountMicros = true := by
  rw [payStatement_delegation]
  constructor
  · rintro ⟨row, member, standing, goes⟩
    have goes := (Prod.mk.inj (Option.some.inj goes)).2
    split at goes
    · cases goes
    · rename_i latest found
      split_ifs at goes with room
      injection goes with _ same
      obtain rfl := Table.eq_of_key (latestDelegation?_mem found) member same
      exact ⟨latest, found, standing, room⟩
  · rintro ⟨row, latest, standing, room⟩
    refine ⟨row, latestDelegation?_mem latest, standing, ?_⟩
    simp [latest, room]

def DrawsOn (delegationId : DelegationId) : PayStage → Prop
  | .drawing _ drawn => drawn = delegationId
  | .fetching _ _ | .recording _ _ _ | .finished _ _ => True
  | _ => False

theorem DrawsOn.moved (draws : DrawsOn delegationId stage) (moved : payStatement db input answer stage = some (db', stage')) :
    DrawsOn delegationId stage' := by
  cases payStatement_cases moved with
  | resolves | lists | names | prices | funds | funded | asksToSign | picks | signs => cases draws
  | draws | fails | unanswered | answered | refused | records => trivial

theorem drawsOn_step {id : Nat} (taken : payStep s label = some s')
    (draws : ∃ call, s.calls.find? id = some call ∧ DrawsOn delegationId call.stage) :
    ∃ call, s'.calls.find? id = some call ∧ DrawsOn delegationId call.stage := by
  obtain ⟨call, found, draws⟩ := draws
  cases label with
  | opened id' input =>
    obtain ⟨calls, inserted, rfl⟩ := Option.map_eq_some_iff.mp taken
    exact ⟨call, Table.find?_insert?_of_find? inserted found, draws⟩
  | elsewhere delegations agents allowlist =>
    rw [payStep] at taken
    split_ifs at taken
    obtain rfl := Option.some.inj taken
    exact ⟨call, found, draws⟩
  | statement id' answer =>
    obtain ⟨call', db, stage, found', moved, -, -, -, calls⟩ := payStep_statement taken
    rw [calls]
    by_cases same : id' = id
    · subst same
      obtain rfl := Option.some.inj (found.symm.trans found')
      obtain rfl := Table.key_of_find? found
      have put : (s.calls.put { call with stage }).find? call.id = some { call with stage } := Table.find?_put_self found
      exact ⟨_, put, draws.moved moved⟩
    · have other : ({ call' with stage } : PayCall).id ≠ id := by
        rw [← Table.key_of_find? found'] at same
        exact same
      exact ⟨call, (Table.find?_put_ne other).trans found, draws⟩

theorem Executes.step {id : Nat} {call : PayCall} (executes : Executes (s, label) id call answer)
    (taken : payStep s label = some s') (moved : payStatement s.db call.input answer call.stage = some (db', stage')) :
    s'.calls.find? id = some { call with stage := stage' } := by
  obtain ⟨rfl, found⟩ := executes
  obtain ⟨call', db, stage, found', moved', -, -, -, calls⟩ := payStep_statement taken
  obtain rfl := Option.some.inj (found.symm.trans found')
  obtain ⟨rfl, rfl⟩ := Prod.mk.inj (Option.some.inj (moved.symm.trans moved'))
  rw [calls]
  obtain rfl := Table.key_of_find? found
  exact Table.find?_put_self found

theorem payStep_unsent {id : Nat} {call : PayCall} (found : s.calls.find? id = some call)
    (moved : payStatement s.db call.input answer call.stage = some (db', stage')) (unsent : answer.executed.toOption = none) :
    payStep s (.statement id answer) = some ⟨db', s.calls.put { call with stage := stage' }, s.hashes⟩ := by
  simp [payStep, found, moved, unsent]

theorem reused_of_picks (run : Run payStep s₀ events s) (picks : Conforms PicksStanding events) : ReusesStanding events := by
  constructor
  · rintro before e after rfl id call answer hire executes now standing
    have member : e ∈ before ++ e :: after := by simp
    obtain ⟨s', -, taken, rest⟩ := run.split
    obtain ⟨row, inTable, suits, goes⟩ := draws_standing_iff.mpr ((picks e member id call answer hire executes).1 now standing)
    rw [← now] at goes
    refine ⟨row, inTable, suits, goes, fun e' later call' answer' executes' => ?_⟩
    obtain ⟨first, second, s'', -, run', -⟩ := rest.of_mem later
    have draws : DrawsOn row.id (.drawing hire row.id) := rfl
    obtain ⟨other, found, draws⟩ := run'.always (fun t => ∃ call, t.calls.find? id = some call ∧ DrawsOn row.id call.stage)
      ⟨_, executes.step taken goes, draws⟩ fun _ _ _ draws taken => drawsOn_step taken draws
    obtain rfl := Option.some.inj (found.symm.trans executes'.2)
    constructor
    · intro hire' signing
      rw [signing] at draws
      cases draws
    · intro hire' drawn drawing
      rw [drawing] at draws
      exact draws
  · exact fun e member id call answer hire executes => (picks e member id call answer hire executes).2

theorem picks_of_reused (reuses : ReusesStanding events) : Conforms PicksStanding events := by
  intro e member id call answer hire executes
  constructor
  · intro now standing
    obtain ⟨before, after, split⟩ := List.append_of_mem member
    obtain ⟨row, inTable, suits, goes, -⟩ := reuses.reused before e after split id call answer hire executes now standing
    rw [now] at goes
    exact draws_standing_iff.mp ⟨row, inTable, suits, goes⟩
  · exact reuses.covers e member id call answer hire executes

/-- In a run of calls and other writes, standing delegations are reused and permits cover their price if and only if every lookup
picks a standing one and every signature is for a price under the ceiling. Up to a billion dollars the room is what is left. -/
theorem standing_delegations_reused_iff (run : Run payStep s₀ events s) :
    (ReusesStanding events ↔ Conforms PicksStanding events) ∧
      ∀ (row : AgentDelegationRow) (neededMicros : Nat), row.ceiling_usdc < 2 ^ 50 → row.drawn_usdc < 2 ^ 50 →
        (hasHeadroom row neededMicros = true ↔ row.drawn_usdc + neededMicros ≤ row.ceiling_usdc) :=
  ⟨⟨picks_of_reused, reused_of_picks run⟩, fun _ _ => hasHeadroom_iff⟩

section Example

def fleetDelegation (id drawnUsdc permitNonce : Nat) : AgentDelegationRow :=
  ⟨id, 1, some 1, ⟨1, 0⟩, some 2, fleetSeller, .test, .base, ⟨9, 0⟩, 5000000, drawnUsdc, 100, permitNonce, .active, .agent⟩

def renewed : PayWorld :=
  { fleet with
    db.delegations.delegations := ⟨[fleetDelegation 2 4995000 1, fleetDelegation 1 0 0], by decide⟩ }

def lookup : PayAnswer := ⟨⟨5, 0, .ok 10000, .error fetchFailed⟩, none, none⟩

def looksUp (s : PayWorld) : Bool :=
  (s.calls.find? 5).any fun call => match call.stage with
    | .delegation hire => hire.amountMicros = 10000 && (s.db.delegations.delegations.rows.any fun row => Standing call.input hire 0 row) &&
        (findActiveDelegationWithHeadroom s.db.delegations call.input hire.payeeAddress 0 hire.amountMicros).isNone
    | _ => false

/-- Beside a delegation of five dollars that nothing is drawn from, the call signs a new permit. -/
theorem standing_delegation_passed_over : ∃ events s, Run payStep renewed events s ∧ ¬ReusesStanding events := by
  obtain ⟨events, s, run, looks⟩ : ∃ events s, Run payStep renewed events s ∧ looksUp s = true :=
    exists_run (hiresSeller 5 :: (paidStatements 5 "0x77" none).take 6) _ (by decide +kernel)
  obtain ⟨call, found, looks⟩ := (Option.any_eq_true _ _).mp looks
  split at looks
  · rename_i hire now
    simp only [Bool.and_eq_true, decide_eq_true_eq, List.any_eq_true, Option.isNone_iff_eq_none] at looks
    obtain ⟨⟨-, row, member, standing⟩, none_⟩ := looks
    have goes : payStatement s.db call.input lookup call.stage = some (s.db, .signing hire) := by
      rw [now, payStatement]
      simp [lookup, none_]
    refine ⟨_, _, run.next (payStep_unsent found goes rfl), fun reuses => ?_⟩
    obtain ⟨row', -, -, drawing, -⟩ := reuses.reused events (s, .statement 5 lookup) [] rfl 5 call lookup hire ⟨rfl, found⟩ now
      ⟨row, member, standing⟩
    rw [goes] at drawing
    cases drawing
  · cases looks

def picksBy (s : PayWorld) : PayLabel → Bool
  | .statement id answer => (s.calls.find? id).all fun call => match call.stage with
    | .delegation hire => (latestDelegation? s.db.delegations call.input hire.payeeAddress answer.now).any fun row =>
        Standing call.input hire answer.now row && hasHeadroom row hire.amountMicros
    | .signing _ => false
    | _ => true
  | _ => true

theorem picks_of_picksBy (checked : picksBy s label = true) : PicksStanding s label := by
  rintro id call answer hire ⟨rfl, found⟩
  simp only [picksBy, found, Option.all_some] at checked
  constructor
  · intro now _
    rw [now] at checked
    obtain ⟨row, latest, suits⟩ := (Option.any_eq_true _ _).mp checked
    simp only [Bool.and_eq_true, decide_eq_true_eq] at suits
    exact ⟨row, latest, suits⟩
  · intro now
    rw [now] at checked
    cases checked

theorem standing_delegation_reused : ∃ events s, Run payStep fleet events s ∧ ReusesStanding events ∧
    (s.calls.find? 5).bind (fun call => call.stage.drawn?) = some (drawnFrom none) := by
  obtain ⟨events, s, run, picks, drew⟩ : ∃ events s, Run payStep fleet events s ∧ Conforms PicksStanding events ∧
      (s.calls.find? 5).bind (fun call => call.stage.drawn?) = some (drawnFrom none) :=
    exists_conforming_run (hiresSeller 5 :: paidStatements 5 "0x77" none) picksBy _ (fun _ _ => picks_of_picksBy)
      (by decide +kernel)
  exact ⟨events, s, run, (standing_delegations_reused_iff run).1.mpr picks, drew⟩

end Example

end AgentOps.Payments
