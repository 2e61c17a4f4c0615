import AgentOps.Payments.IntraFleetRecords
import AgentOps.Payments.TrustCompleteness

namespace AgentOps.Payments
open Lib Identity

/-! # Whom payments within a fleet trust -/

/-- The address is the active wallet of an agent of the org, and the org has revoked no destination of that address. -/
structure PayDb.InFleet (db : PayDb) (orgId : OrgId) (address : Address) : Prop where
  wallet : ∃ agent ∈ db.agents.rows, agent.org_id = orgId ∧ ∃ wallet ∈ db.delegations.wallets.rows,
    wallet.agent_id = agent.id ∧ wallet.active = true ∧ wallet.address.account = address.account
  unrevoked : ∀ row ∈ db.allowlist.table.rows, row.org_id = orgId → row.address.account = address.account →
    row.status ≠ .revoked

instance (db : PayDb) (orgId : OrgId) (address : Address) : Decidable (db.InFleet orgId address) :=
  decidable_of_iff (_ ∧ _) ⟨fun h => ⟨h.1, h.2⟩, fun h => ⟨h.1, h.2⟩⟩

def PayStage.pending? : PayStage → Option Address
  | .allowlist payee | .name payee | .discovery payee _ => some payee
  | .funding hire _ | .delegation hire | .signing hire => some hire.payeeAddress
  | _ => none

def PayStage.draw? : PayStage → Option DrawDownInput
  | .funding _ (.draw delegationId shortfall) => some ⟨delegationId, shortfall⟩
  | .drawing hire delegationId => some ⟨delegationId, hire.amountMicros⟩
  | _ => none

/-- The addresses of the active rows with the source `agent_wallet` that a statement adds for the org of its call -/
def autoTrusted (s : PayWorld) (id : Nat) (call : PayCall) (answer : PayAnswer) : List Address :=
  match payStep s (.statement id answer) with
  | none => []
  | some s' =>
    (s'.db.allowlist.table.rows.filter fun row => row ∉ s.db.allowlist.table.rows ∧ row.org_id = call.input.orgId ∧
      row.source = .agentWallet ∧ row.status = .active).map DestinationRow.address

def drawnTo? (db : DelegationDb) (stage : PayStage) (answer : ChainAnswer) : Option Address := do
  let draw ← stage.draw?
  let delegation ← db.delegations.find? draw.delegationId
  let _ ← (drawDown db draw answer).toOption
  some delegation.payee_address

/-- What a statement trusts, or draws to, is in the fleet of its call's org. -/
def StaysInFleet (s : PayWorld) : PayLabel → Prop
  | .statement id answer => ∀ call ∈ s.calls.find? id, ∀ address,
      address ∈ autoTrusted s id call answer ∨ drawnTo? s.db.delegations call.stage answer.toChainAnswer = some address →
        s.db.InFleet call.input.orgId address
  | .opened _ _ | .elsewhere _ _ _ => True

def SamePayee (row row' : AgentDelegationRow) : Prop := row'.payee_address = row.payee_address

theorem SamePayee.refl (row : AgentDelegationRow) : SamePayee row row := rfl

def PayCall.DueTo (call : PayCall) (db : PayDb) (address : Address) : Prop :=
  call.stage.pending? = some address ∨ ∃ draw row, call.stage.draw? = some draw ∧
    db.delegations.delegations.find? draw.delegationId = some row ∧ row.payee_address = address

/-- The wallet that a call finds for its payee is in the fleet, and so is what a delegation of the treasury pays that it
picks; what others do meanwhile leaves this so. -/
def Guarded (s : PayWorld) : PayLabel → Prop
  | .opened _ _ => True
  | .statement id answer => ∀ call ∈ s.calls.find? id,
      match call.stage with
      | .wallet => ∀ payee ∈ agentAddress? s.db.delegations call.input.payeeAgentId call.input.network,
          s.db.InFleet call.input.orgId payee
      | .funding hire (.delegations _ shortfall) =>
        ∀ row ∈ treasuryDelegation? s.db.delegations (call.input.funding hire.amountMicros) answer.now shortfall,
          s.db.InFleet call.input.orgId row.payee_address
      | _ => True
  | .elsewhere delegations agents allowlist =>
      Table.Grows SamePayee s.db.delegations.delegations delegations.delegations ∧
        ∀ call ∈ s.calls, ∀ address, call.DueTo s.db address →
          PayDb.InFleet ⟨delegations, agents, allowlist, s.db.events⟩ call.input.orgId address

variable {db db' : PayDb} {delegations delegations' : DelegationDb} {input : PayIntraFleetInput} {answer : PayAnswer}
  {stage stage' : PayStage} {call : PayCall} {s s' s₀ : PayWorld} {events : List (PayWorld × PayLabel)} {orgId : OrgId}
  {address : Address}

structure PayeesKept (delegations delegations' : DelegationDb) : Prop where
  wallets : delegations'.wallets = delegations.wallets
  payees : Table.Grows SamePayee delegations.delegations delegations'.delegations

theorem PayeesKept.refl (delegations : DelegationDb) : PayeesKept delegations delegations :=
  ⟨rfl, .refl .refl _⟩

theorem drawDown_payees {draw : DrawDownInput} {answer : ChainAnswer} {txHash : Hash}
    (drew : drawDown delegations draw answer = .ok (delegations', txHash)) : PayeesKept delegations delegations' := by
  unfold drawDown at drew
  split at drew
  · cases drew
  rename_i delegation found
  obtain ⟨_, -, drew⟩ := bind_eq_ok.mp drew
  split at drew
  · cases drew
  obtain ⟨_, -, drew⟩ := bind_eq_ok.mp drew
  split at drew
  · cases drew
  rename_i recorded
  obtain ⟨rfl, -⟩ := Prod.mk.inj (Except.ok.inj drew)
  obtain ⟨drawdowns, -, rfl⟩ := recordDraw_eq found recorded
  have located : delegations.delegations.find? (drawnRow delegation draw.amountUsdc).id = some delegation := by
    rw [← Table.key_of_find? found] at found
    exact found
  exact ⟨rfl, (Table.revised_put .refl located rfl).grows⟩

theorem recordSignedDelegation_payees {grant : RecordSignedDelegationInput} {answer : ChainAnswer} {delegationId : DelegationId}
    (signed : recordSignedDelegation delegations grant answer = .ok (delegations', delegationId)) :
    PayeesKept delegations delegations' ∧
      ∃ row, delegations'.delegations.find? delegationId = some row ∧ row.payee_address = grant.payeeAddress := by
  obtain ⟨payer, -, signed⟩ := bind_eq_ok.mp signed
  obtain ⟨nonce, -, signed⟩ := bind_eq_ok.mp signed
  obtain ⟨_, -, signed⟩ := bind_eq_ok.mp signed
  obtain ⟨_, -, signed⟩ := bind_eq_ok.mp signed
  obtain ⟨db', inserted, signed⟩ := bind_eq_ok.mp signed
  obtain ⟨rfl, rfl⟩ := Prod.mk.inj (Except.ok.inj signed)
  obtain ⟨rows, fresh, rfl⟩ := insertDelegation_ok inserted
  exact ⟨⟨rfl, Table.grows_insert? .refl fresh⟩, _, Table.find?_insert?_self fresh, rfl⟩

theorem fundStatement_payees {fund : JustInTimeFundingInput} {answer : ChainAnswer} {stage : FundStage}
    {next : Option FundStage} (moved : fundStatement delegations fund answer stage = .ok (delegations', next)) :
    PayeesKept delegations delegations' ∧ ∀ delegationId micros, next = some (.draw delegationId micros) →
      ∃ wallet shortfall row, stage = .delegations wallet shortfall ∧
        treasuryDelegation? delegations fund answer.now shortfall = some row ∧ row.id = delegationId ∧
        delegations'.delegations.find? delegationId = some row := by
  cases stage with
  | draw delegationId shortfall =>
    obtain ⟨⟨_, _⟩, drew, same⟩ := bind_eq_ok.mp moved
    obtain ⟨rfl, rfl⟩ := Prod.mk.inj (Except.ok.inj same)
    exact ⟨drawDown_payees drew, by rintro _ _ ⟨⟩⟩
  | wallet =>
    obtain ⟨rfl, rfl⟩ := Prod.mk.inj (Except.ok.inj moved)
    refine ⟨.refl _, fun delegationId micros same => ?_⟩
    obtain ⟨_, -, same⟩ := Option.map_eq_some_iff.mp same
    cases same
  | balance address =>
    obtain ⟨balance, -, moved⟩ := bind_eq_ok.mp moved
    split_ifs at moved <;> obtain ⟨rfl, rfl⟩ := Prod.mk.inj (Except.ok.inj moved) <;> exact ⟨.refl _, by rintro _ _ ⟨⟩⟩
  | gasTransfer | transfer =>
    obtain ⟨_, -, moved⟩ := bind_eq_ok.mp moved
    obtain ⟨rfl, rfl⟩ := Prod.mk.inj (Except.ok.inj moved)
    exact ⟨.refl _, by rintro _ _ ⟨⟩⟩
  | gasTreasury =>
    simp only [fundStatement] at moved
    split at moved <;> obtain ⟨rfl, rfl⟩ := Prod.mk.inj (Except.ok.inj moved) <;> exact ⟨.refl _, by rintro _ _ ⟨⟩⟩
  | treasury =>
    simp only [fundStatement] at moved
    split at moved <;> obtain ⟨rfl, rfl⟩ := Prod.mk.inj (Except.ok.inj moved)
    · exact ⟨.refl _, by rintro _ _ ⟨⟩⟩
    · refine ⟨.refl _, fun delegationId micros same => ?_⟩
      split at same <;> cases same
  | delegations wallet shortfall =>
    simp only [fundStatement] at moved
    split at moved <;> obtain ⟨rfl, rfl⟩ := Prod.mk.inj (Except.ok.inj moved)
    · rename_i row picked
      refine ⟨.refl _, fun delegationId micros same => ?_⟩
      obtain ⟨rfl, -⟩ := FundStage.draw.inj (Option.some.inj same)
      exact ⟨wallet, shortfall, row, rfl, picked, rfl, Table.find?_of_mem (List.mem_of_find?_eq_some picked)⟩
    · refine ⟨.refl _, fun delegationId micros same => ?_⟩
      split at same <;> cases same

theorem DestinationAllowlist.mem_insert? {list list' : DestinationAllowlist} {row other : DestinationRow}
    (inserted : list.insert? row = some list') : other ∈ list'.table ↔ other = row ∨ other ∈ list.table := by
  unfold insert? at inserted
  split_ifs at inserted
  split at inserted
  · cases inserted
  · rename_i table added
    obtain rfl := Option.some.inj inserted
    exact Table.mem_insert? added

theorem DestinationAllowlist.mem_insertUnlessListed {list : DestinationAllowlist} {row other : DestinationRow}
    (member : other ∈ (list.insertUnlessListed row).table) : other = row ∨ other ∈ list.table := by
  unfold insertUnlessListed at member
  cases inserted : list.insert? row with
  | none =>
    rw [inserted] at member
    exact .inr member
  | some list' =>
    rw [inserted] at member
    exact (mem_insert? inserted).mp member

structure TrustKept (db db' : PayDb) : Prop where
  agents : db'.agents = db.agents
  delegations : PayeesKept db.delegations db'.delegations
  revoked : ∀ row ∈ db'.allowlist.table, row.status = .revoked → row ∈ db.allowlist.table

theorem TrustKept.refl (db : PayDb) : TrustKept db db := ⟨rfl, .refl _, fun _ member _ => member⟩

theorem PayDb.InFleet.kept (fleet : db.InFleet orgId address) (kept : TrustKept db db') : db'.InFleet orgId address := by
  constructor
  · rw [kept.agents, kept.delegations.wallets]
    exact fleet.wallet
  · intro row member owned named revoked
    exact fleet.unrevoked row (kept.revoked row member revoked) owned named revoked

structure TrustMoved (db : PayDb) (input : PayIntraFleetInput) (answer : PayAnswer) (stage : PayStage) (db' : PayDb)
    (stage' : PayStage) : Prop where
  kept : TrustKept db db'
  pending : ∀ address, stage'.pending? = some address → stage.pending? = some address ∨
    stage = .wallet ∧ agentAddress? db.delegations input.payeeAgentId input.network = some address
  draws : ∀ draw, stage'.draw? = some draw → ∃ row, db'.delegations.delegations.find? draw.delegationId = some row ∧
    (stage.pending? = some row.payee_address ∨ ∃ hire wallet shortfall, stage = .funding hire (.delegations wallet shortfall) ∧
      treasuryDelegation? db.delegations (input.funding hire.amountMicros) answer.now shortfall = some row)
  listed : ∀ row ∈ db'.allowlist.table, row ∈ db.allowlist.table ∨ stage = .allowlist row.address

theorem TrustMoved.plain (delegations : PayeesKept db.delegations delegations') (undrawn : stage'.draw? = none)
    (pending : ∀ address, stage'.pending? = some address → stage.pending? = some address) :
    TrustMoved db input answer stage { db with delegations := delegations' } stage' where
  kept := ⟨rfl, delegations, fun _ member _ => member⟩
  pending address now := .inl (pending address now)
  draws _ now := by cases undrawn.symm.trans now
  listed _ member := .inl member

theorem payStatement_trust (moved : payStatement db input answer stage = some (db', stage')) :
    TrustMoved db input answer stage db' stage' := by
  cases payStatement_cases moved with
  | resolves found =>
    exact ⟨.refl _, fun payee now => .inr ⟨rfl, found.trans now⟩, by rintro _ ⟨⟩, fun _ => .inl⟩
  | lists =>
    refine ⟨⟨rfl, .refl _, fun row member revoked => ?_⟩, fun _ => .inl, by rintro _ ⟨⟩, fun row member => ?_⟩
    · rcases DestinationAllowlist.mem_insertUnlessListed member with rfl | member
      · cases revoked
      · exact member
    · rcases DestinationAllowlist.mem_insertUnlessListed member with rfl | member
      · exact .inr rfl
      · exact .inl member
  | names | prices | asksToSign => exact .plain (.refl _) rfl fun _ => id
  | @funds hire stage next delegations funded =>
    obtain ⟨kept, picks⟩ := fundStatement_payees funded
    refine ⟨⟨rfl, kept, fun _ member _ => member⟩, fun _ => .inl, fun draw now => ?_, fun _ => .inl⟩
    cases next with
    | draw delegationId micros =>
      obtain rfl := Option.some.inj now
      obtain ⟨wallet, shortfall, row, rfl, picked, -, found⟩ := picks delegationId micros rfl
      exact ⟨row, found, .inr ⟨hire, wallet, shortfall, rfl, picked⟩⟩
    | wallet | balance | gasTreasury | gasTransfer | delegations | treasury | transfer => cases now
  | funded funded => exact .plain (fundStatement_payees funded).1 rfl fun _ => id
  | picks active =>
    refine ⟨.refl _, by rintro _ ⟨⟩, fun draw now => ?_, fun _ => .inl⟩
    obtain rfl := Option.some.inj now
    unfold findActiveDelegationWithHeadroom at active
    split at active
    · cases active
    rename_i row picked
    split_ifs at active
    obtain rfl := Option.some.inj active
    unfold latestDelegation? at picked
    have fits := List.find?_some picked
    simp only [decide_eq_true_eq] at fits
    exact ⟨row, Table.find?_of_mem (List.mem_of_find?_eq_some picked), .inl (congrArg some fits.2.1.symm)⟩
  | signs signed =>
    obtain ⟨kept, row, found, pays⟩ := recordSignedDelegation_payees signed
    refine ⟨⟨rfl, kept, fun _ member _ => member⟩, by rintro _ ⟨⟩, fun draw now => ?_, fun _ => .inl⟩
    obtain rfl := Option.some.inj now
    exact ⟨row, found, .inl (congrArg some pays.symm)⟩
  | draws drew => exact .plain (drawDown_payees drew) rfl (by rintro _ ⟨⟩)
  | fails | unanswered | answered | refused => exact .plain (.refl _) rfl (by rintro _ ⟨⟩)
  | records =>
    exact ⟨⟨rfl, .refl _, fun _ member _ => member⟩, by rintro _ ⟨⟩, by rintro _ ⟨⟩, fun _ => .inl⟩

structure TrustSound (db : PayDb) (call : PayCall) : Prop where
  due : ∀ address, call.DueTo db address → db.InFleet call.input.orgId address
  drawable : ∀ draw, call.stage.draw? = some draw → ∃ row, db.delegations.delegations.find? draw.delegationId = some row

theorem PayCall.DueTo.before (due : call.DueTo db' address)
    (payees : Table.Grows SamePayee db.delegations.delegations db'.delegations.delegations)
    (drawable : ∀ draw, call.stage.draw? = some draw → ∃ row, db.delegations.delegations.find? draw.delegationId = some row) :
    call.DueTo db address := by
  rcases due with pending | ⟨draw, row', draws, found', rfl⟩
  · exact .inl pending
  · obtain ⟨row, found⟩ := drawable draw draws
    obtain ⟨_, same, pays⟩ := payees _ row found
    obtain rfl := Option.some.inj (same.symm.trans found')
    exact .inr ⟨draw, row, draws, found, pays.symm⟩

namespace TrustSound

theorem grown (sound : TrustSound db call)
    (payees : Table.Grows SamePayee db.delegations.delegations db'.delegations.delegations)
    (fleet : ∀ address, call.DueTo db address → db'.InFleet call.input.orgId address) : TrustSound db' call := by
  refine ⟨fun address due => fleet address (due.before payees sound.drawable), fun draw draws => ?_⟩
  obtain ⟨row, found⟩ := sound.drawable draw draws
  obtain ⟨row', found', -⟩ := payees _ row found
  exact ⟨row', found'⟩

theorem kept (sound : TrustSound db call) (kept : TrustKept db db') : TrustSound db' call :=
  sound.grown kept.delegations.payees fun address due => (sound.due address due).kept kept

theorem statement {id : Nat} (sound : TrustSound s.db call) (found : s.calls.find? id = some call)
    (guarded : Guarded s (.statement id answer)) (moved : TrustMoved s.db call.input answer call.stage db' stage') :
    TrustSound db' { call with stage := stage' } := by
  have guarded := guarded call found
  refine ⟨?_, fun draw draws => ?_⟩
  · rintro address (pending | ⟨draw, row, draws, located, rfl⟩)
    · rcases moved.pending address pending with pending | ⟨wallet, resolved⟩
      · exact (sound.due address (.inl pending)).kept moved.kept
      · rw [wallet] at guarded
        exact PayDb.InFleet.kept (guarded address resolved) moved.kept
    · obtain ⟨_, same, origin⟩ := moved.draws draw draws
      obtain rfl := Option.some.inj (same.symm.trans located)
      rcases origin with pending | ⟨hire, wallet, shortfall, picking, picked⟩
      · exact (sound.due _ (.inl pending)).kept moved.kept
      · rw [picking] at guarded
        exact PayDb.InFleet.kept (guarded _ picked) moved.kept
  · obtain ⟨row, located, -⟩ := moved.draws draw draws
    exact ⟨row, located⟩

theorem stays {id : Nat} (sound : ∀ call ∈ s.calls, TrustSound s.db call) : StaysInFleet s (.statement id answer) := by
  intro call found address entrusted
  have sound := sound call (Table.mem_of_find? found)
  refine sound.due address ?_
  rcases entrusted with trusted | drew
  · unfold autoTrusted at trusted
    split at trusted
    · cases trusted
    rename_i s' taken
    obtain ⟨row, filtered, rfl⟩ := List.mem_map.mp trusted
    obtain ⟨added, new⟩ := List.mem_filter.mp filtered
    obtain ⟨other, db', stage', found', moved, -, -, rfl, -⟩ := payStep_statement taken
    obtain rfl := Option.some.inj (found'.symm.trans found)
    refine .inl ?_
    rcases (payStatement_trust moved).listed row added with old | listing
    · exact absurd old (of_decide_eq_true new).1
    · rw [listing]
      rfl
  · simp only [drawnTo?, Option.bind_eq_bind, Option.bind_eq_some_iff] at drew
    obtain ⟨draw, draws, row, located, _, -, pays⟩ := drew
    exact .inr ⟨draw, row, draws, located, Option.some.inj pays⟩

end TrustSound

theorem payStep_trust {label : PayLabel} (sound : ∀ call ∈ s.calls, TrustSound s.db call) (guarded : Guarded s label)
    (taken : payStep s label = some s') : ∀ call ∈ s'.calls, TrustSound s'.db call := by
  cases label with
  | opened id input =>
    obtain ⟨calls, inserted, rfl⟩ := Option.map_eq_some_iff.mp taken
    intro call member
    rcases (Table.mem_insert? inserted).mp member with rfl | member
    · refine ⟨?_, by rintro _ ⟨⟩⟩
      rintro address (pending | ⟨draw, row, draws, -⟩)
      · cases pending
      · cases draws
    · exact sound call member
  | statement id answer =>
    obtain ⟨call, db', stage', found, moved, -, -, rfl, putback⟩ := payStep_statement taken
    have moved := payStatement_trust moved
    intro other member
    rw [putback] at member
    rcases Table.mem_put.mp member with ⟨member, -⟩ | ⟨rfl, -⟩
    · exact (sound other member).kept moved.kept
    · exact (sound call (Table.mem_of_find? found)).statement found guarded moved
  | elsewhere delegations agents allowlist =>
    simp only [payStep] at taken
    split_ifs at taken
    obtain rfl := Option.some.inj taken
    exact fun call member => (sound call member).grown guarded.1 (guarded.2 call member)

theorem run_trust (run : Run payStep s₀ events s) (idle : s₀.calls = .empty) (guarded : Conforms Guarded events) :
    ∀ call ∈ s.calls, TrustSound s.db call := by
  refine run.invariant (fun s => ∀ call ∈ s.calls, TrustSound s.db call) guarded ?_ ?_
  · simp [idle]
  · intro s label s' sound guarded taken
    exact payStep_trust sound guarded taken

theorem staysInFleet_iff {id : Nat} {payee : Address} (found : s.calls.find? id = some call)
    (listing : call.stage = .allowlist payee) (fresh : s.db.allowlist.table.find? answer.id = none)
    (taken : payStep s (.statement id answer) = some s') : StaysInFleet s (.statement id answer) ↔
      s.db.InFleet call.input.orgId payee ∨ s.db.allowlist.Lists call.input.orgId call.input.chain payee := by
  have undrawn : drawnTo? s.db.delegations call.stage answer.toChainAnswer = none := by
    rw [listing]
    rfl
  obtain ⟨other, db', stage', found', moved, -, -, rfl, -⟩ := payStep_statement taken
  obtain rfl := Option.some.inj (found'.symm.trans found)
  rw [listing] at moved
  obtain ⟨written, -⟩ := Prod.mk.inj (Option.some.inj moved)
  have trusts (address : Address) : address ∈ autoTrusted s id other answer ↔
      address = payee ∧ ¬s.db.allowlist.Lists other.input.orgId other.input.chain payee := by
    simp only [autoTrusted, taken, List.mem_map, List.mem_filter, decide_eq_true_eq]
    rw [← written]
    simp only [DestinationAllowlist.insertUnlessListed]
    rcases @DestinationAllowlist.insert?_cases s.db.allowlist (other.input.payee.row answer.id payee) fresh with
      ⟨listed, refused⟩ | ⟨unlisted, list, inserted, members⟩
    · rw [refused]
      constructor
      · rintro ⟨row, ⟨member, new, -⟩, -⟩
        exact absurd member new
      · rintro ⟨-, unlisted⟩
        exact absurd listed unlisted
    · rw [inserted]
      constructor
      · rintro ⟨row, ⟨member, new, -⟩, rfl⟩
        rcases (members row).mp member with rfl | old
        · exact ⟨rfl, unlisted⟩
        · exact absurd old new
      · rintro ⟨rfl, -⟩
        refine ⟨_, ⟨(members _).mpr (.inl rfl), fun old => unlisted ⟨_, old, rfl⟩, rfl, rfl, rfl⟩, rfl⟩
  constructor
  · intro stays
    by_cases listed : s.db.allowlist.Lists other.input.orgId other.input.chain payee
    · exact .inr listed
    · exact .inl (stays other found payee (.inl ((trusts payee).mpr ⟨rfl, listed⟩)))
  · intro known call' same address entrusted
    obtain rfl := Option.some.inj (found.symm.trans same)
    rcases entrusted with trusted | drew
    · obtain ⟨rfl, unlisted⟩ := (trusts address).mp trusted
      exact known.resolve_right unlisted
    · cases undrawn.symm.trans drew

/-- Guarded calls trust, and draw to, the fleet of their org only; and a statement that lists a payee stays in the fleet
exactly where the payee is of the fleet, or its text is listed already. -/
theorem fleet_trust (run : Run payStep s₀ events s) (idle : s₀.calls = .empty) (guarded : Conforms Guarded events) :
    (∀ e ∈ events, StaysInFleet e.1 e.2) ∧
    ∀ (now later : PayWorld) (id : Nat) (answer : PayAnswer) (call : PayCall) (payee : Address),
      now.calls.find? id = some call → call.stage = .allowlist payee → now.db.allowlist.table.find? answer.id = none →
      payStep now (.statement id answer) = some later →
      (StaysInFleet now (.statement id answer) ↔
        now.db.InFleet call.input.orgId payee ∨ now.db.allowlist.Lists call.input.orgId call.input.chain payee) := by
  refine ⟨fun e member => ?_, fun now later id answer call payee => staysInFleet_iff⟩
  obtain ⟨before, after, s', rfl, first, -, -⟩ := run.of_mem member
  simp only [conforms_append] at guarded
  have sound := run_trust first idle guarded.1
  obtain ⟨s, label⟩ := e
  cases label with
  | statement => exact TrustSound.stays sound
  | opened | elsewhere => trivial

section Example

instance (s : PayWorld) (label : PayLabel) : Decidable (StaysInFleet s label) :=
  match label with
  | .statement id answer => decidable_of_iff
      (∀ call ∈ s.calls.find? id,
        (∀ address ∈ autoTrusted s id call answer, s.db.InFleet call.input.orgId address) ∧
          ∀ address ∈ drawnTo? s.db.delegations call.stage answer.toChainAnswer, s.db.InFleet call.input.orgId address)
      (by simp only [StaysInFleet, Option.mem_def, or_imp, forall_and])
  | .opened _ _ | .elsewhere _ _ _ => .isTrue trivial

def foreignSeller : PayWorld := { fleet with db.agents := ⟨[⟨2, 9, "seller"⟩], by decide⟩ }

def revokedSeller (casing : Nat) : PayWorld :=
  { fleet with
    db.allowlist := ⟨⟨[⟨1, 1, .base, ⟨2, casing⟩, "seller", .tenantConfigured, .revoked, .operator 1, none⟩], List.nodup_singleton _⟩,
      List.nodup_singleton _⟩ }

def guardedHere (s : PayWorld) : PayLabel → Bool
  | .opened _ _ => true
  | .statement id _ => (s.calls.find? id).all fun call =>
      match call.stage with
      | .wallet => (agentAddress? s.db.delegations call.input.payeeAgentId call.input.network).all fun payee =>
          s.db.InFleet call.input.orgId payee
      | .funding _ (.delegations _ _) => false
      | _ => true
  | .elsewhere _ _ _ => false

theorem guarded_of_here {label : PayLabel} (checked : guardedHere s label = true) : Guarded s label := by
  cases label with
  | opened => trivial
  | elsewhere => cases checked
  | statement id answer =>
    intro call found
    rw [Option.mem_def] at found
    simp only [guardedHere, found, Option.all_some] at checked
    split at checked
    · intro payee resolved
      rw [Option.mem_def] at resolved
      rw [resolved] at checked
      exact of_decide_eq_true checked
    · cases checked
    · trivial

def Strays (events : List (PayWorld × PayLabel)) : Prop := ∃ e ∈ events, ¬StaysInFleet e.1 e.2

instance (events : List (PayWorld × PayLabel)) : Decidable (Strays events) := inferInstanceAs (Decidable (∃ e ∈ events, _))

def Drew (s : PayWorld) : Prop := (s.calls.find? 5).any fun call => call.stage.hash = some "0x77"

instance (s : PayWorld) : Decidable (Drew s) := inferInstanceAs (Decidable (_ = true))

def hires : List PayLabel := hiresSeller 5 :: paidStatements 5 "0x77" none

/-- Agents of one org, and no revocation -/
theorem fleet_trust_own : ∃ events s, Run payStep fleet events s ∧ (∀ e ∈ events, StaysInFleet e.1 e.2) ∧ Drew s := by
  obtain ⟨events, s, run, guarded, drew⟩ : ∃ events s, Run payStep fleet events s ∧ Conforms Guarded events ∧ Drew s :=
    exists_conforming_run hires guardedHere Drew (fun _ _ => guarded_of_here) (by decide +kernel)
  exact ⟨events, s, run, (fleet_trust run rfl guarded).1, drew⟩

/-- Each of the three calls draws to the seller, and the first and the second add a row for it. -/
theorem strays_to_seller : (∃ events s, Run payStep foreignSeller events s ∧ Strays events ∧ Drew s ∧
      s.db.allowlist.table.rows.length = 1) ∧
    (∃ events s, Run payStep (revokedSeller 1) events s ∧ Strays events ∧ Drew s ∧ s.db.allowlist.table.rows.length = 2) ∧
    ∃ events s, Run payStep (revokedSeller 0) events s ∧ Strays events ∧ Drew s ∧ s.db.allowlist.table.rows.length = 1 := by
  refine ⟨?_, ?_, ?_⟩
  · exact exists_run_with hires (fun events s => Strays events ∧ Drew s ∧ s.db.allowlist.table.rows.length = 1) (by decide +kernel)
  · exact exists_run_with hires (fun events s => Strays events ∧ Drew s ∧ s.db.allowlist.table.rows.length = 2) (by decide +kernel)
  · exact exists_run_with hires (fun events s => Strays events ∧ Drew s ∧ s.db.allowlist.table.rows.length = 1) (by decide +kernel)

end Example

end AgentOps.Payments
