import AgentOps.Payments.IntraFleetRecords

namespace AgentOps.Payments
open Lib Identity

/-! # The price of a payment within a fleet -/

structure FleetOffer extends X402Accept where
  network : Option String
  payTo : Option Address
  deriving DecidableEq

structure FleetOffer.ForHire (offer : FleetOffer) (chain : PaymentChain) (payee : Address) : Prop where
  network : offer.network = some (chainNetwork chain)
  payTo : offer.payTo.map Address.account = some payee.account

instance (offer : FleetOffer) (chain : PaymentChain) (payee : Address) : Decidable (offer.ForHire chain payee) :=
  decidable_of_iff (_ ∧ _) ⟨fun h => ⟨h.1, h.2⟩, fun h => ⟨h.1, h.2⟩⟩

def Priced (offers : List FleetOffer) (chain : PaymentChain) (hire : Hire) : Prop :=
  ∃ offer ∈ offers, offer.ForHire chain hire.payeeAddress ∧ amountMicrosFromAccept offer.toX402Accept = .ok hire.amountMicros

/-- The first entry asks for what an entry for the payee on the chain asks. -/
def FirstPrices (offers : List FleetOffer) (chain : PaymentChain) (payee : Address) : Prop :=
  ∃ first, offers.head? = some first ∧ ∃ offer ∈ offers, offer.ForHire chain payee ∧
    amountMicrosFromAccept offer.toX402Accept = amountMicrosFromAccept first.toX402Accept

structure OfferedLabel where
  label : PayLabel
  offers : List FleetOffer

def PayLabel.accepts : PayLabel → List X402Accept
  | .statement _ answer => (answer.discovery.bind DiscoveryAnswer.accepts).getD []
  | _ => []

def offeredStep (s : PayWorld) (label : OfferedLabel) : Option PayWorld :=
  if label.label.accepts = label.offers.map FleetOffer.toX402Accept then payStep s label.label else none

def PayStage.payee? : PayStage → Option Address
  | .allowlist payee | .name payee | .discovery payee _ => some payee
  | .funding hire _ | .delegation hire | .signing hire | .drawing hire _ | .fetching hire _ | .recording hire _ _ =>
    some hire.payeeAddress
  | .finished drawn _ => drawn.map fun drawn => drawn.hire.payeeAddress
  | .wallet => none

def PayStage.hire? : PayStage → Option Hire
  | .funding hire _ | .delegation hire | .signing hire | .drawing hire _ | .fetching hire _ | .recording hire _ _ => some hire
  | .finished drawn _ => drawn.map DrawnPayment.hire
  | _ => none

variable {db db' : PayDb} {input : PayIntraFleetInput} {answer : PayAnswer} {stage stage' : PayStage} {hire : Hire}
  {txHash : Hash} {call : PayCall} {s s' s₀ : PayWorld} {events : List (PayWorld × OfferedLabel)} {payee : Address}
  {offers : List FleetOffer} {chain : PaymentChain}

theorem PayStage.hire?_of_hash (drew : stage.hash = some txHash) : ∃ hire, stage.hire? = some hire := by
  cases stage with
  | fetching hire | recording hire => exact ⟨hire, rfl⟩
  | finished drawn outcome =>
    cases drawn with
    | none => cases drew
    | some drawn => exact ⟨drawn.hire, rfl⟩
  | wallet | allowlist | name | discovery | funding | delegation | signing | drawing => cases drew

structure PriceMoved (db : PayDb) (input : PayIntraFleetInput) (answer : PayAnswer) (stage stage' : PayStage) : Prop where
  payee : ∀ payee, stage'.payee? = some payee → stage.payee? = some payee ∨
    agentAddress? db.delegations input.payeeAgentId input.network = some payee
  hire : ∀ hire, stage'.hire? = some hire → stage.hire? = some hire ∨
    stage.payee? = some hire.payeeAddress ∧ quotedMicros answer.discovery = .ok hire.amountMicros

theorem PriceMoved.same (payee : ∀ payee, stage'.payee? = some payee → stage.payee? = some payee)
    (hire : ∀ hire, stage'.hire? = some hire → stage.hire? = some hire) : PriceMoved db input answer stage stage' :=
  ⟨fun other now => .inl (payee other now), fun other now => .inl (hire other now)⟩

theorem payStatement_priced (moved : payStatement db input answer stage = some (db', stage')) :
    PriceMoved db input answer stage stage' := by
  cases payStatement_cases moved with
  | resolves found => exact ⟨fun payee now => .inr (found.trans now), by rintro _ ⟨⟩⟩
  | lists | names => exact .same (fun _ => id) (by rintro _ ⟨⟩)
  | fails => exact .same (by rintro _ ⟨⟩) (by rintro _ ⟨⟩)
  | prices quoted =>
    refine ⟨fun payee now => .inl now, fun hire now => .inr ?_⟩
    obtain rfl := Option.some.inj now
    exact ⟨rfl, quoted⟩
  | funds | funded | asksToSign | picks | signs | draws | unanswered | answered | refused | records =>
    exact .same (fun _ => id) (fun _ => id)

def PayeeResolved (events : List (PayWorld × OfferedLabel)) (call : PayCall) (payee : Address) : Prop :=
  ∃ e ∈ events, (∃ answer, e.2.label = .statement call.id answer) ∧
    agentAddress? e.1.db.delegations call.input.payeeAgentId call.input.network = some payee

/-- An earlier statement of the call has got the entries, and has taken the hire's amount from them. -/
def Discovered (events : List (PayWorld × OfferedLabel)) (call : PayCall) (hire : Hire) (offers : List FleetOffer) : Prop :=
  ∃ e ∈ events, e.2.offers = offers ∧ ∃ answer, e.2.label = .statement call.id answer ∧
    answer.discovery = some ⟨402, some (offers.map FleetOffer.toX402Accept)⟩ ∧ quotedMicros answer.discovery = .ok hire.amountMicros

structure PriceKnown (events : List (PayWorld × OfferedLabel)) (call : PayCall) : Prop where
  payee : ∀ payee, call.stage.payee? = some payee → PayeeResolved events call payee
  hire : ∀ hire, call.stage.hire? = some hire → PayeeResolved events call hire.payeeAddress ∧
    ∃ offers, Discovered events call hire offers

theorem PayeeResolved.later (resolved : PayeeResolved events call payee) (later : List (PayWorld × OfferedLabel)) :
    PayeeResolved (events ++ later) call payee := by
  obtain ⟨e, member, found⟩ := resolved
  exact ⟨e, List.mem_append_left _ member, found⟩

theorem Discovered.later (discovered : Discovered events call hire offers) (later : List (PayWorld × OfferedLabel)) :
    Discovered (events ++ later) call hire offers := by
  obtain ⟨e, member, found⟩ := discovered
  exact ⟨e, List.mem_append_left _ member, found⟩

theorem PriceKnown.later (known : PriceKnown events call) (later : List (PayWorld × OfferedLabel)) :
    PriceKnown (events ++ later) call := by
  refine ⟨fun payee now => (known.payee payee now).later _, fun hire now => ?_⟩
  obtain ⟨resolved, offers, discovered⟩ := known.hire hire now
  exact ⟨resolved.later _, offers, discovered.later _⟩

theorem quotedMicros_ok {discovery : Option DiscoveryAnswer} {micros : Nat} (quoted : quotedMicros discovery = .ok micros) :
    ∃ accept accepts, discovery = some ⟨402, some (accept :: accepts)⟩ ∧ amountMicrosFromAccept accept = .ok micros := by
  unfold quotedMicros at quoted
  split at quoted
  · cases quoted
  rename_i answer
  split_ifs at quoted with status
  split at quoted
  · cases quoted
  · cases quoted
  · rename_i accept accepts body
    obtain ⟨code, body⟩ := answer
    obtain rfl := not_not.mp status
    subst body
    exact ⟨accept, accepts, rfl, quoted⟩

theorem offeredStep_known {label : OfferedLabel} (known : ∀ call ∈ s.calls, PriceKnown events call)
    (taken : offeredStep s label = some s') : ∀ call ∈ s'.calls, PriceKnown (events ++ [(s, label)]) call := by
  obtain ⟨label, offers⟩ := label
  unfold offeredStep at taken
  split_ifs at taken with read
  cases label with
  | opened id input =>
    obtain ⟨calls, inserted, rfl⟩ := Option.map_eq_some_iff.mp taken
    intro call member
    rcases (Table.mem_insert? inserted).mp member with rfl | member
    · exact ⟨by rintro _ ⟨⟩, by rintro _ ⟨⟩⟩
    · exact (known call member).later _
  | elsewhere =>
    simp only [payStep] at taken
    split_ifs at taken
    obtain rfl := Option.some.inj taken
    exact fun call member => (known call member).later _
  | statement id answer =>
    obtain ⟨call, db', stage', found, moved, -, -, -, putback⟩ := payStep_statement taken
    have priced := payStatement_priced moved
    have before := known call (Table.mem_of_find? found)
    obtain rfl : call.id = id := Table.key_of_find? found
    intro other member
    rw [putback] at member
    rcases Table.mem_put.mp member with ⟨member, -⟩ | ⟨rfl, -⟩
    · exact (known other member).later _
    · have here : (s, (⟨.statement call.id answer, offers⟩ : OfferedLabel)) ∈ events ++ [(s, ⟨.statement call.id answer, offers⟩)] :=
        List.mem_append_right _ (List.mem_singleton_self _)
      refine ⟨fun payee now => ?_, fun hire now => ?_⟩
      · rcases priced.payee payee now with old | resolved
        · exact (before.payee payee old).later _
        · exact ⟨_, here, ⟨answer, rfl⟩, resolved⟩
      · rcases priced.hire hire now with old | ⟨payee, quoted⟩
        · obtain ⟨resolved, entries, discovered⟩ := before.hire hire old
          exact ⟨resolved.later _, entries, discovered.later _⟩
        · refine ⟨(before.payee _ payee).later _, offers, _, here, rfl, answer, rfl, ?_, quoted⟩
          obtain ⟨accept, accepts, discovery, -⟩ := quotedMicros_ok quoted
          simp only [PayLabel.accepts, discovery, Option.bind_some, Option.getD_some] at read
          rw [discovery, read]

theorem run_known (run : Run offeredStep s₀ events s) (idle : s₀.calls = .empty) : ∀ call ∈ s.calls, PriceKnown events call := by
  induction run with
  | start => simp [idle]
  | next before taken ih => exact offeredStep_known ih taken

theorem Discovered.head (discovered : Discovered events call hire offers) : ∃ first others, offers = first :: others ∧
    amountMicrosFromAccept first.toX402Accept = .ok hire.amountMicros := by
  obtain ⟨-, -, -, answer, -, discovery, quoted⟩ := discovered
  obtain ⟨accept, accepts, same, amount⟩ := quotedMicros_ok (discovery ▸ quoted)
  simp only [Option.some.injEq, DiscoveryAnswer.mk.injEq, true_and] at same
  obtain ⟨first, others, rfl, rfl, -⟩ := List.map_eq_cons_iff.mp same
  exact ⟨first, others, rfl, amount⟩

theorem Discovered.priced_iff (discovered : Discovered events call hire offers) :
    Priced offers chain hire ↔ FirstPrices offers chain hire.payeeAddress := by
  obtain ⟨first, others, rfl, amount⟩ := discovered.head
  unfold Priced FirstPrices
  rw [← amount]
  constructor
  · intro priced
    exact ⟨first, rfl, priced⟩
  · rintro ⟨_, same, priced⟩
    obtain rfl := Option.some.inj same
    exact priced

/-- What a call draws is the amount of an entry for its payee on its chain, exactly when the first entry asks for as much. -/
theorem fleet_price (run : Run offeredStep s₀ events s) (idle : s₀.calls = .empty) (member : call ∈ s.calls)
    (drew : call.stage.hash = some txHash) : ∃ hire offers, call.stage.hire? = some hire ∧
      PayeeResolved events call hire.payeeAddress ∧ Discovered events call hire offers ∧
      (Priced offers call.input.chain hire ↔ FirstPrices offers call.input.chain hire.payeeAddress) := by
  obtain ⟨hire, now⟩ := PayStage.hire?_of_hash drew
  obtain ⟨resolved, offers, discovered⟩ := (run_known run idle call member).hire hire now
  exact ⟨hire, offers, now, resolved, discovered, discovered.priced_iff⟩

section Example

def offerFor (network : String) (payTo : Address) : FleetOffer := ⟨⟨some "10000", none⟩, some network, some payTo⟩

def drawsOn (offer : FleetOffer) : List OfferedLabel :=
  (hiresSeller 5 :: paidStatements 5 "0x77" none).map fun label => ⟨label, if label.accepts = [] then [] else [offer]⟩

def DrawnOn (offer : FleetOffer) (events : List (PayWorld × OfferedLabel)) (s : PayWorld) : Prop :=
  ((s.calls.find? 5).any fun call => call.stage.hash = some "0x77" ∧ call.input.chain = .base ∧
    call.stage.hire?.map Hire.payeeAddress = some fleetSeller) = true ∧ ∀ e ∈ events, e.2.offers = [] ∨ e.2.offers = [offer]

instance (offer : FleetOffer) (events : List (PayWorld × OfferedLabel)) (s : PayWorld) : Decidable (DrawnOn offer events s) :=
  inferInstanceAs (Decidable (_ ∧ ∀ e ∈ events, _))

theorem Discovered.offer {offer : FleetOffer} (discovered : Discovered events call hire offers)
    (only : ∀ e ∈ events, e.2.offers = [] ∨ e.2.offers = [offer]) : offers = [offer] := by
  obtain ⟨first, others, same, -⟩ := discovered.head
  obtain ⟨e, member, rfl, -⟩ := discovered
  refine (only e member).resolve_left ?_
  rw [same]
  exact List.cons_ne_nil _ _

theorem fleet_price_own : ∃ events s, Run offeredStep fleet events s ∧ ∃ call ∈ s.calls, ∃ hire offers,
    call.stage.hire? = some hire ∧ Discovered events call hire offers ∧ Priced offers .base hire := by
  obtain ⟨events, s, run, drawn, only⟩ : ∃ events s, Run offeredStep fleet events s ∧
      DrawnOn (offerFor "eip155:84532" fleetSeller) events s :=
    exists_run_with (drawsOn (offerFor "eip155:84532" fleetSeller)) _ (by decide +kernel)
  obtain ⟨call, found, drawn⟩ := (Option.any_eq_true _ _).mp drawn
  obtain ⟨drew, chain, payee⟩ := of_decide_eq_true drawn
  obtain ⟨hire, offers, now, -, discovered, priced⟩ := fleet_price run rfl (Table.mem_of_find? found) drew
  refine ⟨events, s, run, call, Table.mem_of_find? found, hire, offers, now, discovered, ?_⟩
  rw [chain] at priced
  refine priced.mpr ?_
  rw [now] at payee
  rw [discovered.offer only, Option.some.inj payee]
  exact ⟨_, rfl, _, List.mem_singleton_self _, by decide, rfl⟩

/-- The seller's one entry is for another chain and another wallet. -/
theorem draws_elsewhere : ∃ events s, Run offeredStep fleet events s ∧ ∃ call ∈ s.calls, call.stage.hash = some "0x77" ∧
    ∀ hire offers, Discovered events call hire offers → ¬Priced offers call.input.chain hire := by
  obtain ⟨events, s, run, drawn, only⟩ : ∃ events s, Run offeredStep fleet events s ∧
      DrawnOn (offerFor "eip155:137" ⟨9, 0⟩) events s :=
    exists_run_with (drawsOn (offerFor "eip155:137" ⟨9, 0⟩)) _ (by decide +kernel)
  obtain ⟨call, found, drawn⟩ := (Option.any_eq_true _ _).mp drawn
  obtain ⟨drew, chain, -⟩ := of_decide_eq_true drawn
  refine ⟨events, s, run, call, Table.mem_of_find? found, drew, ?_⟩
  intro hire offers discovered
  rw [discovered.offer only, chain]
  rintro ⟨offer, member, forHire, -⟩
  obtain rfl := List.mem_singleton.mp member
  exact absurd forHire.network (by decide)

end Example

end AgentOps.Payments
