import AgentOps.Lib.JsonValue
import AgentOps.Lib.Query
import AgentOps.Payments.QuoteAuthority
import Mathlib.Algebra.Ring.Nat
import Mathlib.Data.List.Dedup
import Mathlib.Data.List.MinMax
import Mathlib.Order.Nat

namespace AgentOps.Treasury
open Lib Identity Payments

/-! # Rebalance recommendations -/

structure CircleTokenBalance where
  amount : String
  symbol : String
  is_native : Bool
  deriving DecidableEq

structure CircleChainBalanceRecord where
  chain : PaymentChain
  tokens : List CircleTokenBalance
  deriving DecidableEq

inductive RouteOutcome where
  | accepted
  | rejected
  deriving DecidableEq

structure PaymentRouteObservation where
  org_id : Identity.OrgId
  supported_rail : Option PaymentRail
  amount_usdc : Option Nat
  outcome : RouteOutcome
  observed_at : Time
  deriving DecidableEq

structure ExactSpendRow where
  chain : PaymentChain
  recentSpendMicros : Nat
  deriving DecidableEq

structure RebalanceRecommendationRecord where
  amount_usdc : String
  chain : PaymentChain
  current_wallet_usdc : String
  deficit_usdc : String
  reason_code : String
  recent_exact_spend_usdc : String
  recommended_min_usdc : String
  source_chain : PaymentChain
  deriving DecidableEq

def exactWalletRebalanceMinMicros : Nat := 50000

def exactWalletRebalanceFeeBufferMicros : Nat := 10000

def recentSpendWindow : Time := 24 * 60 * 60 * 1000000

def PaymentRouteObservation.counts (observation : PaymentRouteObservation) (orgId : Identity.OrgId) (now : Time) : Bool :=
  observation.org_id = orgId && observation.outcome = .accepted && now ≤ observation.observed_at + recentSpendWindow

def PaymentRouteObservation.exactChain (observation : PaymentRouteObservation) : Option PaymentChain :=
  (observation.supported_rail.filter (·.kind = .directExact)).map (·.chain)

def exactSpend (history : List PaymentRouteObservation) (orgId : Identity.OrgId) (now : Time) : List ExactSpendRow :=
  let counted := history.filter (·.counts orgId now)
  (counted.filterMap (·.exactChain)).dedup.map fun chain =>
    ⟨chain, ((counted.filter (·.exactChain = some chain)).map fun observation => observation.amount_usdc.getD 0).sum⟩

def walletUsdcMicros (balance : CircleChainBalanceRecord) : Nat :=
  match balance.tokens.find? fun token => token.symbol = "USDC" && !token.is_native with
  | none => 0
  | some usdc => (parseUsdcMicros (trimChars usdc.amount.toList)).toOption.getD 0

def richer (left right : CircleChainBalanceRecord) : Bool := walletUsdcMicros right ≤ walletUsdcMicros left

def sourceChainForRebalance (balances : List CircleChainBalanceRecord) (destinationChain : PaymentChain) (amountMicros : Nat) :
    Option PaymentChain :=
  let required := amountMicros + exactWalletRebalanceFeeBufferMicros
  let eligible := (balances.filter (·.chain ≠ destinationChain)).filter fun balance => required ≤ walletUsdcMicros balance
  (orderBy richer eligible).head?.map (·.chain)

def recommendedMinMicros (recentSpendMicros : Nat) : Nat :=
  if recentSpendMicros * 5 > exactWalletRebalanceMinMicros then recentSpendMicros * 5 else exactWalletRebalanceMinMicros

def currentWalletMicros (balances : List CircleChainBalanceRecord) (chain : PaymentChain) : Nat :=
  ((balances.find? (·.chain = chain)).map walletUsdcMicros).getD 0

def recommendation? (balances : List CircleChainBalanceRecord) (row : ExactSpendRow) : Option RebalanceRecommendationRecord :=
  if row.recentSpendMicros = 0 then none
  else
    let recommendedMin := recommendedMinMicros row.recentSpendMicros
    let currentWallet := currentWalletMicros balances row.chain
    if recommendedMin ≤ currentWallet then none
    else
      let deficit := recommendedMin - currentWallet
      (sourceChainForRebalance balances row.chain deficit).map fun sourceChain =>
        { amount_usdc := formatUsdc deficit
          chain := row.chain
          current_wallet_usdc := formatUsdc currentWallet
          deficit_usdc := formatUsdc deficit
          reason_code := "exact_wallet_below_recent_demand_floor"
          recent_exact_spend_usdc := formatUsdc row.recentSpendMicros
          recommended_min_usdc := formatUsdc recommendedMin
          source_chain := sourceChain }

/-- `left.localeCompare(right) <= 0`. The characters of an amount are collated as their code points are ordered. -/
def localeBefore (left right : String) : Bool := KeyOrder.codePoints.le left right

/-- `listRebalanceRecommendationsForBalances`, from the rows that the query returned -/
def listRebalanceRecommendations (rows : List ExactSpendRow) (balances : List CircleChainBalanceRecord) :
    List RebalanceRecommendationRecord :=
  orderBy (fun left right => localeBefore right.deficit_usdc left.deficit_usdc) (rows.filterMap (recommendation? balances))

def usdcMicros (amount : String) : Nat := (parseUsdcMicros amount.toList).toOption.getD 0

def OrderedByDeficit (recommendations : List RebalanceRecommendationRecord) : Prop :=
  recommendations.Pairwise fun left right => usdcMicros right.deficit_usdc ≤ usdcMicros left.deficit_usdc

def balanceMicros (balances : List CircleChainBalanceRecord) (chain : PaymentChain) : Nat :=
  ((balances.filter (·.chain = chain)).map walletUsdcMicros).foldr max 0

def outgoingMicros (recommendations : List RebalanceRecommendationRecord) (chain : PaymentChain) : Nat :=
  ((recommendations.filter (·.source_chain = chain)).map fun recommendation => usdcMicros recommendation.amount_usdc).sum

def Affordable (recommendations : List RebalanceRecommendationRecord) (balances : List CircleChainBalanceRecord) : Prop :=
  ∀ chain, outgoingMicros recommendations chain ≤ balanceMicros balances chain

variable {balances : List CircleChainBalanceRecord} {row : ExactSpendRow} {rows : List ExactSpendRow}

def shortfall (balances : List CircleChainBalanceRecord) (row : ExactSpendRow) : Nat :=
  if row.recentSpendMicros = 0 then 0 else recommendedMinMicros row.recentSpendMicros - currentWalletMicros balances row.chain

def Covers (balances : List CircleChainBalanceRecord) (balance : CircleChainBalanceRecord) (row : ExactSpendRow) : Prop :=
  balance.chain ≠ row.chain ∧ shortfall balances row + exactWalletRebalanceFeeBufferMicros ≤ walletUsdcMicros balance

instance (balance : CircleChainBalanceRecord) : Decidable (Covers balances balance row) := inferInstanceAs (Decidable (_ ∧ _))

/-- A chain lacks something that another one can cover. -/
def Short (balances : List CircleChainBalanceRecord) (row : ExactSpendRow) : Prop :=
  0 < shortfall balances row ∧ ∃ balance ∈ balances, Covers balances balance row

def richest? (balances : List CircleChainBalanceRecord) : Option CircleChainBalanceRecord := (orderBy richer balances).head?

def drainMicros (balances : List CircleChainBalanceRecord) (balance : CircleChainBalanceRecord)
    (rows : List ExactSpendRow) : Nat :=
  ((rows.filter (Covers balances balance)).map (shortfall balances)).sum

theorem usdcMicros_formatUsdc (micros : Nat) : usdcMicros (formatUsdc micros) = micros := by
  rw [usdcMicros, parseUsdcMicros_formatUsdc]
  rfl

theorem formatUsdc_injective : Function.Injective formatUsdc := by
  intro micros micros' same
  rw [← usdcMicros_formatUsdc micros, same, usdcMicros_formatUsdc]

theorem richer_total (left right : CircleChainBalanceRecord) : richer left right = true ∨ richer right left = true := by
  simp only [richer, decide_eq_true_eq]
  exact le_total _ _

theorem richer_trans (first second third : CircleChainBalanceRecord) (before : richer first second = true)
    (after : richer second third = true) : richer first third = true := by
  simp only [richer, decide_eq_true_eq] at before after ⊢
  exact after.trans before

theorem source_eq : sourceChainForRebalance balances row.chain (shortfall balances row) =
    ((orderBy richer balances).find? fun balance => Covers balances balance row).map (·.chain) := by
  simp only [sourceChainForRebalance, List.filter_filter, filter_orderBy richer_total richer_trans, List.head?_filter]
  congr 2
  funext balance
  rw [Bool.eq_iff_iff]
  simp only [Bool.and_eq_true, decide_eq_true_eq]
  exact and_comm

theorem recommendation?_iff {recommendation : RebalanceRecommendationRecord} :
    recommendation? balances row = some recommendation ↔ 0 < shortfall balances row ∧
      ∃ source, sourceChainForRebalance balances row.chain (shortfall balances row) = some source ∧
        recommendation =
          { amount_usdc := formatUsdc (shortfall balances row)
            chain := row.chain
            current_wallet_usdc := formatUsdc (currentWalletMicros balances row.chain)
            deficit_usdc := formatUsdc (shortfall balances row)
            reason_code := "exact_wallet_below_recent_demand_floor"
            recent_exact_spend_usdc := formatUsdc row.recentSpendMicros
            recommended_min_usdc := formatUsdc (recommendedMinMicros row.recentSpendMicros)
            source_chain := source } := by
  unfold recommendation?
  by_cases idle : row.recentSpendMicros = 0
  · simp [idle, shortfall]
  · have lacks : shortfall balances row = recommendedMinMicros row.recentSpendMicros - currentWalletMicros balances row.chain :=
      if_neg idle
    by_cases enough : recommendedMinMicros row.recentSpendMicros ≤ currentWalletMicros balances row.chain
    · have nothing : ¬0 < shortfall balances row := by omega
      simp [idle, enough, nothing]
    · have something : 0 < shortfall balances row := by omega
      simp [idle, enough, ← lacks, something, eq_comm]

theorem mem_recommendations {recommendation : RebalanceRecommendationRecord} :
    recommendation ∈ listRebalanceRecommendations rows balances ↔ ∃ row ∈ rows, recommendation? balances row = some recommendation := by
  simp [listRebalanceRecommendations]

theorem short_iff : Short balances row ↔ ∃ recommendation, recommendation? balances row = some recommendation := by
  have sources : (∃ balance ∈ balances, Covers balances balance row) ↔
      ∃ source, sourceChainForRebalance balances row.chain (shortfall balances row) = some source := by
    rw [source_eq, ← Option.isSome_iff_exists, Option.isSome_map, List.find?_isSome]
    simp
  simp only [Short, sources, recommendation?_iff]
  constructor
  · rintro ⟨lacks, source, found⟩
    exact ⟨_, lacks, source, found, rfl⟩
  · rintro ⟨_, lacks, source, found, -⟩
    exact ⟨lacks, source, found⟩

theorem recommendations_sorted : (listRebalanceRecommendations rows balances).Pairwise fun left right =>
    localeBefore right.deficit_usdc left.deficit_usdc = true := by
  have : Std.Total fun left right : RebalanceRecommendationRecord => localeBefore right.deficit_usdc left.deficit_usdc = true :=
    ⟨fun _ _ => KeyOrder.codePoints.total _ _⟩
  have : IsTrans RebalanceRecommendationRecord fun left right => localeBefore right.deficit_usdc left.deficit_usdc = true :=
    ⟨fun _ _ _ first second => KeyOrder.codePoints.trans _ _ _ second first⟩
  exact List.pairwise_insertionSort _ _

theorem ordered_iff : OrderedByDeficit (listRebalanceRecommendations rows balances) ↔
    ∀ row ∈ rows, ∀ row' ∈ rows, Short balances row → Short balances row' → shortfall balances row < shortfall balances row' →
      localeBefore (formatUsdc (shortfall balances row)) (formatUsdc (shortfall balances row')) = true := by
  constructor
  · intro ordered row member row' member' short short' less
    obtain ⟨recommendation, pushed⟩ := short_iff.mp short
    obtain ⟨recommendation', pushed'⟩ := short_iff.mp short'
    have agree : ∀ left ∈ listRebalanceRecommendations rows balances, ∀ right ∈ listRebalanceRecommendations rows balances,
        usdcMicros left.deficit_usdc < usdcMicros right.deficit_usdc → localeBefore left.deficit_usdc right.deficit_usdc = true := by
      have sorted : (listRebalanceRecommendations rows balances).Pairwise fun left right =>
          localeBefore right.deficit_usdc left.deficit_usdc = true := recommendations_sorted
      have both := sorted.and ordered
      intro left at_left right at_right
      refine List.Pairwise.forall_of_forall_of_flip (R := fun left right : RebalanceRecommendationRecord =>
        usdcMicros left.deficit_usdc < usdcMicros right.deficit_usdc →
          localeBefore left.deficit_usdc right.deficit_usdc = true) ?_ ?_ ?_ at_left at_right
      · intro _ _ below
        omega
      · exact both.imp fun ⟨_, number⟩ below => by omega
      · exact both.imp fun ⟨text, _⟩ _ => text
    have texts := agree recommendation (mem_recommendations.mpr ⟨row, member, pushed⟩)
      recommendation' (mem_recommendations.mpr ⟨row', member', pushed'⟩)
    obtain ⟨-, _, -, rfl⟩ := recommendation?_iff.mp pushed
    obtain ⟨-, _, -, rfl⟩ := recommendation?_iff.mp pushed'
    simp only [usdcMicros_formatUsdc] at texts
    exact texts less
  · intro agree
    refine recommendations_sorted.imp_of_mem fun {left right} at_left at_right text => ?_
    obtain ⟨row, member, pushed⟩ := mem_recommendations.mp at_left
    obtain ⟨row', member', pushed'⟩ := mem_recommendations.mp at_right
    have short := short_iff.mpr ⟨left, pushed⟩
    have short' := short_iff.mpr ⟨right, pushed'⟩
    obtain ⟨-, _, -, rfl⟩ := recommendation?_iff.mp pushed
    obtain ⟨-, _, -, rfl⟩ := recommendation?_iff.mp pushed'
    simp only [usdcMicros_formatUsdc]
    by_contra less
    have same := formatUsdc_injective (KeyOrder.codePoints_ties.mp
      ⟨agree row member row' member' short short' (not_le.mp less), text⟩)
    omega

def sourceOf (balances : List CircleChainBalanceRecord) (row : ExactSpendRow) : Option PaymentChain :=
  (recommendation? balances row).map (·.source_chain)

theorem sum_filter {α : Type} (p : α → Bool) (f : α → Nat) (as : List α) :
    ((as.filter p).map f).sum = (as.map fun a => if p a then f a else 0).sum := by
  induction as with
  | nil => rfl
  | cons a as ih => cases here : p a <;> simp [here, ih]

theorem sourceOf_some {chain : PaymentChain} : sourceOf balances row = some chain ↔ 0 < shortfall balances row ∧
    sourceChainForRebalance balances row.chain (shortfall balances row) = some chain := by
  rw [sourceOf, Option.map_eq_some_iff]
  constructor
  · rintro ⟨recommendation, pushed, rfl⟩
    obtain ⟨lacks, source, found, rfl⟩ := recommendation?_iff.mp pushed
    exact ⟨lacks, found⟩
  · rintro ⟨lacks, found⟩
    exact ⟨_, recommendation?_iff.mpr ⟨lacks, chain, found, rfl⟩, rfl⟩

theorem outgoingMicros_eq (chain : PaymentChain) : outgoingMicros (listRebalanceRecommendations rows balances) chain =
    (rows.map fun row => if sourceOf balances row = some chain then shortfall balances row else 0).sum := by
  have reordered : (listRebalanceRecommendations rows balances).Perm (rows.filterMap (recommendation? balances)) :=
    List.perm_insertionSort _ _
  rw [outgoingMicros, ((reordered.filter _).map _).sum_nat, sum_filter]
  clear reordered
  induction rows with
  | nil => rfl
  | cons row rows ih =>
    rw [List.map_cons, List.sum_cons, ← ih]
    cases pushed : recommendation? balances row with
    | none => simp [pushed, sourceOf]
    | some recommendation =>
      obtain ⟨-, source, -, rfl⟩ := recommendation?_iff.mp pushed
      simp [pushed, sourceOf, usdcMicros_formatUsdc]

variable {balance : CircleChainBalanceRecord} {chain : PaymentChain}

theorem richest_max (richest : richest? balances = some balance) :
    balance ∈ balances ∧ ∀ other ∈ balances, walletUsdcMicros other ≤ walletUsdcMicros balance := by
  obtain ⟨member, first⟩ := head_orderBy richer_total richer_trans richest
  exact ⟨member, fun other among => by simpa [richer] using first other among⟩

theorem source_mem (found : sourceChainForRebalance balances row.chain (shortfall balances row) = some chain) :
    ∃ source ∈ balances, source.chain = chain ∧ Covers balances source row := by
  rw [source_eq, Option.map_eq_some_iff] at found
  obtain ⟨source, first, same⟩ := found
  exact ⟨source, mem_orderBy.mp (List.mem_of_find?_eq_some first), same, by simpa using List.find?_some first⟩

theorem source_richest (richest : richest? balances = some balance) (covers : Covers balances balance row) :
    sourceChainForRebalance balances row.chain (shortfall balances row) = some balance.chain := by
  obtain ⟨rest, first⟩ := List.head?_eq_some_iff.mp richest
  rw [source_eq, first, List.find?_cons, decide_eq_true covers]
  rfl

theorem source_other (richest : richest? balances = some balance) (other : chain ≠ balance.chain)
    (found : sourceChainForRebalance balances row.chain (shortfall balances row) = some chain) : row.chain = balance.chain := by
  by_contra apart
  obtain ⟨source, member, same, -, enough⟩ := source_mem found
  have covers : Covers balances balance row := ⟨Ne.symm apart, enough.trans ((richest_max richest).2 source member)⟩
  rw [source_richest richest covers] at found
  exact other (Option.some.inj found).symm

theorem le_balanceMicros (member : balance ∈ balances) : walletUsdcMicros balance ≤ balanceMicros balances balance.chain :=
  List.le_max_of_le' 0 (List.mem_map_of_mem (List.mem_filter.mpr ⟨member, decide_eq_true rfl⟩)) le_rfl

theorem balanceMicros_richest (richest : richest? balances = some balance) :
    balanceMicros balances balance.chain = walletUsdcMicros balance := by
  obtain ⟨member, most⟩ := richest_max richest
  refine le_antisymm ?_ (le_balanceMicros member)
  change List.foldr max (⊥ : Nat) _ ≤ _
  refine List.max_le_of_forall_le _ _ fun micros among => ?_
  obtain ⟨other, listed, rfl⟩ := List.mem_map.mp among
  exact most other (List.mem_of_mem_filter listed)

theorem outgoing_richest (richest : richest? balances = some balance) :
    outgoingMicros (listRebalanceRecommendations rows balances) balance.chain = drainMicros balances balance rows := by
  rw [outgoingMicros_eq, drainMicros, sum_filter]
  congr 1
  refine List.map_congr_left fun row _ => ?_
  by_cases nothing : shortfall balances row = 0
  · simp [nothing]
  · have same : sourceOf balances row = some balance.chain ↔ Covers balances balance row := by
      rw [sourceOf_some]
      constructor
      · rintro ⟨-, found⟩
        obtain ⟨source, member, same, other, enough⟩ := source_mem found
        exact ⟨same ▸ other, enough.trans ((richest_max richest).2 source member)⟩
      · exact fun covers => ⟨by omega, source_richest richest covers⟩
    simp only [same, decide_eq_true_eq]

theorem outgoing_other (richest : richest? balances = some balance) (distinct : (rows.map (·.chain)).Nodup)
    (other : chain ≠ balance.chain) :
    outgoingMicros (listRebalanceRecommendations rows balances) chain ≤ balanceMicros balances chain := by
  rw [outgoingMicros_eq]
  have summed := sum_filter (fun row => sourceOf balances row = some chain) (shortfall balances) rows
  simp only [decide_eq_true_eq] at summed
  rw [← summed]
  have alone : ∀ row ∈ rows.filter fun row => sourceOf balances row = some chain, row.chain = balance.chain := by
    intro row member
    have found := (List.mem_filter.mp member).2
    rw [decide_eq_true_eq, sourceOf_some] at found
    exact source_other richest other found.2
  have distinct' := (distinct.sublist (List.filter_sublist.map _) :
    ((rows.filter fun row => sourceOf balances row = some chain).map (·.chain)).Nodup)
  have covered : ∀ row ∈ rows.filter fun row => sourceOf balances row = some chain,
      shortfall balances row ≤ balanceMicros balances chain := by
    intro row member
    have found := (List.mem_filter.mp member).2
    rw [decide_eq_true_eq, sourceOf_some] at found
    obtain ⟨source, listed, rfl, -, enough⟩ := source_mem found.2
    have room := le_balanceMicros listed
    omega
  generalize rows.filter (fun row => sourceOf balances row = some chain) = served at alone distinct' covered
  match served with
  | [] => exact Nat.zero_le _
  | [row] => simpa using covered row List.mem_cons_self
  | row :: row' :: rest =>
    have same : row.chain = row'.chain := by
      rw [alone row List.mem_cons_self, alone row' (by simp)]
    simp [same] at distinct'

theorem exactSpend_distinct (history : List PaymentRouteObservation) (orgId : Identity.OrgId) (now : Time) :
    ((exactSpend history orgId now).map (·.chain)).Nodup := by
  simp only [exactSpend, List.map_map, Function.comp_def, List.map_id']
  exact List.nodup_dedup _

theorem affordable_iff (distinct : (rows.map (·.chain)).Nodup) :
    Affordable (listRebalanceRecommendations rows balances) balances ↔
      ∀ balance ∈ richest? balances, drainMicros balances balance rows ≤ walletUsdcMicros balance := by
  constructor
  · intro affordable balance richest
    rw [← outgoing_richest richest, ← balanceMicros_richest richest]
    exact affordable balance.chain
  · intro covered chain
    cases richest : richest? balances with
    | none =>
      have empty : balances = [] := by
        have none := List.head?_eq_none_iff.mp richest
        exact List.eq_nil_iff_forall_not_mem.mpr fun balance member => by
          have listed : balance ∈ orderBy richer balances := mem_orderBy.mpr member
          rw [none] at listed
          cases listed
      have nothing (row : ExactSpendRow) : sourceOf balances row ≠ some chain := by
        rw [Ne, sourceOf_some]
        rintro ⟨-, found⟩
        obtain ⟨source, member, -⟩ := source_mem found
        rw [empty] at member
        cases member
      simp [outgoingMicros_eq, nothing]
    | some balance =>
      by_cases same : chain = balance.chain
      · rw [same, outgoing_richest richest, balanceMicros_richest richest]
        exact covered balance richest
      · exact outgoing_other richest distinct same

/-- In whatever order the query returns its groups, the recommendations are ordered and affordable if and only if the texts of what
is recommended sort like its numbers, and the richest chain holds what the other chains lack that it covers one at a time. -/
theorem recommendations_sound_iff (history : List PaymentRouteObservation) (orgId : Identity.OrgId) (now : Time)
    (balances : List CircleChainBalanceRecord) (rows : List ExactSpendRow) (returned : rows.Perm (exactSpend history orgId now)) :
    OrderedByDeficit (listRebalanceRecommendations rows balances) ∧ Affordable (listRebalanceRecommendations rows balances) balances ↔
      (∀ row ∈ rows, ∀ row' ∈ rows, Short balances row → Short balances row' → shortfall balances row < shortfall balances row' →
        localeBefore (formatUsdc (shortfall balances row)) (formatUsdc (shortfall balances row')) = true) ∧
      ∀ balance ∈ richest? balances, drainMicros balances balance rows ≤ walletUsdcMicros balance :=
  and_congr ordered_iff (affordable_iff ((returned.map _).nodup_iff.mpr (exactSpend_distinct history orgId now)))

def spentOn (chain : PaymentChain) (micros : Nat) : PaymentRouteObservation :=
  ⟨1, some ⟨.directExact, chain⟩, some micros, .accepted, 0⟩

def walletHolding (chain : PaymentChain) (amount : String) : CircleChainBalanceRecord := ⟨chain, [⟨amount, "USDC", false⟩]⟩

def twoDemands : List PaymentRouteObservation := [spentOn .base 2000000, spentOn .arbitrum 1800000]

/-- Nine dollars come before ten, and fifteen are to supply both. -/
theorem recommendations_unsound : ¬∀ (history : List PaymentRouteObservation) (orgId : Identity.OrgId) (now : Time)
    (balances : List CircleChainBalanceRecord) (rows : List ExactSpendRow), rows.Perm (exactSpend history orgId now) →
    OrderedByDeficit (listRebalanceRecommendations rows balances) ∨ Affordable (listRebalanceRecommendations rows balances) balances := by
  intro claimed
  rcases claimed twoDemands 1 0 [walletHolding .polygon "15"] _ (List.Perm.refl _) with ordered | affordable
  · revert ordered
    unfold OrderedByDeficit
    decide +kernel
  · have supplied := affordable .polygon
    revert supplied
    decide +kernel

def smallDemands : List PaymentRouteObservation := [spentOn .base 1000000, spentOn .arbitrum 1200000]

theorem recommendations_sound_polygon :
    (OrderedByDeficit (listRebalanceRecommendations (exactSpend smallDemands 1 0) [walletHolding .polygon "15"]) ∧
      Affordable (listRebalanceRecommendations (exactSpend smallDemands 1 0) [walletHolding .polygon "15"])
        [walletHolding .polygon "15"]) ∧
      (listRebalanceRecommendations (exactSpend smallDemands 1 0) [walletHolding .polygon "15"]).length = 2 := by
  refine ⟨(recommendations_sound_iff smallDemands 1 0 _ _ (List.Perm.refl _)).mpr ⟨?_, by decide +kernel⟩, by decide +kernel⟩
  have spent : exactSpend smallDemands 1 0 = [⟨.base, 1000000⟩, ⟨.arbitrum, 1200000⟩] := by decide +kernel
  rw [spent]
  have ordered : ∀ row ∈ [⟨.base, 1000000⟩, ⟨.arbitrum, 1200000⟩], ∀ row' ∈ [⟨.base, 1000000⟩, ⟨.arbitrum, 1200000⟩],
      shortfall [walletHolding .polygon "15"] row < shortfall [walletHolding .polygon "15"] row' →
        localeBefore (formatUsdc (shortfall [walletHolding .polygon "15"] row))
          (formatUsdc (shortfall [walletHolding .polygon "15"] row')) = true := by
    decide +kernel
  exact fun row member row' member' _ _ => ordered row member row' member'

end AgentOps.Treasury
