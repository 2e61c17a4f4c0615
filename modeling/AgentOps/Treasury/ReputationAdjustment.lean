import AgentOps.Identity.Errors
import AgentOps.Lib.JsNumber
import AgentOps.Treasury.Fleet
import Mathlib.Data.Rat.Floor
import Mathlib.Tactic.Linarith

namespace AgentOps.Treasury
open Lib
open Identity (Failure conflict)

/-! # Allocations that follow a reputation -/

def clampBigint (value min max : ℤ) : ℤ :=
  if value < min then min
  else if value > max then max
  else value

structure NextAllocationInput where
  current : ℤ
  floor : ℤ
  ceiling : ℤ
  reputation : JsNumber
  maxStepBps : JsNumber

namespace NextAllocationInput

variable (input : NextAllocationInput)

/-- `BigInt(Math.max(0, Math.min(100, Math.round(reputation)))) * 100n` -/
def reputationBps : Option ℤ := ((input.reputation.round.atMost 100).atLeast 0).toBigInt?.map (· * 100)

/-- `BigInt(Math.max(0, Math.round(maxStepBps)))` -/
def stepBps : Option ℤ := (input.maxStepBps.round.atLeast 0).toBigInt?

def target : Option ℤ :=
  input.reputationBps.map fun bps => input.floor + ((input.ceiling - input.floor) * bps).tdiv 10000

def step : Option ℤ := input.stepBps.map fun bps => (input.current * bps).tdiv 10000

end NextAllocationInput

/-- `none` where `BigInt` throws -/
def nextAllocation (input : NextAllocationInput) : Option ℤ := do
  let target ← input.target
  let step ← input.step
  let delta := clampBigint (target - input.current) (-step) step
  some (clampBigint (input.current + delta) input.floor input.ceiling)

def reputationMaxStepBps : ℚ := 1000

structure AdjustmentCall where
  reputation : JsNumber
  deposits : Option Nat
  allocatedToOthers : Nat

def adjustmentInput (row : AgentAllocationRow) (reputation : JsNumber) : NextAllocationInput where
  current := row.allocatedUsdc
  floor := row.gasReserveUsdc
  ceiling := row.ceilingUsdc
  reputation
  maxStepBps := .finite reputationMaxStepBps

/-- `applyReputationAdjustment` with no other call of the organization in between. The allocation is written by `setAllocation`. -/
def applyReputationAdjustment (row : AgentAllocationRow) (call : AdjustmentCall) : Except Failure AgentAllocationRow :=
  if row.status ≠ .active then .error (.thrown "agent_allocation_not_found")
  else
    match nextAllocation (adjustmentInput row call.reputation) with
    | none => .error (.thrown "The number NaN cannot be converted to a BigInt because it is not an integer")
    | some next =>
      match call.deposits with
      | none => .error (.thrown "circle_wallet_missing")
      | some deposits =>
        if call.allocatedToOthers + next.toNat > deposits then
          .error (conflict "allocation_exceeds_treasury_solvency"
            "Total agent allocations would exceed treasury deposits for this chain.")
        else
          let updated := { row with allocatedUsdc := next.toNat }
          if Fleet.allocationChecks updated then .ok updated else .error (.constraint "agent_allocations_check")

def adjusted (row : AgentAllocationRow) (call : AdjustmentCall) : AgentAllocationRow :=
  match applyReputationAdjustment row call with
  | .ok updated => updated
  | .error _ => row

def adjustments (row : AgentAllocationRow) : List AdjustmentCall → List (AgentAllocationRow × AgentAllocationRow)
  | [] => []
  | call :: calls => (row, adjusted row call) :: adjustments (adjusted row call) calls

/-- The next allocation is in its range, no further from the current one than the step, and on the way to the target. -/
structure Bounded (input : NextAllocationInput) (next : ℤ) : Prop where
  floor : input.floor ≤ next
  ceiling : next ≤ input.ceiling
  step : ∃ bps, input.maxStepBps = .finite bps ∧ (|next - input.current| : ℤ) ≤ input.current * bps / 10000
  toward : ∀ target ∈ input.target, min input.current target ≤ next ∧ next ≤ max input.current target

/-- The step reaches the range, and rounding gives it no more than the bound where the target is further. -/
def StepReaches (input : NextAllocationInput) : Prop :=
  input.reputation ≠ .nan ∧ ∃ bps, input.maxStepBps = .finite bps ∧
    ((input.floor - input.current : ℤ) : ℚ) ≤ input.current * bps / 10000 ∧
    ((input.current - input.ceiling : ℤ) : ℚ) ≤ input.current * bps / 10000 ∧
    ((∀ target ∈ input.target, ((|target - input.current| : ℤ) : ℚ) ≤ input.current * bps / 10000) ∨
      ∀ step ∈ input.step, (step : ℚ) ≤ input.current * bps / 10000)

theorem clamped_move {current floor ceiling target step : ℤ} (ordered : floor ≤ ceiling) (low : floor ≤ target)
    (high : target ≤ ceiling) (forward : 0 ≤ step) (bound : ℤ) {next : ℤ}
    (moved : clampBigint (current + clampBigint (target - current) (-step) step) floor ceiling = next) :
    (floor ≤ next ∧ next ≤ ceiling) ∧ (min current target ≤ next ∧ next ≤ max current target) ∧
      (|next - current| ≤ bound ↔
        floor - current ≤ bound ∧ current - ceiling ≤ bound ∧ (|target - current| ≤ bound ∨ step ≤ bound)) := by
  simp only [clampBigint] at moved
  simp only [abs_le]
  omega

variable {input : NextAllocationInput}

theorem reputationBps_some (given : input.reputation ≠ .nan) : ∃ bps, input.reputationBps = some bps ∧ 0 ≤ bps ∧ bps ≤ 10000 := by
  obtain ⟨percent, same, least, most⟩ : ∃ percent : ℤ,
      (input.reputation.round.atMost 100).atLeast 0 = .finite percent ∧ 0 ≤ percent ∧ percent ≤ 100 := by
    cases reputation : input.reputation with
    | finite value =>
      refine ⟨max 0 (min 100 (value + 1 / 2).floor), ?_, by omega, by omega⟩
      simp [JsNumber.round, JsNumber.atMost, JsNumber.atLeast]
    | infinity => exact ⟨100, by simp [JsNumber.round, JsNumber.atMost, JsNumber.atLeast], by decide, by decide⟩
    | negInfinity => exact ⟨0, by simp [JsNumber.round, JsNumber.atMost, JsNumber.atLeast], by decide, by decide⟩
    | nan => exact absurd reputation given
  refine ⟨percent * 100, ?_, by omega, by omega⟩
  simp [NextAllocationInput.reputationBps, same, JsNumber.toBigInt?_intCast]

theorem reputationBps_nan (missing : input.reputation = .nan) : input.reputationBps = none := by
  simp [NextAllocationInput.reputationBps, missing, JsNumber.round, JsNumber.atMost, JsNumber.atLeast, JsNumber.toBigInt?]

theorem target_some (ordered : input.floor ≤ input.ceiling) (given : input.reputation ≠ .nan) :
    ∃ target, input.target = some target ∧ input.floor ≤ target ∧ target ≤ input.ceiling := by
  obtain ⟨bps, same, least, most⟩ := reputationBps_some given
  have room : 0 ≤ (input.ceiling - input.floor) * bps := mul_nonneg (by omega) least
  have within : (input.ceiling - input.floor) * bps ≤ (input.ceiling - input.floor) * 10000 :=
    mul_le_mul_of_nonneg_left most (by omega)
  refine ⟨_, by rw [NextAllocationInput.target, same, Option.map_some], ?_⟩
  rw [Int.tdiv_eq_ediv_of_nonneg room]
  omega

theorem step_some {bps : ℚ} (currentNonneg : 0 ≤ input.current) (finite : input.maxStepBps = .finite bps) :
    ∃ step, input.step = some step ∧ 0 ≤ step := by
  have same : input.stepBps = some (max 0 (bps + 1 / 2).floor) := by
    have cast : (input.maxStepBps.round.atLeast 0) = .finite ((max 0 (bps + 1 / 2).floor : ℤ) : ℚ) := by
      simp [finite, JsNumber.round, JsNumber.atLeast]
    rw [NextAllocationInput.stepBps, cast, JsNumber.toBigInt?_intCast]
  refine ⟨_, by rw [NextAllocationInput.step, same, Option.map_some], ?_⟩
  have product : 0 ≤ input.current * max 0 (bps + 1 / 2).floor := mul_nonneg currentNonneg (by omega)
  rw [Int.tdiv_eq_ediv_of_nonneg product]
  omega

theorem nextAllocation_iff (currentNonneg : 0 ≤ input.current) (ordered : input.floor ≤ input.ceiling) :
    (∃ next, nextAllocation input = some next ∧ Bounded input next) ↔ StepReaches input := by
  by_cases given : input.reputation = .nan
  · constructor
    · rintro ⟨next, computed, -⟩
      simp [nextAllocation, NextAllocationInput.target, reputationBps_nan given] at computed
    · exact fun reaches => absurd given reaches.1
  obtain ⟨target, aimed, low, high⟩ := target_some ordered given
  rw [StepReaches, and_iff_right given]
  constructor
  · rintro ⟨next, computed, -, -, ⟨bps, finite, near⟩, -⟩
    obtain ⟨step, stepped, forward⟩ := step_some currentNonneg finite
    refine ⟨bps, finite, ?_⟩
    simp only [nextAllocation, aimed, stepped, Option.bind_eq_bind, Option.bind_some, Option.some.injEq] at computed
    have exact := (clamped_move ordered low high forward ⌊input.current * bps / 10000⌋ computed).2.2
    simp only [Int.le_floor] at exact
    obtain ⟨below, above, reach⟩ := exact.mp near
    exact ⟨below, above, reach.imp (fun close other same => by cases aimed.symm.trans same; exact close)
      fun small other same => by cases stepped.symm.trans same; exact small⟩
  · rintro ⟨bps, finite, below, above, reach⟩
    obtain ⟨step, stepped, forward⟩ := step_some currentNonneg finite
    obtain ⟨next, moved⟩ : ∃ next, clampBigint (input.current + clampBigint (target - input.current) (-step) step) input.floor
      input.ceiling = next := ⟨_, rfl⟩
    obtain ⟨⟨least, most⟩, toward, exact⟩ := clamped_move ordered low high forward ⌊input.current * bps / 10000⌋ moved
    simp only [Int.le_floor] at exact
    refine ⟨next, by simp [nextAllocation, aimed, stepped, moved], least, most, ⟨bps, finite, ?_⟩, fun other same => ?_⟩
    · exact exact.mpr ⟨below, above, reach.imp (fun close => close target aimed) fun small => small step stepped⟩
    · cases aimed.symm.trans same
      exact toward

/-- A call leaves the allocation between the gas reserve and the ceiling, and moves it by a tenth at most. -/
structure Steady (before after : AgentAllocationRow) : Prop where
  floor : after.gasReserveUsdc ≤ after.allocatedUsdc
  ceiling : after.allocatedUsdc ≤ after.ceilingUsdc
  step : ((|(after.allocatedUsdc : ℤ) - before.allocatedUsdc| : ℤ) : ℚ) ≤ before.allocatedUsdc * reputationMaxStepBps / 10000

theorem step_le {bps : ℤ} (currentNonneg : 0 ≤ input.current) (bpsNonneg : 0 ≤ bps) (finite : input.maxStepBps = .finite bps) :
    ∀ step ∈ input.step, (step : ℚ) ≤ input.current * bps / 10000 := by
  intro step stepped
  have rounded : ((bps : ℚ) + 1 / 2).floor = bps := by
    show ⌊(bps : ℚ) + 1 / 2⌋ = bps
    rw [Int.floor_eq_iff]
    constructor <;> linarith
  have cast : input.maxStepBps.round.atLeast 0 = .finite ((max 0 bps : ℤ) : ℚ) := by
    simp only [finite, JsNumber.round, JsNumber.atLeast, rounded]
    push_cast
    rfl
  rw [NextAllocationInput.step, NextAllocationInput.stepBps, cast, JsNumber.toBigInt?_intCast, Option.map_some, Option.mem_some_iff,
    max_eq_right bpsNonneg, Int.tdiv_eq_ediv_of_nonneg (mul_nonneg currentNonneg bpsNonneg)] at stepped
  have whole : step * 10000 ≤ input.current * bps := by omega
  rw [le_div_iff₀ (by norm_num)]
  exact_mod_cast whole

theorem applyReputationAdjustment_ok {row updated : AgentAllocationRow} {call : AdjustmentCall}
    (applied : applyReputationAdjustment row call = .ok updated) :
    ∃ next, nextAllocation (adjustmentInput row call.reputation) = some next ∧ updated = { row with allocatedUsdc := next.toNat } := by
  unfold applyReputationAdjustment at applied
  split at applied
  · cases applied
  split at applied
  · cases applied
  rename_i next computed
  split at applied
  · cases applied
  split at applied
  · cases applied
  dsimp only at applied
  split at applied
  · exact ⟨next, computed, (Except.ok.inj applied).symm⟩
  · cases applied

theorem adjusted_eq (row : AgentAllocationRow) (call : AdjustmentCall) : adjusted row call = row ∨
    ∃ next, nextAllocation (adjustmentInput row call.reputation) = some next ∧
      adjusted row call = { row with allocatedUsdc := next.toNat } := by
  unfold adjusted
  split
  · rename_i updated applied
    exact .inr (applyReputationAdjustment_ok applied)
  · exact .inl rfl

theorem adjustment_reaches {row : AgentAllocationRow} (floor : row.gasReserveUsdc ≤ row.allocatedUsdc)
    (ceiling : row.allocatedUsdc ≤ row.ceilingUsdc) {reputation : JsNumber} (given : reputation ≠ .nan) :
    StepReaches (adjustmentInput row reputation) := by
  have room : (0 : ℚ) ≤ ((row.allocatedUsdc : ℤ) : ℚ) * reputationMaxStepBps / 10000 := by
    simp only [reputationMaxStepBps]
    positivity
  have below : (row.gasReserveUsdc : ℤ) - row.allocatedUsdc ≤ 0 := by omega
  have above : (row.allocatedUsdc : ℤ) - row.ceilingUsdc ≤ 0 := by omega
  have whole := @step_le (adjustmentInput row reputation) 1000 (Int.natCast_nonneg _) (by decide)
    (by simp [adjustmentInput, reputationMaxStepBps])
  refine ⟨given, reputationMaxStepBps, rfl, le_trans (Int.cast_nonpos.mpr below) room, le_trans (Int.cast_nonpos.mpr above) room, .inr ?_⟩
  simpa [reputationMaxStepBps] using whole

theorem adjusted_steady {row : AgentAllocationRow} (floor : row.gasReserveUsdc ≤ row.allocatedUsdc)
    (ceiling : row.allocatedUsdc ≤ row.ceilingUsdc) (call : AdjustmentCall) : Steady row (adjusted row call) := by
  rcases adjusted_eq row call with same | ⟨next, computed, same⟩
  · rw [same]
    refine ⟨floor, ceiling, ?_⟩
    simp only [sub_self, abs_zero, Int.cast_zero, reputationMaxStepBps]
    positivity
  · have given : call.reputation ≠ .nan := by
      intro missing
      simp [nextAllocation, NextAllocationInput.target, @reputationBps_nan (adjustmentInput row call.reputation) missing]
        at computed
    obtain ⟨next', computed', bounded⟩ := (nextAllocation_iff (Int.natCast_nonneg _) (Int.ofNat_le.mpr (floor.trans ceiling))).mpr
      (adjustment_reaches floor ceiling given)
    obtain rfl := Option.some.inj (computed.symm.trans computed')
    have least : (row.gasReserveUsdc : ℤ) ≤ next := bounded.floor
    have most : next ≤ row.ceilingUsdc := bounded.ceiling
    obtain ⟨bps, stepOf, near⟩ := bounded.step
    obtain rfl : reputationMaxStepBps = bps := JsNumber.finite.inj stepOf
    have natural : (next.toNat : ℤ) = next := Int.toNat_of_nonneg (by omega)
    rw [same]
    refine ⟨show row.gasReserveUsdc ≤ next.toNat by omega, show next.toNat ≤ row.ceilingUsdc by omega, ?_⟩
    show ((|(next.toNat : ℤ) - row.allocatedUsdc| : ℤ) : ℚ) ≤ _
    rw [natural]
    exact near

theorem adjustments_steady {row : AgentAllocationRow} (floor : row.gasReserveUsdc ≤ row.allocatedUsdc)
    (ceiling : row.allocatedUsdc ≤ row.ceilingUsdc) (calls : List AdjustmentCall) :
    ∀ pair ∈ adjustments row calls, Steady pair.1 pair.2 := by
  induction calls generalizing row with
  | nil => simp [adjustments]
  | cons call calls ih =>
    have steady := adjusted_steady floor ceiling call
    rw [adjustments, List.forall_mem_cons]
    exact ⟨steady, ih steady.floor steady.ceiling⟩

/-- A single adjustment keeps to its bounds exactly where the step reaches them, and a sequence of them does where the allocation
starts within them. -/
theorem reputation_bounds (currentNonneg : 0 ≤ input.current) (ordered : input.floor ≤ input.ceiling) {row : AgentAllocationRow}
    (checked : Fleet.allocationChecks row = true) :
    ((∃ next, nextAllocation input = some next ∧ Bounded input next) ↔ StepReaches input) ∧
      ((∀ calls, ∀ pair ∈ adjustments row calls, Steady pair.1 pair.2) ↔ row.gasReserveUsdc ≤ row.allocatedUsdc) := by
  simp only [Fleet.allocationChecks, Bool.and_eq_true, decide_eq_true_eq] at checked
  refine ⟨nextAllocation_iff currentNonneg ordered, fun steady => ?_, fun floor calls => adjustments_steady floor checked.1.1.1 calls⟩
  -- A call that cannot read the deposits leaves the row as it is.
  have unread : adjusted row ⟨.nan, none, 0⟩ = row := by
    rcases adjusted_eq row ⟨.nan, none, 0⟩ with same | ⟨next, computed, -⟩
    · exact same
    · simp [nextAllocation, NextAllocationInput.target, @reputationBps_nan (adjustmentInput row .nan) rfl] at computed
  have kept := (steady [⟨.nan, none, 0⟩] _ List.mem_cons_self).floor
  rwa [unread] at kept

def stranded : NextAllocationInput := ⟨1000000, 2000000, 20000000, .finite 50, .finite 1000⟩

example : nextAllocation stranded = some 2000000 := by decide +kernel

/-- The allocation doubles in one adjustment. -/
theorem nextAllocation_jumps : ¬((∀ input : NextAllocationInput, 0 ≤ input.current → 0 ≤ input.floor → input.floor ≤ input.ceiling →
      ∃ next, nextAllocation input = some next ∧ Bounded input next) ∧
    ∀ row, Fleet.allocationChecks row = true → ∀ calls, ∀ pair ∈ adjustments row calls, Steady pair.1 pair.2) := by
  rintro ⟨claimed, -⟩
  have reaches := (nextAllocation_iff (by decide) (by decide)).mp (claimed stranded (by decide) (by decide) (by decide))
  obtain ⟨-, bps, finite, below, -⟩ := reaches
  obtain rfl : 1000 = bps := JsNumber.finite.inj finite
  norm_num [stranded] at below

def tenDollars : AgentAllocationRow := ⟨1, 1, 1, 10000000, 1000000, 0, 50000000, .active, "usr_1"⟩

theorem reputation_bounds_tenDollars :
    ((∃ next, nextAllocation (adjustmentInput tenDollars (.finite 100)) = some next ∧
        Bounded (adjustmentInput tenDollars (.finite 100)) next) ↔ StepReaches (adjustmentInput tenDollars (.finite 100))) ∧
      ((∀ calls, ∀ pair ∈ adjustments tenDollars calls, Steady pair.1 pair.2) ↔ 1000000 ≤ 10000000) :=
  reputation_bounds (by decide) (by decide) (by decide)

end AgentOps.Treasury
