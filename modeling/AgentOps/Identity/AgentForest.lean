import AgentOps.Identity.AgentReferences
import AgentOps.Lib.Forest

namespace AgentOps.Identity
open Lib

variable {db db' : AgentDb} {call : AgentCall} {orgId : OrgId} {agentId p : AgentId} {row base : AgentRow}
  {path : List AgentId} {answer : Bool}

/-! # The forest of agents under their parents -/

def AgentDb.parentOf (db : AgentDb) (agentId : AgentId) : Option AgentId :=
  (db.agents.find? agentId).bind AgentRow.parent_agent_id

/-- From each agent the references lead to a root, over agents of its org and over none twice; and each walk ends. -/
structure Climbs (db : AgentDb) : Prop where
  roots : ∀ agent ∈ db.agents, ∃ path, Ascent db.parentOf agent.id path ∧ path.Nodup ∧
    ∀ id ∈ path, ∃ row, db.agent? agent.org_id id = some row
  walks : ∀ orgId agentId parentAgentId, ∃ fuel answer, wouldCreateParentCycle db orgId agentId fuel parentAgentId = some answer

theorem parentOf_of_agent? (found : db.agent? orgId agentId = some row) : db.parentOf agentId = row.parent_agent_id := by
  rw [AgentDb.parentOf, (agent?_eq_some.mp found).1, Option.bind_some]

theorem References.parent (refs : References db) (found : db.agent? orgId agentId = some row)
    (up : db.parentOf agentId = some p) : ∃ row, db.agent? orgId p = some row := by
  obtain ⟨located, rfl⟩ := agent?_eq_some.mp found
  rw [parentOf_of_agent? found] at up
  exact (refs row (Table.mem_of_find? located)).parent p up

theorem References.inOrg (refs : References db) (ascent : Ascent db.parentOf agentId path)
    (found : ∃ row, db.agent? orgId agentId = some row) : ∀ id ∈ path, ∃ row, db.agent? orgId id = some row := by
  induction ascent with
  | root =>
    intro id member
    obtain rfl := List.mem_singleton.mp member
    exact found
  | child up _ ih =>
    obtain ⟨row, located⟩ := found
    intro id member
    rcases List.mem_cons.mp member with rfl | member
    · exact ⟨row, located⟩
    · exact ih (refs.parent located up) id member

theorem walk_none (fuel : Nat) : wouldCreateParentCycle db orgId agentId fuel none = some false := by
  cases fuel <;> rfl

theorem walk_succ (found : db.agent? orgId p = some row) (fuel : Nat) :
    wouldCreateParentCycle db orgId agentId (fuel + 1) (some p) =
      if p = agentId then some true else wouldCreateParentCycle db orgId agentId fuel (db.parentOf p) := by
  have same : row.id = p := Table.key_of_find? (agent?_eq_some.mp found).1
  rw [wouldCreateParentCycle, found, parentOf_of_agent? found]
  simp only [same]

theorem walk_answer (refs : References db) (ascent : Ascent db.parentOf p path)
    (found : ∃ row, db.agent? orgId p = some row) {fuel : Nat}
    (ended : wouldCreateParentCycle db orgId agentId fuel (some p) = some answer) : answer = decide (agentId ∈ path) := by
  induction ascent generalizing fuel with
  | @root p top =>
    obtain ⟨row, located⟩ := found
    cases fuel with
    | zero => cases ended
    | succ fuel =>
      rw [walk_succ located, top, walk_none] at ended
      split at ended <;> obtain rfl := Option.some.inj ended
      · simp_all
      · simp [Ne.symm ‹_›]
  | @child p above path up rest ih =>
    obtain ⟨row, located⟩ := found
    cases fuel with
    | zero => cases ended
    | succ fuel =>
      rw [walk_succ located, up] at ended
      split at ended
      · obtain rfl := Option.some.inj ended
        simp_all
      · rename_i other
        rw [ih (refs.parent located up) ended]
        simp [Ne.symm other]

theorem walk_ends (refs : References db) (ascent : Ascent db.parentOf p path)
    (found : ∃ row, db.agent? orgId p = some row) :
    ∃ answer, wouldCreateParentCycle db orgId agentId path.length (some p) = some answer := by
  induction ascent with
  | @root p top =>
    obtain ⟨row, located⟩ := found
    rw [List.length_singleton, walk_succ located, top, walk_none]
    split <;> exact ⟨_, rfl⟩
  | @child p above path up rest ih =>
    obtain ⟨row, located⟩ := found
    rw [List.length_cons, walk_succ located, up]
    split
    · exact ⟨_, rfl⟩
    · exact ih (refs.parent located up)

theorem climbs_iff (refs : References db) : Climbs db ↔ Forest db.parentOf := by
  constructor
  · intro climbs agentId
    cases located : db.agents.find? agentId with
    | none => exact ⟨_, .root (by simp [AgentDb.parentOf, located])⟩
    | some agent =>
      obtain ⟨path, ascent, -⟩ := climbs.roots agent (Table.mem_of_find? located)
      exact ⟨path, Table.key_of_find? located ▸ ascent⟩
  · intro forest
    refine ⟨fun agent member => ?_, fun orgId agentId parentAgentId => ?_⟩
    · obtain ⟨path, ascent⟩ := forest agent.id
      exact ⟨path, ascent, ascent.nodup, refs.inOrg ascent ⟨agent, agent?_eq_some.mpr ⟨Table.find?_of_mem member, rfl⟩⟩⟩
    · cases parentAgentId with
      | none => exact ⟨0, false, rfl⟩
      | some p =>
        cases located : db.agent? orgId p with
        | none => exact ⟨1, false, by simp [wouldCreateParentCycle, located]⟩
        | some row =>
          obtain ⟨path, ascent⟩ := forest p
          exact ⟨path.length, walk_ends refs ascent ⟨row, located⟩⟩

theorem walk_circles {q : AgentId} {row' : AgentRow} (found : db.agent? orgId p = some row) (up : row.parent_agent_id = some q)
    (found' : db.agent? orgId q = some row') (back : row'.parent_agent_id = some p) (outside : p ≠ agentId ∧ q ≠ agentId)
    (fuel : Nat) : wouldCreateParentCycle db orgId agentId fuel (some p) = none ∧
      wouldCreateParentCycle db orgId agentId fuel (some q) = none := by
  induction fuel with
  | zero => exact ⟨rfl, rfl⟩
  | succ fuel ih =>
    constructor
    · rw [walk_succ found, if_neg outside.1, parentOf_of_agent? found, up, ih.2]
    · rw [walk_succ found', if_neg outside.2, parentOf_of_agent? found', back, ih.1]

/-- The walk of an update, made again when it commits, does not meet the agent. -/
def Unlooped (db : AgentDb) (call : AgentCall) : Prop :=
  match call.stage with
  | .updated row => ∃ fuel, wouldCreateParentCycle db row.org_id row.id fuel row.parent_agent_id = some false
  | _ => True

theorem parentOf_put (found : db.agents.find? row.id = some base) :
    AgentDb.parentOf { db with agents := db.agents.put row } = Function.update db.parentOf row.id row.parent_agent_id := by
  funext id
  rw [AgentDb.parentOf]
  by_cases same : row.id = id
  · subst same
    rw [Table.find?_put_self found, Option.bind_some, Function.update_self]
  · rw [Table.find?_put_ne same, Function.update_of_ne (Ne.symm same), AgentDb.parentOf]

theorem parentOf_insert {agents : Table AgentRow.id} (inserted : db.agents.insert? row = some agents) :
    AgentDb.parentOf { db with agents } = Function.update db.parentOf row.id row.parent_agent_id := by
  funext id
  rw [AgentDb.parentOf]
  by_cases same : row.id = id
  · subst same
    rw [Table.find?_insert?_self inserted, Option.bind_some, Function.update_self]
  · rw [Table.find?_insert?_ne inserted same, Function.update_of_ne (Ne.symm same), AgentDb.parentOf]

theorem forest_moved_iff (refs : References db) (forest : Forest db.parentOf)
    (refers : Refers db row.org_id row.team_id row.parent_agent_id) :
    Forest (Function.update db.parentOf row.id row.parent_agent_id) ↔
      ∃ fuel, wouldCreateParentCycle db row.org_id row.id fuel row.parent_agent_id = some false := by
  cases up : row.parent_agent_id with
  | none => exact iff_of_true forest.detach ⟨0, rfl⟩
  | some p =>
    obtain ⟨path, ascent⟩ := forest p
    have found := refers.parent p up
    rw [forest.update_iff ascent]
    constructor
    · intro away
      obtain ⟨answer, ended⟩ : ∃ answer, wouldCreateParentCycle db row.org_id row.id path.length (some p) = some answer :=
        walk_ends refs ascent found
      refine ⟨_, ended.trans ?_⟩
      rw [walk_answer refs ascent found ended, decide_eq_false away]
    · rintro ⟨fuel, ended⟩
      exact of_decide_eq_false (walk_answer refs ascent found ended).symm

theorem forest_created (refs : References db) (forest : Forest db.parentOf)
    (refers : Refers db row.org_id row.team_id row.parent_agent_id) (fresh : db.agents.find? row.id = none) :
    Forest (Function.update db.parentOf row.id row.parent_agent_id) := by
  cases up : row.parent_agent_id with
  | none => exact forest.detach
  | some p =>
    obtain ⟨path, ascent⟩ := forest p
    refine (forest.update_iff ascent).mpr fun member => ?_
    obtain ⟨_, located⟩ := refs.inOrg ascent (refers.parent p up) row.id member
    exact nomatch fresh.symm.trans (agent?_eq_some.mp located).1

theorem AgentCommitted.forest_iff (committed : AgentCommitted db call db') (refs : References db)
    (knows : AgentKnows db call) (forest : Forest db.parentOf) : Forest db'.parentOf ↔ Unlooped db call := by
  unfold AgentKnows at knows
  unfold Unlooped
  cases committed with
  | @archived team stands =>
    simp only [stands, iff_true]
    exact forest
  | @created row agents stands inserted =>
    simp only [stands, iff_true] at knows ⊢
    rw [parentOf_insert inserted]
    exact forest_created refs forest knows.2 (Table.insert?_eq_some inserted).2
  | @updated row stands =>
    simp only [stands] at knows ⊢
    obtain ⟨refers, base, found, -⟩ := knows
    rw [parentOf_put found]
    exact forest_moved_iff refs forest refers
  | @statusSet row stands =>
    simp only [stands, iff_true] at knows ⊢
    obtain ⟨base, found, same⟩ := knows
    have unmoved : row.parent_agent_id = db.parentOf row.id := by rw [AgentDb.parentOf, found, Option.bind_some, same]
    rw [parentOf_put found, unmoved, Function.update_eq_self]
    exact forest

theorem AgentCommitted.climbs_iff {call' : AgentCall} (committed : agentTransactions.commit db call = some (db', call'))
    (refs : References db) (knows : AgentKnows db call) (climbs : Climbs db) : Climbs db' ↔ Unlooped db call := by
  have refs' := (agent_keeps.committed refs knows trivial committed).1
  rw [Identity.climbs_iff refs']
  exact (agentCommit_cases committed).1.forest_iff refs knows ((Identity.climbs_iff refs).mp climbs)

variable {s₀ s : Sessions AgentDb AgentCall}
  {events : List (Sessions AgentDb AgentCall × TransactionLabel AgentCall AgentChance)}

/-- Every state climbs exactly where no update commits above an agent that its parent has come under since its walk. -/
theorem climbs_throughout_iff (run : Run agentTransactions.step s₀ events s) (idle : s₀.sessions = .empty)
    (refs : References s₀.db) (climbs : Climbs s₀.db) :
    (∀ state ∈ states events s, Climbs state.db) ↔ Conforms (agentTransactions.CommitsMeet Unlooped) events :=
  agent_keeps.throughout_iff run idle refs Climbs climbs fun _ _ _ _ refs knows climbs committed =>
    AgentCommitted.climbs_iff committed refs knows climbs

section Example

def anAgent (id : AgentId) : AgentRow := ⟨id, 1, 1, none, "agent", .active, "", [], none, [], 1⟩

def fleet : Sessions AgentDb AgentCall where
  db := {
    orgs := ⟨[⟨1, some 1⟩], by decide⟩
    teams := ⟨[⟨1, 1, "Default", "", true, none⟩], by decide⟩
    agents := ⟨[anAgent 1, anAgent 2, anAgent 3], by decide⟩ }
  sessions := .empty

theorem mem_fleet (member : row ∈ fleet.db.agents) : ∃ id, row = anAgent id := by
  have agents : fleet.db.agents.rows = [anAgent 1, anAgent 2, anAgent 3] := rfl
  rw [Table.mem_def, agents] at member
  simp only [List.mem_cons, List.not_mem_nil, or_false] at member
  rcases member with rfl | rfl | rfl <;> exact ⟨_, rfl⟩

theorem fleet_references : References fleet.db := by
  intro row member
  obtain ⟨id, rfl⟩ := mem_fleet member
  exact ⟨⟨_, rfl⟩, fun _ above => nomatch above⟩

theorem fleet_climbs : Climbs fleet.db := by
  refine (climbs_iff fleet_references).mpr fun id => ⟨[id], .root ?_⟩
  rw [AgentDb.parentOf, Option.bind_eq_none_iff]
  intro row located
  obtain ⟨_, rfl⟩ := mem_fleet (Table.mem_of_find? located)
  rfl

def moves (id : Nat) (agentId parentAgentId : AgentId) : TransactionLabel AgentCall AgentChance :=
  .opened id ⟨1, 1, .updateAgent agentId ⟨none, none, some (some parentAgentId), none, none, none, none⟩, .started⟩

def proceeds (id : Nat) : List (TransactionLabel AgentCall AgentChance) := List.replicate 5 (.statement id ⟨0, 0, 3⟩)

def crossing : List (TransactionLabel AgentCall AgentChance) :=
  [moves 1 1 2, moves 2 2 1] ++ proceeds 1 ++ proceeds 2 ++ [.commit 1, .commit 2]

theorem parents_cross : ∃ events s, Run agentTransactions.step fleet events s ∧ ¬Climbs s.db ∧
    s.db.parentOf 1 = some 2 ∧ s.db.parentOf 2 = some 1 ∧
    ∀ fuel, wouldCreateParentCycle s.db 1 3 fuel (some 1) = none := by
  obtain ⟨events, s, run, first, second⟩ : ∃ events s, Run agentTransactions.step fleet events s ∧
      (s.db.agent? 1 1).bind AgentRow.parent_agent_id = some 2 ∧ (s.db.agent? 1 2).bind AgentRow.parent_agent_id = some 1 :=
    exists_run crossing (fun s : Sessions AgentDb AgentCall => (s.db.agent? 1 1).bind AgentRow.parent_agent_id = some 2 ∧
      (s.db.agent? 1 2).bind AgentRow.parent_agent_id = some 1) rfl
  obtain ⟨row, found, up⟩ := Option.bind_eq_some_iff.mp first
  obtain ⟨row', found', back⟩ := Option.bind_eq_some_iff.mp second
  have circles (fuel : Nat) : wouldCreateParentCycle s.db 1 3 fuel (some 1) = none :=
    (walk_circles found up found' back (by decide) fuel).1
  refine ⟨events, s, run, fun climbs => ?_, (parentOf_of_agent? found).trans up, (parentOf_of_agent? found').trans back, circles⟩
  obtain ⟨fuel, answer, ended⟩ := climbs.walks 1 3 (some 1)
  exact nomatch (circles fuel).symm.trans ended

def unloopedCheck (db : AgentDb) (call : AgentCall) : Bool :=
  match call.stage with
  | .updated row => wouldCreateParentCycle db row.org_id row.id 3 row.parent_agent_id = some false
  | _ => true

theorem unlooped_of_check (db : AgentDb) (call : AgentCall) (passes : unloopedCheck db call = true) : Unlooped db call := by
  unfold unloopedCheck at passes
  unfold Unlooped
  split at passes
  · exact ⟨3, of_decide_eq_true passes⟩
  · trivial

/-- One after the other, the second move is refused. -/
theorem parents_climb_in_turn : ∃ events s, Run agentTransactions.step fleet events s ∧ s.db.parentOf 1 = some 2 ∧
    s.db.parentOf 2 = none ∧ ∀ state ∈ states events s, Climbs state.db := by
  obtain ⟨events, s, run, walked, reached⟩ : ∃ events s, Run agentTransactions.step fleet events s ∧
      Conforms (agentTransactions.CommitsMeet Unlooped) events ∧ s.db.parentOf 1 = some 2 ∧ s.db.parentOf 2 = none :=
    exists_conforming_run (moves 1 1 2 :: (proceeds 1 ++ [.commit 1, moves 2 2 1] ++ (proceeds 2).take 4))
      (fun s label => (agentTransactions.committing s label).all fun c => unloopedCheck s.db c.1)
      (fun s : Sessions AgentDb AgentCall => s.db.parentOf 1 = some 2 ∧ s.db.parentOf 2 = none)
      (fun _ _ => Transactions.commitsMeet_of_check unlooped_of_check) rfl
  refine ⟨events, s, run, reached.1, reached.2, ?_⟩
  exact (climbs_throughout_iff run rfl fleet_references fleet_climbs).mpr walked

end Example

end AgentOps.Identity
