namespace AgentOps.Identity

/-! Identifiers are opaque texts in the database; numbers stand for them here. -/

abbrev OrgId := Nat
abbrev AgentId := Nat
abbrev ActorId := Nat
abbrev ConnectionId := ActorId
abbrev ApprovalId := Nat
abbrev DecisionId := Nat
abbrev Hash := String
abbrev Time := Nat

/-- `interval '15 minutes'` -/
def fifteenMinutes : Time := 15 * 60 * 1000000

structure ConnectionAuthResult where
  org_id : OrgId
  agent_id : AgentId
  connection_id : ConnectionId
  deriving DecidableEq

end AgentOps.Identity
