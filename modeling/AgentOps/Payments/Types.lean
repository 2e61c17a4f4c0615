import AgentOps.Identity.Errors
import AgentOps.Identity.Ids

namespace AgentOps.Payments
open Identity

abbrev SourceId := Nat
abbrev AttemptId := Nat
abbrev ReservationId := Nat
abbrev EventId := Nat
abbrev EscrowJobId := Nat
abbrev DelegationId := Nat
abbrev DrawdownId := Nat
/-- A chain tells accounts apart by number. -/
abbrev Account := Nat

/-- An address as it is written: the account, and which of its letters are capitals -/
structure Address where
  account : Account
  casing : Nat
  deriving DecidableEq

/-! Amounts are natural numbers of millionths of a dollar, the unit of a `numeric(20, 6)` column. -/

inductive PaymentMode where
  | test
  | live
  deriving DecidableEq

inductive PaymentChain where
  | base
  | arbitrum
  | polygon
  | optimism
  | avalanche
  | arc
  deriving DecidableEq

inductive SettlementKind where
  | directExact
  | gateway
  deriving DecidableEq

/-- `gateway_<chain>` or `exact_<chain>` -/
structure PaymentRail where
  kind : SettlementKind
  chain : PaymentChain
  deriving DecidableEq

inductive PaymentProvider where
  | circleGateway
  | circleWallets
  | manual
  | simulation
  deriving DecidableEq

inductive PaymentAccessStatus where
  | active
  | disabled
  deriving DecidableEq

abbrev AccountId := OrgId × AgentId

def accountOf (auth : ConnectionAuthResult) : AccountId := (auth.org_id, auth.agent_id)

end AgentOps.Payments
