import AgentOps.Payments.Quote

namespace AgentOps.Payments
open Lib Identity

/-! # Offers that abort the selection of a quote -/

variable {accept entry : RuntimeX402Accept} {mode : PaymentMode} {accepts before after : List RuntimeX402Accept}
  {allowedRails : List PaymentRail}

end AgentOps.Payments
