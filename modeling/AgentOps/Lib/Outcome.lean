namespace AgentOps.Lib

/-- How a transaction ends for its call. One that is `lost` has committed, without an answer. -/
inductive Outcome (ε : Type) where
  | done
  | failed (error : ε)
  | lost (error : ε)
  deriving DecidableEq

namespace Outcome

variable {ε σ : Type}

def commits : Outcome ε → Bool
  | .done | .lost _ => true
  | .failed _ => false

def error? : Outcome ε → Option ε
  | .done => none
  | .failed error | .lost error => some error

def transact (outcome : Outcome ε) (s : σ) (written : Except ε σ) : σ × Option ε :=
  match written with
  | .error error => (s, some error)
  | .ok s' => (if outcome.commits then s' else s, outcome.error?)

end Outcome

end AgentOps.Lib
