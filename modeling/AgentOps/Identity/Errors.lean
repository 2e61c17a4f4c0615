namespace AgentOps.Identity

structure IdentityError where
  code : String
  statusCode : Nat
  message : String
  deriving DecidableEq

def notFound (message : String) : IdentityError := ⟨"not_found", 404, message⟩

def conflict (code message : String) : IdentityError := ⟨code, 409, message⟩

def forbidden (message : String) : IdentityError := ⟨"forbidden", 403, message⟩

def badRequest (code message : String) : IdentityError := ⟨code, 400, message⟩

inductive Failure where
  | identity (error : IdentityError)
  /-- A plain `Error` -/
  | thrown (message : String)
  | constraint (name : String)
  deriving DecidableEq

instance : Coe IdentityError Failure := ⟨.identity⟩

theorem bind_eq_ok {ε α β : Type} {x : Except ε α} {f : α → Except ε β} {result : β} :
    (x >>= f) = .ok result ↔ ∃ a, x = .ok a ∧ f a = .ok result := by
  cases x with
  | error failure => simp [bind, Except.bind]
  | ok a => simp [bind, Except.bind]

theorem toOption_eq_some {α : Type} {x : Except Failure α} {a : α} : x.toOption = some a ↔ x = .ok a := by
  cases x <;> simp [Except.toOption]

end AgentOps.Identity
