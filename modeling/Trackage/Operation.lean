/-!
Operations on a state. An operation answers or fails, and either way the state that it leaves stands
beside what it comes to: what was changed before a failure stays changed.
-/

namespace Trackage

/-- Operations on a state; they answer or fail. -/
abbrev Operation (σ ε α : Type) := EStateM ε σ α

namespace Operation

variable {σ τ ε α : Type}

/-- Goes on with the result of a check, which changes nothing. -/
def check (result : Except ε α) : Operation σ ε α :=
  match result with
  | .ok value => pure value
  | .error error => throw error

/-- Carries out an operation on a part of a state. What it makes of the part is put back, also where
it fails. -/
def on (part : τ) (putBack : τ → σ → σ) (operation : Operation τ ε α) : Operation σ ε α := fun state =>
  match operation part with
  | .ok value part => .ok value (putBack part state)
  | .error error part => .error error (putBack part state)

/-- What an operation comes to. The state is only told where the operation does not fail. -/
def outcome (operation : Operation σ ε α) (state : σ) : Except ε (σ × α) :=
  match operation state with
  | .ok value next => .ok (next, value)
  | .error error _ => .error error

/-- The state that an operation leaves, also where it fails. -/
def left (operation : Operation σ ε α) (state : σ) : σ :=
  match operation state with
  | .ok _ next | .error _ next => next

end Operation

end Trackage
