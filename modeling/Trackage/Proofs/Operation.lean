import Trackage.Operation

/-!
What operations lead to. Of an operation it is told what holds of its answer and of its fault, each
together with the state that is left, along the steps in the order in which they are taken. An
operation that makes all its checks before it changes anything leaves the state as it was where it
fails.
-/

namespace Trackage.Operation

variable {σ τ ε ε' α β : Type} {operation first : Operation σ ε α} {state next : σ} {value : α}
variable {answered : α → σ → Prop} {failed : ε → σ → Prop}

/-- An operation leads to an answer or to a fault of which, with the state that is left, something
holds. -/
def Leads (operation : Operation σ ε α) (state : σ) (answered : α → σ → Prop)
    (failed : ε → σ → Prop) : Prop :=
  match operation state with
  | .ok value next => answered value next
  | .error error next => failed error next

@[simp] theorem check_ok : (check (.ok value) : Operation σ ε α) = pure value := rfl

@[simp] theorem check_error {error : ε} :
    (check (.error error) : Operation σ ε α) = throw error := rfl

@[simp] theorem leads_pure :
    Leads (pure value : Operation σ ε α) state answered failed ↔ answered value state := Iff.rfl

@[simp] theorem leads_throw {error : ε} :
    Leads (throw error : Operation σ ε α) state answered failed ↔ failed error state := Iff.rfl

@[simp] theorem leads_get {answered : σ → σ → Prop} :
    Leads (get : Operation σ ε σ) state answered failed ↔ answered state state := Iff.rfl

@[simp] theorem leads_set {answered : PUnit → σ → Prop} :
    Leads (set next : Operation σ ε PUnit) state answered failed ↔ answered ⟨⟩ next := Iff.rfl

@[simp] theorem leads_modify {change : σ → σ} {answered : PUnit → σ → Prop} :
    Leads (modify change : Operation σ ε PUnit) state answered failed ↔
      answered ⟨⟩ (change state) := Iff.rfl

@[simp] theorem leads_bind {following : α → Operation σ ε β} {answered : β → σ → Prop} :
    Leads (first >>= following) state answered failed ↔
      first.Leads state (fun value next => (following value).Leads next answered failed) failed := by
  simp only [Leads, bind, EStateM.bind]
  cases first state <;> rfl

@[simp] theorem leads_map {f : α → β} {answered : β → σ → Prop} :
    Leads (f <$> operation) state answered failed ↔
      operation.Leads state (fun value => answered (f value)) failed := by
  simp only [Leads, Functor.map, EStateM.map]
  cases operation state <;> rfl

@[simp] theorem leads_check {result : Except ε α} :
    Leads (check result : Operation σ ε α) state answered failed ↔
      (∀ value, result = .ok value → answered value state) ∧
        ∀ error, result = .error error → failed error state := by
  cases result <;> simp [check]

@[simp] theorem leads_adaptExcept {wrap : ε → ε'} {failed : ε' → σ → Prop} :
    Leads (EStateM.adaptExcept wrap operation) state answered failed ↔
      operation.Leads state answered fun error => failed (wrap error) := by
  simp only [Leads, EStateM.adaptExcept]
  cases operation state <;> rfl

@[simp] theorem leads_on {operation : Operation τ ε α} {part : τ} {putBack : τ → σ → σ} :
    Leads (operation.on part putBack) state answered failed ↔
      operation.Leads part (fun value part => answered value (putBack part state))
        fun error part => failed error (putBack part state) := by
  simp only [Leads, on]
  cases operation part <;> rfl

theorem Leads.imp {answered' : α → σ → Prop} {failed' : ε → σ → Prop}
    (leads : operation.Leads state answered failed)
    (of_answered : ∀ value next, answered value next → answered' value next)
    (of_failed : ∀ error next, failed error next → failed' error next) :
    operation.Leads state answered' failed' := by
  unfold Leads at leads ⊢
  split at leads
  next => exact of_answered _ _ leads
  next => exact of_failed _ _ leads

theorem Leads.of_outcome (leads : operation.Leads state answered failed)
    (came : operation.outcome state = .ok (next, value)) : answered value next := by
  unfold Leads at leads
  unfold outcome at came
  split at came <;> cases came
  simpa only [*] using leads

/-- Whether or not the operation fails, something holds of the state that is left. -/
def Leaves (operation : Operation σ ε α) (state : σ) (kept : σ → Prop) : Prop :=
  operation.Leads state (fun _ next => kept next) fun _ next => kept next

theorem Leaves.left {kept : σ → Prop} (leaves : operation.Leaves state kept) :
    kept (operation.left state) := by
  unfold Leaves Leads at leaves
  unfold Operation.left
  split at leaves <;> simp only [*]

theorem outcome_eq_iff {result : Except ε (σ × α)} : operation.outcome state = result ↔
    operation.Leads state (fun value next => .ok (next, value) = result)
      fun error _ => .error error = result := by
  unfold outcome Leads
  cases operation state <;> rfl

theorem left_of_outcome (came : operation.outcome state = .ok (next, value)) :
    operation.left state = next := by
  unfold outcome at came
  unfold left
  split at came <;> cases came
  simp only [*]

/-- An operation that leaves the state as it was where it fails. -/
def Atomic (operation : Operation σ ε α) : Prop :=
  ∀ state, operation.Leads state (fun _ _ => True) fun _ next => next = state

/-- An operation that fails atomically leaves the state, and one that answers leaves what it comes
to. -/
theorem Atomic.left_eq (atomic : operation.Atomic) (state : σ) :
    operation.left state = ((operation.outcome state).map Prod.fst).toOption.getD state := by
  -- Where the operation fails, the default is the state that it has left.
  have untouched := atomic state
  unfold Leads at untouched
  unfold left outcome
  split at untouched <;> simp_all [Except.map, Except.toOption]

end Trackage.Operation
