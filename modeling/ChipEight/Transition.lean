/-
Requests that change a state.

A request of type `EStateM ε σ α` reads and writes a state on its way, and it may be refused at
any point.  A refusal undoes nothing: what was written before it stays written.  So whether a
request that is refused leaves a trace is a property of the request, and has to be proved.
-/

namespace EStateM.Result

variable {ε σ α : Type}

/-- What a request was answered with. -/
def answer : Result ε σ α → Except ε α
  | ok a _ => .ok a
  | error e _ => .error e

/-- The state that a request leaves behind, whether it was refused or not. -/
def state : Result ε σ α → σ
  | ok _ s => s
  | error _ s => s

end EStateM.Result

namespace ChipEight

variable {ε ε' σ τ α β : Type}

/-! ### One request after another -/

/-- A request that looks at the state first goes on from the state it has seen. -/
theorem get_bind (next : σ → EStateM ε σ α) (s : σ) : (get >>= next) s = next s s := rfl

/-- A request that was accepted is followed by the next one, on the state that it has left. -/
theorem bind_of_ok {request : EStateM ε σ α} {s s' : σ} {a : α} (h : request s = .ok a s')
    (next : α → EStateM ε σ β) : (request >>= next) s = next a s' := by
  show EStateM.bind request next s = next a s'
  rw [EStateM.bind, h]

/-- A request that was refused is the last one, and the state is the one that it has left. -/
theorem bind_of_error {request : EStateM ε σ α} {s s' : σ} {e : ε} (h : request s = .error e s')
    (next : α → EStateM ε σ β) : (request >>= next) s = .error e s' := by
  show EStateM.bind request next s = .error e s'
  rw [EStateM.bind, h]

/-- A request that was accepted needs no handler. -/
theorem tryCatch_of_ok {request : EStateM ε σ α} {s s' : σ} {a : α} (h : request s = .ok a s')
    (handle : ε → EStateM ε σ α) : tryCatch request handle s = .ok a s' := by
  show EStateM.tryCatch request handle s = .ok a s'
  delta EStateM.tryCatch
  simp only [h]

/-- A request that was refused is handled in the state that it has left. -/
theorem tryCatch_of_error {request : EStateM ε σ α} {s s' : σ} {e : ε}
    (h : request s = .error e s') (handle : ε → EStateM ε σ α) :
    tryCatch request handle s = handle e s' := by
  show EStateM.tryCatch request handle s = handle e s'
  delta EStateM.tryCatch
  simp only [h]
  rfl

/-! ### Requests to a part -/

/-- A request to a part of a state, as a request to the whole.  What the request leaves of the part
is put back in its place, also when the request is refused. -/
def onPart (part : σ → τ) (put : σ → τ → σ) (raise : ε → ε') (request : EStateM ε τ α) :
    EStateM ε' σ α := fun s =>
  match request (part s) with
  | .ok a t => .ok a (put s t)
  | .error e t => .error (raise e) (put s t)

end ChipEight
