/-!
# Acts

An act works on a state and may fail. What it did to the state before it failed stays done, so the
state after a failure is part of its result; `Act.change` is the act that fails without doing
anything. All that Karel's programs and sessions do is written as acts.
-/

namespace Karel

/-- A computation on a state `σ` that ends with a value or fails with a cause `ε`, and leaves a
state behind in both cases. -/
abbrev Act (σ ε α : Type) : Type := ExceptT ε (StateM σ) α

namespace Act

variable {σ τ ε δ α : Type}

/-- The result of an act and the state it leaves behind. -/
def apply (act : Act σ ε α) (state : σ) : Except ε α × σ := act state

/-- The act that is given by what it does to each state. -/
def ofFunction (function : σ → Except ε α × σ) : Act σ ε α := function

/-- Replaces the state, or fails and leaves it as it is. -/
def change (step : σ → Except ε σ) : Act σ ε Unit := ofFunction fun state =>
  match step state with
  | .ok next => (.ok (), next)
  | .error cause => (.error cause, state)

/-- Looks at the state and leaves it as it is. -/
def ask (question : σ → α) : Act σ ε α := ofFunction fun state => (.ok (question state), state)

/-- Replaces the state. -/
def update (step : σ → σ) : Act σ ε Unit := ofFunction fun state => (.ok (), step state)

/-- Works on a part of a larger state; failures are told in the terms of the larger state. -/
def onPart (part : σ → τ) (replace : σ → τ → σ) (cause : δ → ε) (act : Act τ δ α) : Act σ ε α :=
  ofFunction fun state =>
    match act.apply (part state) with
    | (.ok value, next) => (.ok value, replace state next)
    | (.error failure, next) => (.error (cause failure), replace state next)

/-- The result of an act as a value, so that work can go on after a failure. -/
def attempt (act : Act σ ε α) : Act σ δ (Except ε α) := ofFunction fun state =>
  let (result, next) := act.apply state
  (.ok result, next)

/-- The same act with its failures told in other terms. -/
def mapError (cause : δ → ε) (act : Act σ δ α) : Act σ ε α :=
  onPart id (fun _ next => next) cause act

@[simp]
theorem apply_change (step : σ → Except ε σ) (state : σ) :
    (change step).apply state =
      match step state with
      | .ok next => (.ok (), next)
      | .error cause => (.error cause, state) := rfl

@[simp]
theorem apply_ask (question : σ → α) (state : σ) :
    (ask question : Act σ ε α).apply state = (.ok (question state), state) := rfl

@[simp]
theorem apply_update (step : σ → σ) (state : σ) :
    (update step : Act σ ε Unit).apply state = (.ok (), step state) := rfl

@[simp]
theorem apply_pure (value : α) (state : σ) :
    (pure value : Act σ ε α).apply state = (.ok value, state) := rfl

@[simp]
theorem apply_throw (cause : ε) (state : σ) :
    (throw cause : Act σ ε α).apply state = (.error cause, state) := rfl

@[simp]
theorem apply_ofFunction (function : σ → Except ε α × σ) (state : σ) :
    (ofFunction function).apply state = function state := rfl

@[simp]
theorem apply_onPart (part : σ → τ) (replace : σ → τ → σ) (cause : δ → ε) (act : Act τ δ α)
    (state : σ) :
    (onPart part replace cause act).apply state =
      match act.apply (part state) with
      | (.ok value, next) => (.ok value, replace state next)
      | (.error failure, next) => (.error (cause failure), replace state next) := rfl

@[simp]
theorem apply_attempt (act : Act σ ε α) (state : σ) :
    (act.attempt : Act σ δ (Except ε α)).apply state =
      (.ok (act.apply state).1, (act.apply state).2) := rfl

@[simp]
theorem apply_mapError (cause : δ → ε) (act : Act σ δ α) (state : σ) :
    (mapError cause act).apply state =
      match act.apply state with
      | (.ok value, next) => (.ok value, next)
      | (.error failure, next) => (.error (cause failure), next) := rfl

/-- One act after another: the second sees the state the first left, and does not happen if the
first failed. -/
theorem apply_bind {β : Type} (act : Act σ ε α) (next : α → Act σ ε β) (state : σ) :
    (act >>= next).apply state =
      match act.apply state with
      | (.ok value, after) => (next value).apply after
      | (.error cause, after) => (.error cause, after) := by
  have sequence : (act >>= next).apply state =
      match act.apply state with
      | (result, after) => ExceptT.bindCont next result after := rfl
  rw [sequence]
  rcases act.apply state with ⟨_ | _, after⟩ <;> rfl

end Act

end Karel
