import Karel.Proofs.Acts

/-!
# Acts that are cut short

An act can stop where another one goes on: it has done what the other has done, and fails with a cause
of which the other knows nothing. `SimulatesUntil` compares two acts that are alike up to such a stop.
After a stop nothing can be compared any more, so in a sequence only the last act may be one that is
cut short; a run of many such sequences is cut short after as many of them as it has done.
-/

namespace Karel.Act

variable {σ τ ε δ α β : Type} {related : σ → τ → Prop} {causes : ε → δ → Prop} {stops : ε → Prop}

/-- The first act stopped with such a cause when it had done what the second does, which goes on. -/
inductive CutShort (related : σ → τ → Prop) (stops : ε → Prop) :
    Except ε α × σ → Except δ β × τ → Prop
  | intro {cause value next after} (stopped : stops cause) (states : related next after) :
      CutShort related stops (.error cause, next) (.ok value, after)

/-- From related states, the two acts have results that are alike, or the first one is cut short. -/
def SimulatesUntil (related : σ → τ → Prop) (causes : ε → δ → Prop) (stops : ε → Prop)
    (act : Act σ ε α) (image : Act τ δ α) : Prop :=
  ∀ state other, related state other →
    Alike related causes (act.apply state) (image.apply other) ∨
      CutShort related stops (act.apply state) (image.apply other)

namespace CutShort

variable {left : Except ε α × σ} {right : Except δ β × τ}

/-- What is cut short is stopped by something. -/
theorem exists_stops (cut : CutShort related stops left right) : ∃ cause, stops cause := by
  obtain ⟨stopped, -⟩ := cut
  exact ⟨_, stopped⟩

/-- What counts as a stop, and how the states are related, can be told in weaker terms. -/
theorem mono {related' : σ → τ → Prop} {stops' : ε → Prop}
    (cut : CutShort related stops left right)
    (states : ∀ next after, related next after → related' next after)
    (causes : ∀ cause, stops cause → stops' cause) : CutShort related' stops' left right := by
  obtain ⟨stopped, onward⟩ := cut
  exact .intro (causes _ stopped) (states _ _ onward)

/-- Failures of the first act told in other terms. -/
theorem mapError_left {ε' : Type} {stops' : ε' → Prop} {wrap : ε → ε'} {act : Act σ ε α} {state : σ}
    (cut : CutShort related stops (act.apply state) right)
    (stopped : ∀ cause, stops cause → stops' (wrap cause)) :
    CutShort related stops' ((act.mapError wrap).apply state) right := by
  rw [apply_mapError]
  generalize act.apply state = left at cut ⊢
  obtain ⟨stop, onward⟩ := cut
  exact .intro (stopped _ stop) onward

end CutShort

/-- An act that simulates another one is not cut short. -/
theorem Simulates.until {act : Act σ ε α} {image : Act τ δ α}
    (alike : act.Simulates related causes image) : act.SimulatesUntil related causes stops image :=
  fun state other states => .inl (alike state other states)

namespace SimulatesUntil

variable {act : Act σ ε α} {image : Act τ δ α}

/-- Where nothing stops an act, it is alike to the end. -/
theorem simulates (alike : act.SimulatesUntil related causes stops image)
    (never : ∀ cause, ¬ stops cause) : act.Simulates related causes image := by
  intro state other states
  rcases alike state other states with results | cut
  · exact results
  · obtain ⟨cause, stopped⟩ := cut.exists_stops
    exact absurd stopped (never cause)

/-- An act that gives the value, or stops, and leaves a related state in both cases. -/
theorem of_ok {value : α} {state : σ} {after : τ}
    (ensured : act.Ensures state (fun result next => result = value ∧ related next after)
      fun cause next => stops cause ∧ related next after) :
    Alike related causes (act.apply state) (.ok value, after) ∨
      CutShort related stops (act.apply state) ((.ok value, after) : Except δ α × τ) := by
  rcases applied : act.apply state with ⟨cause | result, next⟩
  · exact .inr (.intro (ensured.of_error applied).1 (ensured.of_error applied).2)
  · obtain ⟨rfl, states⟩ := ensured.of_ok applied
    exact .inl (.value states)

/-- What counts as a stop can be told in other terms. -/
theorem mono {stops' : ε → Prop} (alike : act.SimulatesUntil related causes stops image)
    (weaker : ∀ cause, stops cause → stops' cause) :
    act.SimulatesUntil related causes stops' image := by
  intro state other states
  exact (alike state other states).imp_right fun cut => cut.mono (fun _ _ => id) weaker

theorem mapError {ε' δ' : Type} {causes' : ε' → δ' → Prop} {stops' : ε' → Prop} {wrap : ε → ε'}
    {wrap' : δ → δ'} (inner : act.SimulatesUntil related causes stops image)
    (wrapped : ∀ cause reason, causes cause reason → causes' (wrap cause) (wrap' reason))
    (stopped : ∀ cause, stops cause → stops' (wrap cause)) :
    (act.mapError wrap).SimulatesUntil related causes' stops' (image.mapError wrap') := by
  intro state other states
  have start := inner state other states
  rw [apply_mapError, apply_mapError]
  generalize act.apply state = left at start ⊢
  generalize image.apply other = right at start ⊢
  rcases start with results | cut
  · cases results with
    | value onward => exact .inl (.value onward)
    | failure corresponds onward => exact .inl (.failure (wrapped _ _ corresponds) onward)
  · cases cut with
    | intro stop onward => exact .inr (.intro (stopped _ stop) onward)

/-- The last act of a sequence may be cut short. -/
theorem bind {next : α → Act σ ε β} {after : α → Act τ δ β}
    (first : act.Simulates related causes image)
    (second : ∀ value, (next value).SimulatesUntil related causes stops (after value)) :
    (act >>= next).SimulatesUntil related causes stops (image >>= after) := by
  intro state other states
  have start := first state other states
  rw [apply_bind, apply_bind]
  generalize act.apply state = left at start ⊢
  generalize image.apply other = right at start ⊢
  cases start with
  | value onward => exact second _ _ _ onward
  | failure corresponds onward => exact .inl (.failure corresponds onward)

/-- What is made of the value is not made of it if the act is cut short. -/
theorem bind_pure (alike : act.SimulatesUntil related causes stops image) (result : α → β) :
    (act >>= fun value => pure (result value)).SimulatesUntil related causes stops
      (image >>= fun value => pure (result value)) := by
  intro state other states
  have start := alike state other states
  rw [apply_bind, apply_bind]
  generalize act.apply state = left at start ⊢
  generalize image.apply other = right at start ⊢
  rcases start with results | cut
  · cases results with
    | value onward => exact .inl (.value onward)
    | failure corresponds onward => exact .inl (.failure corresponds onward)
  · cases cut with
    | intro stopped onward => exact .inr (.intro stopped onward)

/-- An act that is like one that simulates a third is like the third. -/
theorem comp {υ : Type} {further : τ → υ → Prop} {last : Act υ δ α}
    (first : act.SimulatesUntil related causes stops image)
    (second : image.Simulates further (· = ·) last) :
    act.SimulatesUntil (fun state final => ∃ other, related state other ∧ further other final)
      causes stops last := by
  rintro state final ⟨other, states, others⟩
  have start := first state other states
  have next := second other final others
  generalize act.apply state = left at start ⊢
  generalize image.apply other = middle at start next
  generalize last.apply final = right at next ⊢
  cases next with
  | value after =>
      rcases start with results | cut
      · cases results with
        | value onward => exact .inl (.value ⟨_, onward, after⟩)
      · cases cut with
        | intro stopped onward => exact .inr (.intro stopped ⟨_, onward, after⟩)
  | failure same after =>
      rcases start with results | cut
      · cases results with
        | failure corresponds onward => exact .inl (.failure (same ▸ corresponds) ⟨_, onward, after⟩)
      · cases cut

end SimulatesUntil

end Karel.Act
