import Karel.Act

/-!
# Reasoning about acts

`Ensures` says what holds after one act: a condition on its value and one on its failure, each
together with the state left behind. `Simulates` compares two acts on different states that give the
same answers from related states. Both follow the structure of an act: a sequence of acts is judged
by its parts, and `Ensures.bind` and `Simulates.bind` are the only rules that look into a sequence.
-/

namespace Karel.Act

variable {σ τ ε δ α β : Type}

/-- A sequence gives a value exactly if both of its acts do. -/
theorem apply_bind_eq_ok_iff {act : Act σ ε α} {next : α → Act σ ε β} {state final : σ} {result : β} :
    (act >>= next).apply state = (.ok result, final) ↔
      ∃ value middle, act.apply state = (.ok value, middle) ∧
        (next value).apply middle = (.ok result, final) := by
  rw [apply_bind]
  rcases act.apply state with ⟨cause | value, middle⟩
  · simp
  · constructor
    · intro continued
      exact ⟨value, middle, rfl, continued⟩
    · rintro ⟨_, _, started, continued⟩
      cases started
      exact continued

/-- What follows an act only matters for the values that the act can give. -/
theorem bind_congr_of_ok {act : Act σ ε α} {next other : α → Act σ ε β}
    (same : ∀ state value last, act.apply state = (.ok value, last) → next value = other value) :
    act >>= next = act >>= other := by
  funext state
  change (act >>= next).apply state = (act >>= other).apply state
  rw [apply_bind, apply_bind]
  rcases applied : act.apply state with ⟨cause | value, last⟩
  · rfl
  · exact congrArg (fun act => apply act last) (same state value last applied)

/-- A change is made exactly if it is not refused. -/
theorem apply_change_eq_ok_iff {step : σ → Except ε σ} {state next : σ} :
    (change step).apply state = (.ok (), next) ↔ step state = .ok next := by
  rw [apply_change]
  cases step state <;> simp

/-- Telling failures in other terms does not change what gives a value. -/
theorem apply_mapError_eq_ok_iff {wrap : ε → δ} {act : Act σ ε α} {state final : σ} {value : α} :
    (act.mapError wrap).apply state = (.ok value, final) ↔ act.apply state = (.ok value, final) := by
  rw [apply_mapError]
  rcases act.apply state with ⟨cause | value, next⟩ <;> simp

/-- From a state, a value of the act satisfies `returns` and a failure satisfies `fails`. -/
def Ensures (act : Act σ ε α) (state : σ) (returns : α → σ → Prop) (fails : ε → σ → Prop) : Prop :=
  match act.apply state with
  | (.ok value, next) => returns value next
  | (.error cause, next) => fails cause next

namespace Ensures

variable {act : Act σ ε α} {state : σ} {returns : α → σ → Prop} {fails : ε → σ → Prop}

/-- What an act ensures of its value holds of the value it is seen to give. -/
theorem of_ok (ensured : act.Ensures state returns fails) {value : α} {next : σ}
    (applied : act.apply state = (.ok value, next)) : returns value next := by
  simpa only [Ensures, applied] using ensured

/-- What an act ensures of its failure holds of the failure it is seen to give. -/
theorem of_error (ensured : act.Ensures state returns fails) {cause : ε} {next : σ}
    (applied : act.apply state = (.error cause, next)) : fails cause next := by
  simpa only [Ensures, applied] using ensured

/-- Less can be ensured. -/
theorem mono {weaker : α → σ → Prop} {failing : ε → σ → Prop}
    (ensured : act.Ensures state returns fails) (value : ∀ result next, returns result next →
      weaker result next) (failure : ∀ cause next, fails cause next → failing cause next) :
    act.Ensures state weaker failing := by
  unfold Ensures
  rcases applied : act.apply state with ⟨cause | result, next⟩
  · exact failure cause next (ensured.of_error applied)
  · exact value result next (ensured.of_ok applied)

/-- What holds of all values and all failures is ensured. -/
theorem of_forall (value : ∀ result next, returns result next)
    (failure : ∀ cause next, fails cause next) : act.Ensures state returns fails := by
  unfold Ensures
  rcases act.apply state with ⟨cause | result, next⟩
  · exact failure cause next
  · exact value result next

/-- Whatever is asked of the failures of an act that never fails holds. -/
theorem of_never (ensured : act.Ensures state returns fun _ _ => False) :
    act.Ensures state returns fails :=
  ensured.mono (fun _ _ => id) fun _ _ => False.elim

theorem pure {value : α} (holds : returns value state) :
    (Pure.pure value : Act σ ε α).Ensures state returns fails := holds

theorem ask {question : σ → α} (holds : returns (question state) state) :
    (Act.ask question : Act σ ε α).Ensures state returns fails := holds

theorem update {step : σ → σ} {returns : Unit → σ → Prop} (holds : returns () (step state)) :
    (Act.update step : Act σ ε Unit).Ensures state returns fails := holds

/-- A change ensures what holds of the state that it leads to, and if it is refused it changes
nothing. -/
theorem change {step : σ → Except ε σ} {returns : Unit → σ → Prop}
    (done : ∀ next, step state = .ok next → returns () next) :
    (Act.change step).Ensures state returns fun _ last => last = state := by
  unfold Ensures
  rw [apply_change]
  cases changed : step state with
  | error cause => rfl
  | ok next => exact done next changed

/-- A sequence ensures what its second act ensures after every value the first one can give. -/
theorem bind {middle : α → σ → Prop} {next : α → Act σ ε β} {returns : β → σ → Prop}
    (first : act.Ensures state middle fails)
    (second : ∀ value after, middle value after → (next value).Ensures after returns fails) :
    (act >>= next).Ensures state returns fails := by
  unfold Ensures
  rw [apply_bind]
  rcases applied : act.apply state with ⟨cause | value, after⟩
  · exact first.of_error applied
  · exact second value after (first.of_ok applied)

/-- A sequence whose first act never fails. -/
theorem bind_of_ok {middle : α → σ → Prop} {next : α → Act σ ε β} {returns : β → σ → Prop}
    (first : act.Ensures state middle fun _ _ => False)
    (second : ∀ value after, middle value after → (next value).Ensures after returns fails) :
    (act >>= next).Ensures state returns fails :=
  bind first.of_never second

/-- What follows a question gets the answer in the same state. -/
theorem ask_bind {question : σ → α} {next : α → Act σ ε β} {returns : β → σ → Prop}
    (second : (next (question state)).Ensures state returns fails) :
    (Act.ask question >>= next).Ensures state returns fails := second

/-- What follows a change of the state starts in the changed state. -/
theorem update_bind {step : σ → σ} {next : Unit → Act σ ε β} {returns : β → σ → Prop}
    (second : (next ()).Ensures (step state) returns fails) :
    (Act.update step >>= next).Ensures state returns fails := second

/-- What goes on with the result of an act goes on after a failure too. -/
theorem attempt_bind {middle : α → σ → Prop} {broken : ε → σ → Prop}
    {next : Except ε α → Act σ δ β} {returns : β → σ → Prop} {fails : δ → σ → Prop}
    (first : act.Ensures state middle broken)
    (ok : ∀ value after, middle value after → (next (.ok value)).Ensures after returns fails)
    (error : ∀ cause after, broken cause after →
      (next (.error cause)).Ensures after returns fails) :
    (act.attempt >>= next).Ensures state returns fails := by
  unfold Ensures
  rw [apply_bind, apply_attempt]
  rcases applied : act.apply state with ⟨cause | value, after⟩
  · exact error cause after (first.of_error applied)
  · exact ok value after (first.of_ok applied)

/-- What an act ensures on a part, it ensures on the whole that the part is put back into. -/
theorem onPart {part : τ → σ} {replace : τ → σ → τ} {wrap : ε → δ} {whole : τ}
    {returns : α → τ → Prop} {fails : δ → τ → Prop}
    (inner : act.Ensures (part whole) (fun value next => returns value (replace whole next))
      fun cause next => fails (wrap cause) (replace whole next)) :
    (act.onPart part replace wrap).Ensures whole returns fails := by
  unfold Ensures
  rw [apply_onPart]
  rcases applied : act.apply (part whole) with ⟨cause | value, next⟩
  · exact inner.of_error applied
  · exact inner.of_ok applied

theorem mapError {wrap : ε → δ} {fails : δ → σ → Prop}
    (ensured : act.Ensures state returns fun cause next => fails (wrap cause) next) :
    (act.mapError wrap).Ensures state returns fails :=
  onPart ensured

/-- A sequence that starts with an act of which only the failures matter. -/
theorem bind_of_failures {wrap : ε → δ} {next : α → Act σ δ β} {returns : β → σ → Prop}
    {fails : δ → σ → Prop}
    (failures : ∀ cause last, act.apply state = (.error cause, last) → fails (wrap cause) last)
    (second : ∀ value after, (next value).Ensures after returns fails) :
    (act.mapError wrap >>= next).Ensures state returns fails := by
  have first : act.Ensures state (fun _ _ => True) fun cause last => fails (wrap cause) last := by
    unfold Ensures
    rcases applied : act.apply state with ⟨cause | value, after⟩
    · exact failures cause after applied
    · trivial
  exact bind first.mapError fun value after _ => second value after

end Ensures

/-- Two results are alike if they give the same value or failures that correspond, and leave related
states behind. -/
inductive Alike (related : σ → τ → Prop) (causes : ε → δ → Prop) :
    Except ε α × σ → Except δ α × τ → Prop
  | value {value next after} (states : related next after) :
      Alike related causes (.ok value, next) (.ok value, after)
  | failure {cause reason next after} (corresponds : causes cause reason)
      (states : related next after) :
      Alike related causes (.error cause, next) (.error reason, after)

namespace Alike

variable {related : σ → τ → Prop} {causes : ε → δ → Prop} {act : Act σ ε α} {state : σ} {after : τ}

/-- States that are alike are also related in weaker ways. -/
theorem imp {related' : σ → τ → Prop} {left : Except ε α × σ} {right : Except δ α × τ}
    (alike : Alike related causes left right)
    (weaker : ∀ next after, related next after → related' next after) :
    Alike related' causes left right := by
  cases alike with
  | value states => exact .value (weaker _ _ states)
  | failure corresponds states => exact .failure corresponds (weaker _ _ states)

/-- If a state is what another one shows, results that are alike are equal but for what is not
shown. -/
theorem eq_map {shown : τ → σ} {left : Except ε α × σ} {right : Except ε α × τ}
    (alike : Alike (fun state other => shown other = state) (· = ·) left right) :
    left = Prod.map id shown right := by
  cases alike with
  | value states => exact Prod.ext rfl states.symm
  | failure same states =>
      cases same
      exact Prod.ext rfl states.symm

/-- An act that ensures the value and a related state has a result that is alike. -/
theorem of_ok {value : α}
    (ensured : act.Ensures state (fun result next => result = value ∧ related next after)
      fun _ _ => False) :
    Alike related causes (act.apply state) (.ok value, after) := by
  rcases applied : act.apply state with ⟨cause | result, next⟩
  · exact (ensured.of_error applied).elim
  · obtain ⟨rfl, states⟩ := ensured.of_ok applied
    exact .value states

/-- An act that ensures a corresponding failure and a related state has a result that is alike. -/
theorem of_error {reason : δ}
    (ensured : act.Ensures state (fun _ _ => False)
      fun cause next => causes cause reason ∧ related next after) :
    Alike related causes (act.apply state) (.error reason, after) := by
  rcases applied : act.apply state with ⟨cause | result, next⟩
  · exact .failure (ensured.of_error applied).1 (ensured.of_error applied).2
  · exact (ensured.of_ok applied).elim

/-- Failures of the first result told in other terms. -/
theorem mapError_left {ε' : Type} {causes' : ε' → δ → Prop} {wrap : ε → ε'}
    {right : Except δ α × τ} (alike : Alike related causes (act.apply state) right)
    (wrapped : ∀ cause reason, causes cause reason → causes' (wrap cause) reason) :
    Alike related causes' ((act.mapError wrap).apply state) right := by
  rw [apply_mapError]
  generalize act.apply state = left at alike ⊢
  cases alike with
  | value states => exact .value states
  | failure corresponds states => exact .failure (wrapped _ _ corresponds) states

end Alike

/-- From related states, the two acts have results that are alike. -/
def Simulates (related : σ → τ → Prop) (causes : ε → δ → Prop) (act : Act σ ε α)
    (image : Act τ δ α) : Prop :=
  ∀ state other, related state other →
    Alike related causes (act.apply state) (image.apply other)

namespace Simulates

variable {related : σ → τ → Prop} {causes : ε → δ → Prop}

theorem pure (value : α) :
    Simulates related causes (Pure.pure value : Act σ ε α) (Pure.pure value : Act τ δ α) :=
  fun _ _ states => .value states

theorem throw {cause : ε} {reason : δ} (corresponds : causes cause reason) :
    Simulates related causes (MonadExcept.throw cause : Act σ ε α)
      (MonadExcept.throw reason : Act τ δ α) :=
  fun _ _ states => .failure corresponds states

/-- A sequence simulates another if its acts simulate the acts of the other one by one. -/
theorem bind {act : Act σ ε α} {image : Act τ δ α} {next : α → Act σ ε β} {after : α → Act τ δ β}
    (first : Simulates related causes act image)
    (second : ∀ value, Simulates related causes (next value) (after value)) :
    Simulates related causes (act >>= next) (image >>= after) := by
  intro state other states
  have start := first state other states
  rw [apply_bind, apply_bind]
  generalize act.apply state = left at start ⊢
  generalize image.apply other = right at start ⊢
  cases start with
  | value onward => exact second _ _ _ onward
  | failure corresponds onward => exact .failure corresponds onward

theorem mapError {ε' δ' : Type} {causes' : ε' → δ' → Prop} {wrap : ε → ε'} {wrap' : δ → δ'}
    {act : Act σ ε α} {image : Act τ δ α} (inner : Simulates related causes act image)
    (wrapped : ∀ cause reason, causes cause reason → causes' (wrap cause) (wrap' reason)) :
    Simulates related causes' (act.mapError wrap) (image.mapError wrap') := by
  intro state other states
  have start := inner state other states
  rw [apply_mapError, apply_mapError]
  generalize act.apply state = left at start ⊢
  generalize image.apply other = right at start ⊢
  cases start with
  | value onward => exact .value onward
  | failure corresponds onward => exact .failure (wrapped _ _ corresponds) onward

/-- Failures of the first act told in other terms. -/
theorem mapError_left {ε' : Type} {causes' : ε' → δ → Prop} {wrap : ε → ε'} {act : Act σ ε α}
    {image : Act τ δ α} (inner : Simulates related causes act image)
    (wrapped : ∀ cause reason, causes cause reason → causes' (wrap cause) reason) :
    Simulates related causes' (act.mapError wrap) image :=
  fun state other states => (inner state other states).mapError_left wrapped

/-- A sequence that starts with an act to which nothing corresponds. -/
theorem bind_left {act : Act σ ε Unit} {next : Unit → Act σ ε α} {image : Act τ δ α}
    (first : Simulates related causes act (Pure.pure ()))
    (second : Simulates related causes (next ()) image) :
    Simulates related causes (act >>= next) image := by
  have sequence := bind first fun _ => second
  rwa [pure_bind] at sequence

/-- A sequence that starts with a question, whatever its answer is. -/
theorem ask_left {question : σ → β} {next : β → Act σ ε α} {image : Act τ δ α}
    (second : ∀ answer, Simulates related causes (next answer) image) :
    Simulates related causes (ask question >>= next) image :=
  fun state other states => second (question state) state other states

/-- Two acts that fail in the same cases have the same results as values. -/
theorem attempt {ε' δ' : Type} {causes' : ε' → δ' → Prop} {act : Act σ ε α} {image : Act τ ε α}
    (inner : Simulates related (· = ·) act image) :
    Simulates related causes' (act.attempt : Act σ ε' (Except ε α))
      (image.attempt : Act τ δ' (Except ε α)) := by
  intro state other states
  have start := inner state other states
  rw [apply_attempt, apply_attempt]
  generalize act.apply state = left at start ⊢
  generalize image.apply other = right at start ⊢
  cases start with
  | value onward => exact .value onward
  | failure same onward => exact same ▸ .value onward

/-- What counts as the same failure can be told in other terms. -/
theorem mono {causes' : ε → δ → Prop} {act : Act σ ε α} {image : Act τ δ α}
    (inner : Simulates related causes act image)
    (weaker : ∀ cause reason, causes cause reason → causes' cause reason) :
    Simulates related causes' act image := by
  intro state other states
  have start := inner state other states
  generalize act.apply state = left at start ⊢
  generalize image.apply other = right at start ⊢
  cases start with
  | value onward => exact .value onward
  | failure corresponds onward => exact .failure (weaker _ _ corresponds) onward

/-- An act that simulates one that simulates a third simulates the third. -/
theorem comp {υ ζ : Type} {further : τ → υ → Prop} {reasons : δ → ζ → Prop} {act : Act σ ε α}
    {image : Act τ δ α} {last : Act υ ζ α} (first : Simulates related causes act image)
    (second : Simulates further reasons image last) :
    Simulates (fun state final => ∃ other, related state other ∧ further other final)
      (fun cause final => ∃ reason, causes cause reason ∧ reasons reason final) act last := by
  rintro state final ⟨other, states, others⟩
  have start := first state other states
  have next := second other final others
  generalize act.apply state = left at start ⊢
  generalize image.apply other = middle at start next
  generalize last.apply final = right at next ⊢
  cases start with
  | value onward =>
      cases next with
      | value after => exact .value ⟨_, onward, after⟩
  | failure corresponds onward =>
      cases next with
      | failure reasons after => exact .failure ⟨_, corresponds, reasons⟩ ⟨_, onward, after⟩

end Simulates

end Karel.Act
