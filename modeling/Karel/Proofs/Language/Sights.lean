import Karel.Proofs.Language.Simulation

/-!
# What is seen of a run

Somebody who watches a run sees each statement it reaches and each condition it finds out, with its
answer. Watching takes nothing away and adds nothing: `Program.run_sighted`. Runs on two states that
act alike also look alike, by `Vocabulary.Simulates.sighted`.
-/

namespace Karel

variable {σ τ ε δ α : Type}

/-- Something that is seen of a run. -/
inductive Sight
  | reached (step : Step)
  | answered (condition : String) (answer : Bool)
deriving DecidableEq

/-- The act that also writes down what is seen when it gives its value. -/
def Act.sighted (sight : α → List Sight) (act : Act σ ε α) : Act (σ × List Sight) ε α :=
  .ofFunction fun (state, sights) =>
    match act.apply state with
    | (.ok value, next) => (.ok value, next, sights ++ sight value)
    | (.error cause, next) => (.error cause, next, sights)

/-- The vocabulary of which the answers are seen. -/
def Vocabulary.sighted (vocabulary : Vocabulary σ ε) : Vocabulary (σ × List Sight) ε where
  commands := vocabulary.commands.map fun _ action => action.sighted fun _ => []
  conditions := vocabulary.conditions.map fun name check =>
    check.sighted fun answer => [.answered name answer]

/-- The observer that sees which statements are reached. -/
def sightSteps (observe : Step → Act σ ε Unit) (step : Step) : Act (σ × List Sight) ε Unit :=
  (observe step).sighted fun _ => [.reached step]

/-- A state together with anything that was seen. -/
def Sighted (state : σ) (sighted : σ × List Sight) : Prop := sighted.1 = state

/-- States that are related, with the same sights. -/
def SeenAlike (related : σ → τ → Prop) (left : σ × List Sight) (right : τ × List Sight) : Prop :=
  related left.1 right.1 ∧ left.2 = right.2

theorem SeenAlike.imp {related related' : σ → τ → Prop}
    (weaker : ∀ state other, related state other → related' state other)
    (left : σ × List Sight) (right : τ × List Sight) (alike : SeenAlike related left right) :
    SeenAlike related' left right :=
  ⟨weaker _ _ alike.1, alike.2⟩

theorem Act.simulates_sighted (act : Act σ ε α) (sight : α → List Sight) :
    act.Simulates Sighted (· = ·) (act.sighted sight) := by
  rintro _ ⟨state, sights⟩ rfl
  rw [Act.sighted, Act.apply_ofFunction]
  dsimp only
  rcases act.apply state with ⟨cause | value, next⟩
  · exact .failure rfl (rfl : next = next)
  · exact .value (rfl : next = next)

/-- Nothing is seen where nothing is done. -/
theorem Act.sighted_pure (value : α) :
    (pure value : Act σ ε α).sighted (fun _ => []) = pure value := by
  funext ⟨state, sights⟩
  exact congrArg (fun seen => (Except.ok value, state, seen)) (List.append_nil sights)

/-- Acts that are alike are seen alike. -/
theorem Act.Simulates.sighted {related : σ → τ → Prop} {causes : ε → δ → Prop} {act : Act σ ε α}
    {image : Act τ δ α} (alike : act.Simulates related causes image) (sight : α → List Sight) :
    (act.sighted sight).Simulates (SeenAlike related) causes (image.sighted sight) := by
  rintro ⟨state, sights⟩ ⟨other, _⟩ ⟨states, rfl⟩
  have inner := alike state other states
  rw [Act.sighted, Act.sighted, Act.apply_ofFunction, Act.apply_ofFunction]
  dsimp only
  generalize act.apply state = left at inner ⊢
  generalize image.apply other = right at inner ⊢
  cases inner with
  | value onward => exact .value ⟨onward, rfl⟩
  | failure corresponds onward => exact .failure corresponds ⟨onward, rfl⟩

/-- Where nothing is to be seen, an act is seen alike even if it is cut short. -/
theorem Act.SimulatesUntil.sighted {related : σ → τ → Prop} {causes : ε → δ → Prop}
    {stops : ε → Prop} {act : Act σ ε α} {image : Act τ δ α}
    (alike : act.SimulatesUntil related causes stops image) :
    (act.sighted fun _ => []).SimulatesUntil (SeenAlike related) causes stops
      (image.sighted fun _ => []) := by
  rintro ⟨state, sights⟩ ⟨other, _⟩ ⟨states, rfl⟩
  have inner := alike state other states
  rw [Act.sighted, Act.sighted, Act.apply_ofFunction, Act.apply_ofFunction]
  dsimp only
  generalize act.apply state = left at inner ⊢
  generalize image.apply other = right at inner ⊢
  rcases inner with results | cut
  · cases results with
    | value onward => exact .inl (.value ⟨onward, rfl⟩)
    | failure corresponds onward => exact .inl (.failure corresponds ⟨onward, rfl⟩)
  · cases cut with
    | intro stopped onward => exact .inr (.intro stopped ⟨onward, (List.append_nil sights).symm⟩)

namespace Vocabulary

theorem simulates_sighted (vocabulary : Vocabulary σ ε) :
    vocabulary.Simulates Sighted (· = ·) vocabulary.sighted where
  command := rel_map_right fun _ action => action.simulates_sighted _
  condition := rel_map_right fun _ check => check.simulates_sighted _

/-- Vocabularies that act alike are seen alike. -/
theorem SimulatesUntil.sighted {related : σ → τ → Prop} {causes : ε → δ → Prop}
    {stops : ε → Prop} {vocabulary : Vocabulary σ ε} {image : Vocabulary τ δ}
    (words : vocabulary.SimulatesUntil related causes stops image) :
    vocabulary.sighted.SimulatesUntil (SeenAlike related) causes stops image.sighted where
  command name := rel_map (words.command name) fun _ _ alike => alike.sighted
  condition name := rel_map (words.condition name) fun _ _ alike => alike.sighted _

end Vocabulary

/-- The same result without what was seen. -/
def unsighted (result : Except ε α × σ × List Sight) : Except ε α × σ := (result.1, result.2.1)

/-- Acts of which nothing but the sights differs have the same results. -/
theorem Act.Simulates.apply_eq_unsighted {act : Act σ ε α} {image : Act (σ × List Sight) ε α}
    (alike : act.Simulates Sighted (· = ·) image) (state : σ) (sights : List Sight) :
    act.apply state = unsighted (image.apply (state, sights)) :=
  (alike state (state, sights) rfl).eq_map

/-- A run is the run that is seen, without what is seen. -/
theorem Program.run_simulates_sighted (program : Program) (vocabulary : Vocabulary σ ε)
    (observe : Step → Act σ ε Unit) (steps : Nat) :
    (program.run vocabulary observe steps).Simulates Sighted (· = ·)
      (program.run vocabulary.sighted (sightSteps observe) steps) := by
  have alike := Program.run_simulates vocabulary.simulates_sighted
    (fun step => (observe step).simulates_sighted fun _ => [.reached step]) program steps
  exact alike.mono fun _ _ => RunFailure.Alike.eq

end Karel
