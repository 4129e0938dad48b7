import Karel.Proofs.Language.Simulation

/-!
# Recorded runs

A recorded run writes down every call it makes on its surroundings: each step shown, each condition
asked and each command run, in that order and whether the call fails or not. Recording takes nothing
away and adds nothing, by `Program.run_recorded`: without its record, a recorded run is the run.
-/

namespace Karel

variable {σ ε α : Type}

/-- A call of a run on its surroundings. -/
inductive Call
  | shown (step : Step)
  | asked (condition : String)
  | commanded (command : String)
deriving DecidableEq

/-- The act that also writes down its call. -/
def Act.recorded (call : Call) (act : Act σ ε α) : Act (σ × List Call) ε α :=
  .ofFunction fun (state, calls) =>
    ((act.apply state).1, (act.apply state).2, calls ++ [call])

/-- The vocabulary whose words also write down that they were used. -/
def Vocabulary.recorded (vocabulary : Vocabulary σ ε) : Vocabulary (σ × List Call) ε where
  commands := vocabulary.commands.map fun name action => action.recorded (.commanded name)
  conditions := vocabulary.conditions.map fun name check => check.recorded (.asked name)

/-- The observer that also writes down what it was shown. -/
def recordSteps (observe : Step → Act σ ε Unit) (step : Step) : Act (σ × List Call) ε Unit :=
  (observe step).recorded (.shown step)

/-- A state as it is recorded, with any record. -/
def Recorded (state : σ) (recorded : σ × List Call) : Prop := recorded.1 = state

theorem Act.simulates_recorded (act : Act σ ε α) (call : Call) :
    act.Simulates Recorded (· = ·) (act.recorded call) := by
  rintro _ ⟨state, calls⟩ rfl
  change Act.Alike Recorded (· = ·) (act.apply state)
    ((act.apply state).1, (act.apply state).2, calls ++ [call])
  rcases act.apply state with ⟨cause | value, next⟩
  · exact .failure rfl (rfl : next = next)
  · exact .value (rfl : next = next)

theorem Vocabulary.simulates_recorded (vocabulary : Vocabulary σ ε) :
    vocabulary.Simulates Recorded (· = ·) vocabulary.recorded where
  command := rel_map_right fun name action => action.simulates_recorded (.commanded name)
  condition := rel_map_right fun name check => check.simulates_recorded (.asked name)

/-- A run is its recorded run without the record. -/
theorem Program.run_recorded (program : Program) (vocabulary : Vocabulary σ ε)
    (observe : Step → Act σ ε Unit) (steps : Nat) (state : σ) (calls : List Call) :
    (program.run vocabulary observe steps).apply state =
      (((program.run vocabulary.recorded (recordSteps observe) steps).apply (state, calls)).1,
        ((program.run vocabulary.recorded (recordSteps observe) steps).apply (state, calls)).2.1) := by
  have alike := Program.run_simulates vocabulary.simulates_recorded
    (fun step => (observe step).simulates_recorded (.shown step)) program steps
  exact ((alike.mono fun _ _ => RunFailure.Alike.eq) state (state, calls) rfl).eq_map

end Karel
