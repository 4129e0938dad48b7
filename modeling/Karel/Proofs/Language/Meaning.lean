import Karel.Proofs.Language.Recording
import Karel.Proofs.Language.Stack

/-!
# The machine follows the recursive meaning

For every program that was read, running the machine for a number of steps is evaluating the program
by recursion on as many statements: `run_eq_evaluate`. No procedure that was read is empty, so every
step of the machine makes a statement.
-/

namespace Karel.Program

variable {σ ε σ₀ ε₀ : Type}

/-- A program that was read, with whatever words, does what its recursive meaning says, on every
state, with every vocabulary and every observer. On any number of statements, the run and the
evaluation come equally far or fail alike, and leave the same state. This holds of the recorded run
too, so they make the same calls in the same order, and the recorded run is the run. The machine
ends without a failure exactly if the evaluation does. -/
theorem run_eq_evaluate {known : Vocabulary σ₀ ε₀} {source : String} {program : Program}
    (accepted : Language.read known source = .ok program) (vocabulary : Vocabulary σ ε)
    (observe : Step → Act σ ε Unit) :
    (∀ steps, List.isEmpty <$> program.run vocabulary observe steps =
      program.evaluate vocabulary observe steps) ∧
    (∀ steps, List.isEmpty <$> program.run vocabulary.recorded (recordSteps observe) steps =
      program.evaluate vocabulary.recorded (recordSteps observe) steps) ∧
    (∀ steps state calls, (program.run vocabulary observe steps).apply state =
      (((program.run vocabulary.recorded (recordSteps observe) steps).apply (state, calls)).1,
        ((program.run vocabulary.recorded (recordSteps observe) steps).apply
          (state, calls)).2.1)) ∧
    ∀ first last, (∃ steps, (program.run vocabulary observe steps).apply first = (.ok [], last)) ↔
      program.Completes vocabulary observe first last := by
  have filled := (Language.wellFormed_of_read accepted).filled
  refine ⟨isEmpty_run filled, isEmpty_run filled,
    program.run_recorded vocabulary observe, fun first last => ?_⟩
  rw [completes_iff_evaluate]
  refine exists_congr fun steps => ?_
  rw [← isEmpty_run filled, map_eq_pure_bind, Act.apply_bind_eq_ok_iff]
  constructor
  · intro ended
    exact ⟨[], last, ended, rfl⟩
  · rintro ⟨stack, middle, stopped, finished⟩
    obtain ⟨empty, rfl⟩ : stack.isEmpty = true ∧ middle = last := by
      simpa using finished
    rw [stopped, List.isEmpty_iff.mp empty]

/-- The walk does what its recursive meaning says in every world. -/
theorem run_eq_evaluate_walk :
    ∃ program, Language.read (Vocabulary.standard : Vocabulary World Refusal)
        Language.walkSource = .ok program ∧
      ∀ observe steps, List.isEmpty <$>
          program.run (Vocabulary.standard : Vocabulary World Refusal) observe steps =
        program.evaluate Vocabulary.standard observe steps := by
  obtain ⟨program, accepted⟩ := Language.exists_read_walkSource
  exact ⟨program, accepted, fun observe =>
    (run_eq_evaluate accepted Vocabulary.standard observe).1⟩

end Karel.Program
