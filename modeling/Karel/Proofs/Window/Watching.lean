import Karel.Proofs.Window.Driving
import Karel.Proofs.World.Paths

/-!
# Watching a program through a window

A program runs in a world that is watched through a window as it runs in the world alone. Somebody who
sees the world behind the window is shown the same statements in the same worlds, the run ends in the
same way and in the same world, and a refusal leaves that world as it was when the statement that was
refused was shown.
-/

namespace Karel.Window

/-- The usual words act on a window as on the world behind it. -/
theorem standard_simulates : Vocabulary.Simulates Fronts (· = ·)
    (.standard : Vocabulary Window Refusal) (.standard : Vocabulary World Refusal) where
  command := drivable_corresponds.commands_rel
  condition := drivable_corresponds.conditions_rel

/-- A world is the one behind every window that is opened on it. -/
theorem world_onWorld (world : World) (settings : WindowSettings) :
    (onWorld world settings).world = world := rfl

end Karel.Window

namespace Karel.World

/-- How far a program came in a world before an act failed: the last statement of the chart was shown
in the world that the run has left, and then the onlooker stopped the run or the command of that
statement was refused and changed nothing. -/
structure StoppedAt (first : World) (program : Program) (onlooker : Onlooker World Refusal)
    (cause : Refusal) (earlier : Chart World) (step : Step) (last : World) : Prop where
  course : program.Course .standard first earlier last
  stopped : onlooker (earlier ++ [(step, last)]) = .error cause ∨
    Program.Refuses .standard step.statement last cause

variable {first last : World} {program : Program} {onlooker : Onlooker World Refusal}
  {chart : Chart World} {cause : Refusal}

theorem exists_stoppedAt
    (stopped : program.Stopped .standard onlooker first (.act cause) chart last) :
    ∃ earlier step, chart = earlier ++ [(step, last)] ∧
      first.StoppedAt program onlooker cause earlier step last := by
  cases stopped with
  | watched course stops => exact ⟨_, _, rfl, course, .inl stops⟩
  | failed course executed =>
      obtain ⟨rfl, refused⟩ := (execute_treads program _ _).of_error executed
      exact ⟨_, _, rfl, course, .inr (refused cause rfl)⟩

end Karel.World

namespace Karel.Window

/-- Whatever the world, the window on it and the onlooker, a program runs behind the window as in the
world alone: it shows the same statements in the same worlds, comes to the same result after as many
steps, with the same refusal if there is one, and leaves the same world. If it was stopped with a
refusal, this is the world in which its last statement was shown, whose command was refused or which
the onlooker did not let pass. -/
theorem charted_onWorld (program : Program) (world : World) (settings : WindowSettings)
    (onlooker : Onlooker World Refusal) (steps : Nat) :
    ∃ result window shown,
      (program.charted .standard (onlooker.through Window.world) steps).apply
          (onWorld world settings, []) = (result, window, shown) ∧
        (program.charted .standard onlooker steps).apply (world, []) =
          (result, window.world, shown.map (Prod.map id Window.world)) ∧
        ∀ cause, result = .error (.act cause) → ∃ earlier step,
          shown.map (Prod.map id Window.world) = earlier ++ [(step, window.world)] ∧
            world.StoppedAt program onlooker cause earlier step window.world := by
  have alike := program.charted_simulates standard_simulates onlooker steps
    (onWorld world settings, []) (world, []) ⟨world_onWorld world settings, rfl⟩
  have ensured := program.run_charted .standard onlooker steps world
  rcases driven : (program.charted .standard (onlooker.through Window.world) steps).apply
    (onWorld world settings, []) with ⟨result, window, shown⟩
  rcases ran : (program.charted .standard onlooker steps).apply (world, []) with ⟨_, _, _⟩
  rw [driven, ran] at alike
  refine ⟨result, window, shown, rfl, ?_⟩
  cases alike with
  | value states =>
      obtain ⟨rfl, rfl⟩ := states
      exact ⟨rfl, fun _ stopped => nomatch stopped⟩
  | failure same states =>
      obtain ⟨rfl, rfl⟩ := states
      obtain rfl := same
      refine ⟨rfl, fun cause stopped => ?_⟩
      cases stopped
      exact World.exists_stoppedAt (ensured.of_error ran)

/-- A window of a single cell follows Karel along the lane, up to the treasure. -/
theorem charted_onWorld_lane :
    ∃ window shown earlier step,
      (Program.charted World.sowing .standard (.through Window.world fun _ => .ok ()) 9).apply
          (onWorld World.laneWorld ⟨1, 1, 0⟩, []) =
        (.error (.act (.blocked ⟨1, 0⟩ .east .treasure)), window, shown) ∧
      shown.map (Prod.map id Window.world) = earlier ++ [(step, window.world)] ∧
      Program.Refuses .standard step.statement window.world (.blocked ⟨1, 0⟩ .east .treasure) := by
  obtain ⟨result, window, shown, driven, ran, stopped⟩ :=
    charted_onWorld World.sowing World.laneWorld ⟨1, 1, 0⟩ (fun _ => .ok ()) 9
  obtain rfl : result = _ := (congrArg Prod.fst ran).symm.trans World.sowing_lane
  obtain ⟨earlier, step, chart, place⟩ := stopped _ rfl
  exact ⟨window, shown, earlier, step, driven, chart, place.stopped.resolve_left nofun⟩

end Karel.Window
