import Karel.Proofs.Language.Words

/-!
# Driving through a window

What Karel is told through a window happens in the world behind it as if there was no window: every
act succeeds or is refused as in the world itself, and answers the same.
-/

namespace Karel.Window

/-- The window is one on that world. -/
def Fronts (window : Window) (world : World) : Prop := window.world = world

theorem move_simulates : Window.move.Simulates Fronts (· = ·) (Act.change World.move) := by
  rintro window _ rfl
  rw [Window.move, Act.apply_ofFunction, Act.apply_change]
  dsimp only
  cases window.world.move with
  | error refusal => exact .failure rfl rfl
  | ok world =>
      dsimp only
      split
      next => exact .value rfl
      next => exact .value rfl

theorem tryWorld_simulates (change : World → Except Refusal World) :
    (tryWorld change).Simulates Fronts (· = ·) (Act.change change) := by
  rintro window _ rfl
  rw [tryWorld, Act.apply_change, Act.apply_change]
  cases change window.world with
  | error refusal => exact .failure rfl rfl
  | ok world => exact .value rfl

theorem mapWorld_simulates (change : World → World) :
    (Act.update (·.mapWorld change) : Act Window Refusal Unit).Simulates Fronts (· = ·)
      (Act.update change : Act World Refusal Unit) := by
  rintro window _ rfl
  exact .value rfl

theorem ask_simulates (question : World → Bool) :
    (Act.ask fun window : Window => question window.world : Act Window Refusal Bool).Simulates
      Fronts (· = ·) (Act.ask question : Act World Refusal Bool) := by
  rintro window _ rfl
  exact .value rfl

/-- Through a window everything is as in the world behind it. -/
theorem drivable_corresponds : Drivable.Corresponds
    (Act.Simulates Fronts (· = ·) : Act Window Refusal Unit → Act World Refusal Unit → Prop)
    (Act.Simulates Fronts (· = ·)) where
  skip := .pure ()
  move := move_simulates
  turnLeft := mapWorld_simulates _
  turnRight := mapWorld_simulates _
  pick := tryWorld_simulates _
  put := tryWorld_simulates _
  frontIsBlocked := ask_simulates _
  frontIsTreasure := ask_simulates _
  beeperIsPresent := ask_simulates _
  isFacing direction := ask_simulates fun world => world.isFacing direction

end Karel.Window
