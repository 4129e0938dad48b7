import Karel.Drivable
import Karel.Proofs.Window.Framing

/-!
# Reachable windows

A window is opened on a world in which Karel could be placed, and then it is worked with: Karel is
told what to do, the world is edited, and the window is resized or placed anew. Whatever is done,
in whatever order and whether or not it is refused, `Window.Reachable.framed` says that the window
frames Karel.
-/

namespace Karel.Window

/-- What can be done with a window. -/
inductive Operation
  | move
  | turnLeft
  | turnRight
  | pick
  | put
  | setTileAhead (tile : Tile)
  | setBeepersHere (count : BeeperCount)
  | setBag (bag : Bag)
  | resize (width height : Coordinate)
  | setLookahead (lookahead : Coordinate)
  | recenter

/-- The act that an operation is. -/
def Operation.act : Operation → Act Window Refusal Unit
  | move => Drivable.move
  | turnLeft => Drivable.turnLeft
  | turnRight => Drivable.turnRight
  | pick => Drivable.pick
  | put => Drivable.put
  | setTileAhead tile => .update (·.mapWorld fun world => world.setTileAhead tile)
  | setBeepersHere count => .update (·.mapWorld fun world => world.setBeepersHere count)
  | setBag bag => .update (·.mapWorld fun world => world.setBag bag)
  | resize width height => .update (·.resize width height)
  | setLookahead lookahead => .update (·.setLookahead lookahead)
  | recenter => .update (·.recenter)

/-- The window that an operation leaves behind, be it done or refused. -/
def after (window : Window) (operation : Operation) : Window := (operation.act.apply window).2

/-- The windows that operations lead to. -/
inductive Reachable : Window → Prop
  | opened {robot : Robot} {grid : Grid} {world : World} (placed : World.place robot grid = .ok world)
      (settings : WindowSettings) : Reachable (onWorld world settings)
  | after {window : Window} (reachable : Reachable window) (operation : Operation) :
      Reachable (window.after operation)

variable {window : Window} {world : World}

/-- A window on a world in which Karel could be placed frames Karel. -/
theorem framed_onWorld {robot : Robot} {grid : Grid} (placed : World.place robot grid = .ok world)
    (settings : WindowSettings) : (onWorld world settings).Framed := by
  obtain ⟨passable, rfl⟩ := World.place_eq_ok_iff.mp placed
  obtain ⟨insideX, insideY⟩ := (Bool.and_eq_true _ _).mp (Grid.contains_of_passable passable)
  obtain ⟨left, right⟩ := axisContains_iff.mp insideX
  obtain ⟨top, bottom⟩ := axisContains_iff.mp insideY
  have nonneg := toInt_max_nonneg settings.lookahead
  refine Sound.resize ⟨?_, ?_⟩ settings.width settings.height
  · exact sound_axisLookahead left right (Int.le_refl 1) nonneg
  · exact sound_axisLookahead top bottom (Int.le_refl 1) nonneg

/-- What leaves Karel and the borders in place leaves Karel framed. -/
theorem Framed.inPlace (framed : window.Framed) (kept : window.world.InPlace world) :
    Framed { window with world := world } where
  horizontal := by
    unfold Window.horizontal
    rw [kept.position, kept.bounds]
    exact framed.horizontal
  vertical := by
    unfold Window.vertical
    rw [kept.position, kept.bounds]
    exact framed.vertical

/-- An operation on the world that leaves Karel and the borders in place, if it is not refused,
leaves Karel framed. -/
theorem Framed.tryWorld (framed : window.Framed) {change : World → Except Refusal World}
    (kept : ∀ {world}, change window.world = .ok world → window.world.InPlace world) :
    (((Window.tryWorld change).apply window).2).Framed := by
  rw [Window.tryWorld, Act.apply_change]
  cases changed : change window.world with
  | error refusal => exact framed
  | ok world => exact framed.inPlace (kept changed)

/-- A step keeps Karel framed, and so does a refused one. -/
theorem Framed.move (framed : window.Framed) : (Window.move.apply window).2.Framed := by
  rcases apply_move window with ⟨front, ahead, passable, moved⟩ | ⟨refusal, -, stayed⟩
  · rw [moved]
    exact framed.stepped ahead (Grid.contains_of_passable passable)
  · rw [stayed]
    exact ⟨framed.horizontal, framed.vertical⟩

/-- Every operation keeps Karel framed. -/
theorem Framed.operation (framed : window.Framed) (operation : Operation) :
    (window.after operation).Framed := by
  cases operation with
  | move => exact framed.move
  | turnLeft => exact framed.inPlace ⟨rfl, rfl⟩
  | turnRight => exact framed.inPlace ⟨rfl, rfl⟩
  | pick => exact framed.tryWorld World.inPlace_of_pick
  | put => exact framed.tryWorld World.inPlace_of_put
  | setTileAhead tile => exact framed.inPlace (World.inPlace_setTileAhead tile)
  | setBeepersHere count => exact framed.inPlace (World.inPlace_setBeepersHere count)
  | setBag bag => exact framed.inPlace ⟨rfl, rfl⟩
  | resize width height => exact framed.sound.resize width height
  | setLookahead lookahead => exact framed.sound.setLookahead lookahead
  | recenter => exact framed.sound.recenter

/-- Every reachable window frames Karel. -/
theorem Reachable.framed (reachable : window.Reachable) : window.Framed := by
  induction reachable with
  | opened placed settings => exact framed_onWorld placed settings
  | after _ operation inductionHypothesis => exact inductionHypothesis.operation operation

/-- A window on the corner of a plane that is larger. -/
def cornerWindow : Window := onWorld ⟨.initial, .empty (.finite 5 5)⟩ ⟨3, 3, 1⟩

theorem reachable_cornerWindow : cornerWindow.Reachable :=
  .opened (World.place_eq_ok_iff.mpr ⟨by rw [Grid.get_empty]; decide, rfl⟩) ⟨3, 3, 1⟩

/-- Karel's second step from the corner slides the window. -/
example : ((cornerWindow.after .move).after .move).corner = ⟨1, 0⟩ := by decide

end Karel.Window
