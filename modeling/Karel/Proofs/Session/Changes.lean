import Karel.Proofs.Session.Picture

/-!
# What commands change

Every operation on a window names how much of the picture it makes stale, as `Operation.changes`, and
`Operation.act_ensures` says that it names enough: outside the places that are redrawn the picture is
still right after the operation, and all of it is if the operation is refused.
-/

namespace Karel.Window

open Console Coordinate

variable {window : Window} {place point : Point} {picture : Picture}

/-- How much of the picture an operation makes stale. -/
def Operation.changes : Operation → Session.Redraw
  | move => .moved
  | turnLeft | turnRight | pick | put | setBeepersHere _ => .robot
  | setBag _ => .nothing
  | setTileAhead _ | resize _ _ | setLookahead _ | recenter => .everything

/-- Only one place of the window is that of Karel's cell. -/
theorem eq_robotPosition_of_add? (found : window.corner.add? place = some window.world.robot.position) :
    place = window.robotPosition := by
  obtain ⟨columns, rows⟩ := Point.add?_eq_some_iff.mp found
  change place = ⟨_, _⟩
  rw [eq_add_of_toInt _ _ columns, eq_add_of_toInt _ _ rows]
  obtain ⟨x, y⟩ := place
  simp only [Point.mk.injEq]
  constructor <;> grind

/-- What changes only the tile of Karel's cell makes only Karel's place stale. -/
theorem Depicts.inPlace (depicts : window.Depicts picture) {world : World}
    (kept : window.world.InPlace world)
    (elsewhere : ∀ point ≠ window.world.robot.position, world.tile point = window.world.tile point) :
    UpTo { window with world := world } picture .robot := by
  intro column row covered other
  have stays : robotPosition { window with world := world } = window.robotPosition := by
    unfold robotPosition
    rw [kept.position]
  rw [stays] at other
  rw [depicts.showsTiles column row covered other]
  unfold tileIn
  dsimp only
  cases found : window.corner.add? (.ofCell column row) with
  | none => rfl
  | some point =>
      have apart : point ≠ window.world.robot.position := by
        rintro rfl
        exact other (eq_robotPosition_of_add? found)
      dsimp only
      rw [elsewhere point apart]

/-- An operation on the world that may be refused makes only Karel's place stale. -/
theorem Depicts.tryWorld (depicts : window.Depicts picture) {change : World → Except Refusal World}
    (kept : ∀ {world}, change window.world = .ok world → window.world.InPlace world)
    (elsewhere : ∀ {world}, change window.world = .ok world →
      ∀ point ≠ window.world.robot.position, world.tile point = window.world.tile point) :
    (Window.tryWorld change).Ensures window (fun _ next => next.UpTo picture .robot)
      fun _ next => next.Depicts picture := by
  unfold Act.Ensures
  rw [Window.tryWorld, Act.apply_change]
  cases changed : change window.world with
  | error refusal => exact depicts
  | ok world => exact depicts.inPlace (kept changed) (elsewhere changed)

/-- The place that Karel leaves by a step lies behind the one it reaches. -/
theorem robotPosition_of_ahead {front : Point} (ahead : window.world.robot.front? = some front) :
    (front - window.corner) - window.world.robot.facing.step = window.robotPosition := by
  obtain ⟨columns, rows⟩ := Point.add?_eq_some_iff.mp ahead
  change (⟨front.x - _ - _, front.y - _ - _⟩ : Point) = ⟨_, _⟩
  rw [Point.mk.injEq, eq_add_of_toInt _ _ columns, eq_add_of_toInt _ _ rows]
  constructor <;> grind

/-- A step that does not slide the window makes the cell that was left and the one that was reached
stale. -/
theorem Depicts.move (depicts : window.Depicts picture) :
    Window.move.Ensures window (fun _ next => next.UpTo picture .moved)
      fun _ next => next.Depicts picture := by
  unfold Act.Ensures
  rcases apply_move window with ⟨front, ahead, passable, moved⟩ | ⟨refusal, -, stayed⟩
  · rw [moved]
    intro (still : window.slides = false) column row covered other
    have corner : (window.stepped front).corner = window.corner := by
      simp [stepped, still]
    have left : (window.stepped front).robotPosition - window.world.robot.facing.step =
        window.robotPosition := by
      rw [← robotPosition_of_ahead ahead, ← corner]
      rfl
    have shown := depicts.showsTiles column row covered fun own => other (.inr ?_)
    · rw [shown, tileIn, tileIn, corner]
      rfl
    · exact own.trans left.symm
  · rw [stayed]
    exact ⟨depicts.karel, depicts.tiles⟩

/-- An operation makes no more of the picture stale than it says. -/
theorem Operation.act_ensures (depicts : window.Depicts picture) (operation : Operation) :
    operation.act.Ensures window (fun _ next => next.UpTo picture operation.changes)
      fun _ next => next.Depicts picture := by
  cases operation with
  | move => exact depicts.move
  | turnLeft => exact depicts.inPlace ⟨rfl, rfl⟩ fun _ _ => rfl
  | turnRight => exact depicts.inPlace ⟨rfl, rfl⟩ fun _ _ => rfl
  | pick => exact depicts.tryWorld World.inPlace_of_pick fun picked _ => World.tile_of_pick picked
  | put => exact depicts.tryWorld World.inPlace_of_put fun given _ => World.tile_of_put given
  | setTileAhead tile => exact trivial
  | setBeepersHere count =>
      exact depicts.inPlace (World.inPlace_setBeepersHere count) fun _ =>
        World.tile_setBeepersHere count
  | setBag bag => exact ⟨depicts.karel, depicts.tiles⟩
  | resize width height => exact trivial
  | setLookahead lookahead => exact trivial
  | recenter => exact trivial

/-- Only resizing a window changes its size. -/
theorem size_after (window : Window) {operation : Operation}
    (fixed : ∀ width height, operation ≠ .resize width height) :
    (window.after operation).width = window.width ∧
      (window.after operation).height = window.height := by
  have tried : ∀ change, ((tryWorld change).apply window).2.width = window.width ∧
      ((tryWorld change).apply window).2.height = window.height := by
    intro change
    rw [tryWorld, Act.apply_change]
    cases change window.world <;> exact ⟨rfl, rfl⟩
  cases operation with
  | move =>
      change (Window.move.apply window).2.width = _ ∧ (Window.move.apply window).2.height = _
      rcases apply_move window with ⟨front, -, -, moved⟩ | ⟨refusal, -, moved⟩ <;> rw [moved] <;>
        exact ⟨rfl, rfl⟩
  | pick => exact tried World.pick
  | put => exact tried World.put
  | resize width height => exact absurd rfl (fixed width height)
  | turnLeft | turnRight | setTileAhead _ | setBeepersHere _ | setBag _ | setLookahead _ |
    recenter => exact ⟨rfl, rfl⟩

theorem Addressable.after (addressable : window.Addressable) {operation : Operation}
    (fixed : ∀ width height, operation ≠ .resize width height) :
    (window.after operation).Addressable := by
  obtain ⟨width, height⟩ := window.size_after fixed
  exact ⟨by rw [width]; exact addressable.width_le, by rw [height]; exact addressable.height_le⟩

end Karel.Window
