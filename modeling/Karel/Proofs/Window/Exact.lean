import Karel.Proofs.Window.Reachable

/-!
# Nothing wraps around

The rules of a window use plain sums and differences of coordinates. Here each of them is checked:
the functions with a question mark are the rules again, and give nothing if a sum or a difference
leaves the range. `Window.Exact` says that they never do so, whatever place the window is moved from.
-/

namespace Karel.Window

open Coordinate

/-- The cells kept visible ahead on an axis. -/
def axisLookahead? (margin size : Coordinate) : Option Coordinate := do
  let last ← sub? size 1
  return min margin (last / 2)

/-- The start of the window on one axis. The margin after Karel is measured even where the rule does
not look at it. -/
def axisStart? (position current : Coordinate) (bound : Option Coordinate)
    (size lookahead : Coordinate) : Option Coordinate := do
  let relative := subClamped position current
  let last ← sub? size 1
  let farthest ← sub? last lookahead
  let start :=
    if relative < lookahead then subClamped position lookahead
    else if relative > farthest then subClamped position farthest
    else current
  match bound with
  | some bound => do
    let room ← sub? bound size
    return max 0 (min start (max room 0))
  | none => return start

/-- The cells kept visible ahead on each axis. -/
def lookahead? (window : Window) : Option Point := do
  let x ← axisLookahead? window.margin window.width
  let y ← axisLookahead? window.margin window.height
  return ⟨x, y⟩

/-- Computes the place of the window anew. -/
def recenter? (window : Window) : Option Window := do
  let position := window.world.robot.position
  let bounds := window.world.grid.bounds
  let lookahead ← window.lookahead?
  let x ← axisStart? position.x window.corner.x bounds.width window.width lookahead.x
  let y ← axisStart? position.y window.corner.y bounds.height window.height lookahead.y
  return { window with corner := ⟨x, y⟩ }

/-- Karel's place, counted from the top left cell of the window. -/
def robotPosition? (window : Window) : Option Point :=
  window.world.robot.position.sub? window.corner

/-- Whether a border after the last coordinate in view is visible. -/
def axisEndVisible? (start size : Coordinate) : Option Coordinate → Option Bool
  | some bound => do
    let last ← add? start size
    return decide (last ≥ bound)
  | none => some false

/-- Whether the window's side in a direction has reached a border of the world. -/
def borderVisible? (window : Window) (direction : Direction) : Option Bool :=
  let bounds := window.world.grid.bounds
  match direction with
  | .west => some (bounds.width.isSome && decide (window.corner.x ≤ 0))
  | .north => some (bounds.height.isSome && decide (window.corner.y ≤ 0))
  | .east => axisEndVisible? window.corner.x window.width bounds.width
  | .south => axisEndVisible? window.corner.y window.height bounds.height

/-- Whether Karel stands in the margin on the side it faces. -/
def lookaheadReached? (window : Window) : Option Bool := do
  let relative ← window.robotPosition?
  let lookahead ← window.lookahead?
  match window.world.robot.facing with
  | .west => return decide (relative.x ≤ lookahead.x)
  | .east => do
    let gap ← sub? window.width lookahead.x
    let farthest ← sub? gap 1
    return decide (relative.x ≥ farthest)
  | .north => return decide (relative.y ≤ lookahead.y)
  | .south => do
    let gap ← sub? window.height lookahead.y
    let farthest ← sub? gap 1
    return decide (relative.y ≥ farthest)

/-- No sum and no difference that the window computes leaves the range of a coordinate. -/
structure Exact (window : Window) : Prop where
  lookahead : window.lookahead? = some window.lookahead
  recenter : ∀ corner, recenter? { window with corner := corner } =
    some { window with corner := corner }.recenter
  robotPosition : window.robotPosition? = some window.robotPosition
  borderVisible : ∀ direction,
    window.borderVisible? direction = some (window.borderVisible direction)
  lookaheadReached : window.lookaheadReached? = some window.lookaheadReached

section

variable {position start size lookahead margin : Coordinate} {bound : Option Coordinate}

theorem axisLookahead?_eq (size_pos : 1 ≤ size.toInt) :
    axisLookahead? margin size = some (axisLookahead margin size) := by
  have last := sub?_eq_sub (toInt_size_sub_one size_pos)
  simp [axisLookahead?, axisLookahead, last]

theorem axisStart?_eq (sound : (Axis.ofWords position start bound size lookahead).Sound) :
    axisStart? position start bound size lookahead =
      some (axisStart position start bound size lookahead) := by
  obtain ⟨size_pos, -, -⟩ := margins_of_sound sound
  have pred := toInt_size_sub_one size_pos
  have farthest := toInt_farthest sound
  rw [← pred] at farthest
  cases bound with
  | none => simp [axisStart?, axisStart, sub?_eq_sub pred, sub?_eq_sub farthest]
  | some bound =>
    simp [axisStart?, axisStart, sub?_eq_sub pred, sub?_eq_sub farthest,
      sub?_eq_sub (toInt_room sound rfl)]

theorem axisEndVisible?_eq (framed : (Axis.ofWords position start bound size lookahead).Framed) :
    axisEndVisible? start size bound =
      some (bound.any fun last => decide (start + size ≥ last)) := by
  cases bound with
  | none => rfl
  | some bound => simp [axisEndVisible?, add?_eq_add (toInt_end framed rfl)]

end

variable {window : Window}

theorem lookahead?_eq (sound : window.Sound) : window.lookahead? = some window.lookahead := by
  have columns : axisLookahead? window.margin window.width = _ :=
    axisLookahead?_eq sound.horizontal.size_pos
  have rows : axisLookahead? window.margin window.height = _ :=
    axisLookahead?_eq sound.vertical.size_pos
  simp [lookahead?, lookahead, columns, rows]

/-- Placing a sound window anew is exact. -/
theorem recenter?_eq (sound : window.Sound) : window.recenter? = some window.recenter := by
  have columns := axisStart?_eq sound.horizontal
  have rows := axisStart?_eq sound.vertical
  simp [recenter?, recenter, lookahead?_eq sound, columns, rows]

theorem robotPosition?_eq (framed : window.Framed) :
    window.robotPosition? = some window.robotPosition := by
  have columns := sub?_eq_sub (toInt_relative framed.horizontal)
  have rows := sub?_eq_sub (toInt_relative framed.vertical)
  change Point.sub? _ _ = some ⟨_, _⟩
  simp [Point.sub?, columns, rows]

theorem borderVisible?_eq (framed : window.Framed) (direction : Direction) :
    window.borderVisible? direction = some (window.borderVisible direction) := by
  cases direction with
  | east => exact axisEndVisible?_eq framed.horizontal
  | north => rfl
  | west => rfl
  | south => exact axisEndVisible?_eq framed.vertical

theorem lookaheadReached?_eq (framed : window.Framed) :
    window.lookaheadReached? = some window.lookaheadReached := by
  have relative := robotPosition?_eq framed
  have lookahead := lookahead?_eq framed.sound
  unfold lookaheadReached? lookaheadReached
  rw [relative, lookahead]
  cases window.world.robot.facing with
  | east =>
    have gap := sub?_eq_sub (toInt_size_sub_lookahead framed.sound.horizontal)
    have reach := sub?_eq_sub (toInt_reach framed.sound.horizontal)
    simp [gap, reach]
  | north => rfl
  | west => rfl
  | south =>
    have gap := sub?_eq_sub (toInt_size_sub_lookahead framed.sound.vertical)
    have reach := sub?_eq_sub (toInt_reach framed.sound.vertical)
    simp [gap, reach]

/-- A window that frames Karel computes exactly. -/
theorem Framed.exact (framed : window.Framed) : window.Exact where
  lookahead := lookahead?_eq framed.sound
  recenter _ := recenter?_eq
    ⟨framed.horizontal.toSound.withStart _, framed.vertical.toSound.withStart _⟩
  robotPosition := robotPosition?_eq framed
  borderVisible := borderVisible?_eq framed
  lookaheadReached := lookaheadReached?_eq framed

/-- Whatever is done with a window, it keeps Karel in sight and between its margins, except where
the plane ends, and it never computes anything that leaves the range of a coordinate. -/
theorem Reachable.framed_and_exact (reachable : window.Reachable) :
    window.Framed ∧ window.Exact :=
  ⟨reachable.framed, reachable.framed.exact⟩

/-- Karel has moved from the corner in a window that is smaller than the plane. -/
theorem Reachable.framed_and_exact_corner :
    (cornerWindow.after .move).Framed ∧ (cornerWindow.after .move).Exact :=
  (reachable_cornerWindow.after .move).framed_and_exact

end Karel.Window
