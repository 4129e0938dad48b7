import Karel.Act
import Karel.World

/-!
# Windows

A window shows a rectangle of fixed size of the world and slides along with Karel. It keeps some
cells visible ahead of Karel, as far as its size allows, and never slides past a border. Two rules
place it: `Window.move` slides it by one cell when Karel walks into the margin, and
`Window.recenter` computes its place anew, moving it no further than it must.
-/

namespace Karel

/-- The size of a window and the number of cells it keeps visible ahead of Karel. -/
structure WindowSettings where
  width : Coordinate
  height : Coordinate
  lookahead : Coordinate
deriving DecidableEq

/-- The window of a usual terminal. -/
def WindowSettings.standard : WindowSettings := ⟨40, 20, 1⟩

/-- The part of a world that is shown. -/
structure Window where
  world : World
  width : Coordinate
  height : Coordinate
  /-- The number of cells to keep visible ahead, before the size limits it. -/
  margin : Coordinate
  /-- The top left cell that is shown. -/
  corner : Point
  /-- Whether the last move made the window slide. -/
  scrolled : Bool

/-- A position that is more than one cell outside a window. -/
structure OutOfView where
  position : Point
  width : Coordinate
  height : Coordinate
deriving DecidableEq

/-- The wording of the failure. -/
def OutOfView.message (failure : OutOfView) : String :=
  s!"view accessed beyond the boundary at {failure.position.text}" ++
    s!" of a {failure.width.toInt}x{failure.height.toInt} view"

namespace Window

/-- The number of cells kept visible ahead on an axis: Karel's own cell fits between the margins. -/
def axisLookahead (margin size : Coordinate) : Coordinate :=
  min margin ((size - 1) / 2)

/-- The start of the window on one axis: as near to the current start as the margins around Karel
allow, and then inside the borders, which count more than the margins. -/
def axisStart (position current : Coordinate) (bound : Option Coordinate)
    (size lookahead : Coordinate) : Coordinate :=
  let relative := Coordinate.subClamped position current
  let start :=
    if relative < lookahead then Coordinate.subClamped position lookahead
    else if relative > size - 1 - lookahead then
      Coordinate.subClamped position (size - 1 - lookahead)
    else current
  match bound with
  | some bound => max 0 (min start (max (bound - size) 0))
  | none => start

/-- The cells kept visible ahead on each axis. -/
def lookahead (window : Window) : Point :=
  ⟨axisLookahead window.margin window.width, axisLookahead window.margin window.height⟩

/-- Computes the place of the window anew, moving it as little as possible. -/
def recenter (window : Window) : Window :=
  let position := window.world.robot.position
  let bounds := window.world.grid.bounds
  { window with corner := {
      x := axisStart position.x window.corner.x bounds.width window.width window.lookahead.x
      y := axisStart position.y window.corner.y bounds.height window.height window.lookahead.y } }

/-- Changes the size, to at least one cell, and places the window anew. -/
def resize (window : Window) (width height : Coordinate) : Window :=
  { window with width := max width 1, height := max height 1 }.recenter

/-- Changes the number of cells to keep visible ahead and places the window anew. -/
def setLookahead (window : Window) (lookahead : Coordinate) : Window :=
  { window with margin := max lookahead 0 }.recenter

/-- Opens a window on a world. -/
def onWorld (world : World) (settings : WindowSettings) : Window :=
  resize ⟨world, 1, 1, max settings.lookahead 0, .origin, false⟩ settings.width settings.height

/-- Karel's place, counted from the top left cell of the window. -/
def robotPosition (window : Window) : Point :=
  window.world.robot.position - window.corner

/-- Whether the window's side in a direction has reached a border of the world. -/
def borderVisible (window : Window) (direction : Direction) : Bool :=
  let bounds := window.world.grid.bounds
  match direction with
  | .west => bounds.width.isSome && decide (window.corner.x ≤ 0)
  | .north => bounds.height.isSome && decide (window.corner.y ≤ 0)
  | .east => bounds.width.any fun width => decide (window.corner.x + window.width ≥ width)
  | .south => bounds.height.any fun height => decide (window.corner.y + window.height ≥ height)

/-- Whether Karel stands in the margin on the side it faces. -/
def lookaheadReached (window : Window) : Bool :=
  let relative := window.robotPosition
  let lookahead := window.lookahead
  match window.world.robot.facing with
  | .west => decide (relative.x ≤ lookahead.x)
  | .east => decide (relative.x ≥ window.width - lookahead.x - 1)
  | .north => decide (relative.y ≤ lookahead.y)
  | .south => decide (relative.y ≥ window.height - lookahead.y - 1)

/-- Karel moves ahead, and the window slides along by one cell if Karel stood in the margin. After
a refused move everything is in place, and the window counts as not slid. -/
def move : Act Window Refusal Unit := .ofFunction fun window =>
  match window.world.move with
  | .error refusal => (.error refusal, { window with scrolled := false })
  | .ok world =>
    let facing := window.world.robot.facing
    if !window.borderVisible facing && window.lookaheadReached then
      (.ok (), { window with
        world := world
        corner := window.corner.addClamped facing.step
        scrolled := true })
    else
      (.ok (), { window with world := world, scrolled := false })

/-- Lets something happen in the world behind the window. -/
def mapWorld (window : Window) (change : World → World) : Window :=
  { window with world := change window.world }

/-- Lets something happen in the world behind the window that may be refused. -/
def tryWorld (change : World → Except Refusal World) : Act Window Refusal Unit :=
  .change fun window => (change window.world).map fun world => { window with world := world }

/-- Whether a place counted from the window's top left cell is in the window or next to it. -/
def isNear (window : Window) (position : Point) : Bool :=
  decide (-1 ≤ position.x ∧ position.x ≤ window.width ∧
    -1 ≤ position.y ∧ position.y ≤ window.height)

/-- The failure to reach a position through the window. -/
def outOfView (window : Window) (position : Point) : OutOfView :=
  ⟨position, window.width, window.height⟩

/-- The cell of the world at a place of the window. One cell around the window can be asked for
too; places off the plane have no cell. -/
def toAbsolute (window : Window) (position : Point) : Except OutOfView Point :=
  if window.isNear position then
    match window.corner.add? position with
    | some point => .ok point
    | none => .error (window.outOfView position)
  else
    .error (window.outOfView position)

/-- The place in the window of a cell of the world, up to one cell around the window. -/
def toRelative (window : Window) (point : Point) : Except OutOfView Point :=
  match point.sub? window.corner with
  | none => .error (window.outOfView point)
  | some position =>
    if window.isNear position then .ok position else .error (window.outOfView position)

/-- The tile at a place of the window, up to one cell around it. Off the plane there is a wall. -/
def tileAt (window : Window) (position : Point) : Except OutOfView Tile :=
  if window.isNear position then
    match window.corner.add? position with
    | some point => .ok (window.world.tile point)
    | none => .ok .wall
  else
    .error (window.outOfView position)

end Window

end Karel
