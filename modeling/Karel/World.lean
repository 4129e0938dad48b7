import Karel.Grid
import Karel.Robot

/-!
# Worlds

A world is a grid with Karel on it. Every operation checks what it needs first: a refused operation
gives the reason as a `Refusal` and no new world, so nothing can have changed.
-/

namespace Karel

/-- Why the world refuses what Karel is told to do. -/
inductive Refusal
  /-- The cell in front can not be entered. -/
  | blocked (position : Point) (facing : Direction) (tile : Tile)
  /-- There is nothing to pick on Karel's cell. -/
  | noBeeperHere (position : Point) (tile : Tile)
  /-- The bag is empty. -/
  | bagEmpty
  /-- Karel can not start on this cell. -/
  | noStandingOn (position : Point) (tile : Tile)
deriving DecidableEq

/-- The wording of a refusal. -/
def Refusal.message : Refusal → String
  | blocked position facing tile =>
    s!"Can't move. Karel is blocked by {tile.name} at {position.text} facing {facing.glyph}."
  | noBeeperHere position tile => s!"Can't pick beeper from {tile.name} at {position.text}."
  | bagEmpty => "Can't put beeper. Karel has none!"
  | noStandingOn position tile => s!"Karel can not stand on {tile.name} at {position.text}."

/-- Karel on a grid. -/
structure World where
  robot : Robot
  grid : Grid

namespace World

/-- Puts Karel on a grid, unless something stands in its place. -/
def place (robot : Robot) (grid : Grid) : Except Refusal World :=
  let tile := grid.get robot.position
  if tile.isBlocking then .error (.noStandingOn robot.position tile) else .ok ⟨robot, grid⟩

/-- The world without tiles, with Karel at the origin. -/
def empty (bounds : Bounds) : Except Refusal World :=
  place .initial (.empty bounds)

/-- The tile of a cell. -/
def tile (world : World) (point : Point) : Tile := world.grid.get point

/-- The tile Karel stands on. -/
def tileHere (world : World) : Tile := world.tile world.robot.position

/-- The tile Karel faces. The edge of the plane is a wall like any border. -/
def tileAhead (world : World) : Tile :=
  match world.robot.front? with
  | some point => world.tile point
  | none => .wall

/-- Whether Karel can not move on. -/
def frontIsBlocked (world : World) : Bool := world.tileAhead.isBlocking

/-- Whether Karel faces a treasure. -/
def frontIsTreasure (world : World) : Bool := world.tileAhead == .treasure

/-- Whether Karel stands on beepers. -/
def beeperIsPresent (world : World) : Bool := world.tileHere.hasBeepers

/-- Whether Karel faces the given way. -/
def isFacing (world : World) (direction : Direction) : Bool := world.robot.facing == direction

/-- Karel moves one cell ahead. -/
def move (world : World) : Except Refusal World :=
  if world.tileAhead.isBlocking then
    .error (.blocked world.robot.position world.robot.facing world.tileAhead)
  else
    .ok { world with robot := world.robot.advance }

/-- Karel turns anti-clockwise. -/
def turnLeft (world : World) : World := { world with robot := world.robot.turnLeft }

/-- Karel turns clockwise. -/
def turnRight (world : World) : World := { world with robot := world.robot.turnRight }

/-- Karel picks one beeper from its cell. -/
def pick (world : World) : Except Refusal World :=
  match world.tileHere with
  | .beepers pile => .ok {
      robot := world.robot.gainBeeper
      grid := world.grid.set world.robot.position (.ofCount (pile.count - 1)) }
  | tile => .error (.noBeeperHere world.robot.position tile)

/-- Karel puts one beeper on its cell. -/
def put (world : World) : Except Refusal World :=
  match world.robot.spendBeeper? with
  | none => .error .bagEmpty
  | some robot => .ok {
      robot := robot
      grid := world.grid.set world.robot.position world.tileHere.withBeeper }

/-- Exchanges Karel's bag. -/
def setBag (world : World) (bag : Bag) : World :=
  { world with robot := { world.robot with bag := bag } }

/-- Replaces the tile Karel faces. Beyond a border nothing changes. -/
def setTileAhead (world : World) (tile : Tile) : World :=
  match world.robot.front? with
  | some point => { world with grid := world.grid.set point tile }
  | none => world

/-- Leaves so many beepers on Karel's cell. -/
def setBeepersHere (world : World) (count : BeeperCount) : World :=
  { world with grid := world.grid.set world.robot.position (.ofCount count) }

end World

end Karel
