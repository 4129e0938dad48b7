import Karel.Drivable
import Karel.Session.Basic

/-!
# Commands

What can be told to a session apart from programs and keys. Each command names how much of the
screen it changes; a question changes nothing. A program that drives a session goes on after a
refused command, because the user has already been told.
-/

namespace Karel.Session

open Console

variable {σ : Type} [Screen σ]

/-- Does something in the world that is never refused. -/
def executeAlways (label : String) (changes : Redraw) (change : World → World) : Command σ Unit :=
  execute label changes (.update (·.mapWorld change))

/-- Asks something about the world. -/
def query (label : String) (question : World → Bool) : Command σ Bool :=
  execute label .nothing (.ask fun window => question window.world)

/-- Karel moves ahead. -/
def move : Command σ Unit := execute "MOVE" .moved Window.move

/-- Karel turns anti-clockwise. -/
def turnLeft : Command σ Unit := executeAlways "LEFT" .robot World.turnLeft

/-- Karel turns clockwise. -/
def turnRight : Command σ Unit := executeAlways "RIGHT" .robot World.turnRight

/-- Karel picks a beeper. -/
def pick : Command σ Unit := execute "TAKE" .robot (Window.tryWorld World.pick)

/-- Karel puts a beeper. -/
def put : Command σ Unit := execute "PUT" .robot (Window.tryWorld World.put)

/-- Whether Karel can not move on. -/
def frontIsBlocked : Command σ Bool := query "IF_WALL" World.frontIsBlocked

/-- Whether Karel faces a treasure. -/
def frontIsTreasure : Command σ Bool := query "IF_GOLD" World.frontIsTreasure

/-- Whether Karel stands on beepers. -/
def beeperIsPresent : Command σ Bool := query "IF_MARK" World.beeperIsPresent

/-- The label of the question whether Karel faces a direction. -/
def facingLabel : Direction → String
  | .north => "IF_NORTH"
  | .east => "IF_EAST"
  | .south => "IF_SOUTH"
  | .west => "IF_WEST"

/-- Whether Karel faces a direction. -/
def isFacing (direction : Direction) : Command σ Bool :=
  query (facingLabel direction) fun world => world.isFacing direction

/-- Exchanges Karel's bag. -/
def setBag (bag : Bag) : Command σ Unit :=
  executeAlways "BAG" .nothing fun world => world.setBag bag

/-- Replaces the tile Karel faces. -/
def setTileAhead (tile : Tile) : Command σ Unit :=
  executeAlways s!"SET {tile.glyph}" .everything fun world => world.setTileAhead tile

/-- Leaves so many beepers on Karel's cell. -/
def setBeepersHere (count : BeeperCount) : Command σ Unit :=
  executeAlways s!"SET{count.toNat}" .robot fun world => world.setBeepersHere count

/-- Changes the speed. Without a positive speed there is no delay. -/
def setSpeed (speed : Option Float) : Command σ Unit :=
  .update fun session => { session with
    settings := { session.settings with speed := SessionSettings.effectiveSpeed speed } }

/-- Goes on to the next verbosity and gives the one before. -/
def toggleVerbosity : Command σ Verbosity := do
  let old ← Act.ask fun session => session.settings.verbosity
  Act.update fun session => { session with
    settings := { session.settings with verbosity := old.next } }
  display do
    let row ← Act.ask statusRow
    onScreen (Screen.message row "" .status)
    showStatus "TOGGLE"
    onScreen Screen.present
  pure old

/-- Shows a text on the message line. -/
def message (text : String) (style : MessageStyle) : Command σ Unit :=
  display (showMessage text style)

/-- Says that the program is complete and waits for a key. -/
def complete : Command σ Unit := display do
  showMessage "Program Complete! Press any key to exit" .complete
  let _ ← onScreen (Screen.nextKey none)

/-- A length, cut to the size of an axis that has one. -/
def cutTo (length : Coordinate) : Option Coordinate → Coordinate
  | some size => min length size
  | none => length

/-- Fits the window to the screen as it is now, but makes it no larger than the world. -/
def resize : Command σ Unit := do
  let size ← display (onScreen Screen.size)
  let bounds ← Act.ask fun session => session.window.world.grid.bounds
  let width := cutTo (.ofNat size.columns.toNat) bounds.width
  let height := cutTo (.ofNat size.rows.toNat - 2) bounds.height
  if width < 1 ∨ height < 1 then
    throw (.display (.tooSmall size ⟨1, 3⟩))
  Act.update fun session => { session with window := session.window.resize width height }
  display (onScreen Screen.clear)
  execute "RESIZE" .everything (pure ())

/-- Goes on after a refusal. -/
def ignoreRefusal (command : Command σ Unit) : Command σ Unit := do
  match ← command.attempt with
  | .ok value => pure value
  | .error (.refused _) => pure ()
  | .error fault => throw fault

instance : Drivable (Session σ) SessionFault where
  move := ignoreRefusal move
  turnLeft := ignoreRefusal turnLeft
  turnRight := ignoreRefusal turnRight
  pick := ignoreRefusal pick
  put := ignoreRefusal put
  frontIsBlocked := frontIsBlocked
  frontIsTreasure := frontIsTreasure
  beeperIsPresent := beeperIsPresent
  isFacing := isFacing

end Karel.Session
