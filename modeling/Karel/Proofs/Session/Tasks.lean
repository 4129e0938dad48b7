import Karel.Session.Keyboard
import Karel.Session.Running

/-!
# Tasks

All that a session can be told, in one type: the commands, the settings, the messages, whole programs
and interactive mode. A statement about every sequence of tasks is one about all uses of a session.
-/

namespace Karel.Session

open Console

/-- Something that a session can be told. -/
inductive Task
  | move
  | turnLeft
  | turnRight
  | pick
  | put
  | frontIsBlocked
  | frontIsTreasure
  | beeperIsPresent
  | isFacing (direction : Direction)
  | setBag (bag : Bag)
  | setTileAhead (tile : Tile)
  | setBeepersHere (count : BeeperCount)
  | setSpeed (speed : Option Float)
  | toggleVerbosity
  | message (text : String) (style : MessageStyle)
  | pause
  | complete
  | save (path : Option String)
  | resize
  /-- At most so many steps of a program. -/
  | runProgram (program : Program) (steps : Nat)
  /-- Interactive mode, for at most so many keys. -/
  | interactive (keys : Nat)

variable {σ : Type} [Screen σ]

/-- What the session does, without the answer that it may give. -/
def Task.act : Task → Command σ Unit
  | move => Session.move
  | turnLeft => Session.turnLeft
  | turnRight => Session.turnRight
  | pick => Session.pick
  | put => Session.put
  | frontIsBlocked => do let _ ← Session.frontIsBlocked
  | frontIsTreasure => do let _ ← Session.frontIsTreasure
  | beeperIsPresent => do let _ ← Session.beeperIsPresent
  | isFacing direction => do let _ ← Session.isFacing direction
  | setBag bag => Session.setBag bag
  | setTileAhead tile => Session.setTileAhead tile
  | setBeepersHere count => Session.setBeepersHere count
  | setSpeed speed => Session.setSpeed speed
  | toggleVerbosity => do let _ ← Session.toggleVerbosity
  | message text style => Session.message text style
  | pause => Session.pause
  | complete => Session.complete
  | save path => do let _ ← Session.save path
  | resize => Session.resize
  | runProgram program steps => do let _ ← Session.runProgram program steps
  | interactive keys => do let _ ← Session.interactive keys

end Karel.Session
