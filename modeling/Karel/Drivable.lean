import Karel.Window

/-!
# What a program can drive

A program tells Karel to do something and asks it questions, without knowing whether Karel stands in
a bare world, behind a window or on a screen with somebody watching. `Drivable` is what it needs.
-/

namespace Karel

/-- A state in which Karel can be told what to do. Every act may fail with a cause of the state's
own kind. -/
class Drivable (σ : Type) (ε : outParam Type) where
  move : Act σ ε Unit
  turnLeft : Act σ ε Unit
  turnRight : Act σ ε Unit
  pick : Act σ ε Unit
  put : Act σ ε Unit
  frontIsBlocked : Act σ ε Bool
  frontIsTreasure : Act σ ε Bool
  beeperIsPresent : Act σ ε Bool
  isFacing : Direction → Act σ ε Bool

instance : Drivable World Refusal where
  move := .change World.move
  turnLeft := .update World.turnLeft
  turnRight := .update World.turnRight
  pick := .change World.pick
  put := .change World.put
  frontIsBlocked := .ask World.frontIsBlocked
  frontIsTreasure := .ask World.frontIsTreasure
  beeperIsPresent := .ask World.beeperIsPresent
  isFacing direction := .ask fun world => world.isFacing direction

instance : Drivable Window Refusal where
  move := Window.move
  turnLeft := .update (·.mapWorld World.turnLeft)
  turnRight := .update (·.mapWorld World.turnRight)
  pick := Window.tryWorld World.pick
  put := Window.tryWorld World.put
  frontIsBlocked := .ask (·.world.frontIsBlocked)
  frontIsTreasure := .ask (·.world.frontIsTreasure)
  beeperIsPresent := .ask (·.world.beeperIsPresent)
  isFacing direction := .ask fun window => window.world.isFacing direction

end Karel
