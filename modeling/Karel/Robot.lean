import Karel.Beepers
import Karel.Point

/-!
# Karel

The robot's own state: where it stands, which way it faces and what it carries. Whether a cell can
be entered or holds beepers is not its business but that of the world it stands in.
-/

namespace Karel

/-- Karel, apart from its surroundings. -/
structure Robot where
  position : Point
  facing : Direction
  bag : Bag
deriving DecidableEq

namespace Robot

/-- Karel at the origin, facing east, with a bottomless bag. -/
def initial : Robot := ⟨.origin, .east, .unlimited⟩

/-- The cell in front of Karel; there is none at the edge of the plane. -/
def front? (robot : Robot) : Option Point :=
  robot.position.add? robot.facing.step

/-- Karel after a quarter turn anti-clockwise. -/
def turnLeft (robot : Robot) : Robot := { robot with facing := robot.facing.left }

/-- Karel after a quarter turn clockwise. -/
def turnRight (robot : Robot) : Robot := { robot with facing := robot.facing.right }

/-- Karel one cell further ahead. At the edge of the plane it stays. -/
def advance (robot : Robot) : Robot := { robot with position := robot.front?.getD robot.position }

/-- Karel with one beeper more. -/
def gainBeeper (robot : Robot) : Robot := { robot with bag := robot.bag.gain }

/-- Karel with one beeper less, unless its bag is empty. -/
def spendBeeper? (robot : Robot) : Option Robot :=
  robot.bag.spend?.map fun bag => { robot with bag := bag }

end Robot

end Karel
