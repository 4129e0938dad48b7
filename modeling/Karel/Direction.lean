/-!
# Directions

The four ways Karel can face. Turning four times the same way comes back to the start, and a left
turn undoes a right turn.
-/

namespace Karel

/-- One of the four compass points. -/
inductive Direction
  | east
  | north
  | west
  | south
deriving DecidableEq

namespace Direction

/-- All directions, in the order of turning left from east. -/
def all : List Direction := [east, north, west, south]

/-- The direction a quarter turn anti-clockwise. -/
def left : Direction → Direction
  | east => north
  | north => west
  | west => south
  | south => east

/-- The direction a quarter turn clockwise. -/
def right : Direction → Direction
  | east => south
  | south => west
  | west => north
  | north => east

/-- The direction a half turn away. -/
def opposite (direction : Direction) : Direction :=
  direction.left.left

/-- The character that shows Karel facing this way: the tip of an arrow. -/
def glyph : Direction → Char
  | east => '>'
  | north => '^'
  | west => '<'
  | south => 'v'

/-- The direction whose arrow tip a character is. -/
def ofGlyph? : Char → Option Direction
  | '>' => some east
  | '^' => some north
  | '<' => some west
  | 'v' => some south
  | _ => none

/-- The name of the compass point. -/
def name : Direction → String
  | east => "East"
  | north => "North"
  | west => "West"
  | south => "South"

/-- Reading a glyph back gives the direction it was written for, and no other character is read. -/
theorem ofGlyph?_eq_some_iff {character : Char} {direction : Direction} :
    ofGlyph? character = some direction ↔ character = direction.glyph := by
  constructor
  · intro read
    unfold ofGlyph? at read
    split at read <;> cases read <;> rfl
  · rintro rfl
    cases direction <;> rfl

@[simp]
theorem left_right (direction : Direction) : direction.left.right = direction := by
  cases direction <;> rfl

@[simp]
theorem right_left (direction : Direction) : direction.right.left = direction := by
  cases direction <;> rfl

@[simp]
theorem opposite_opposite (direction : Direction) : direction.opposite.opposite = direction := by
  cases direction <;> rfl

end Direction

end Karel
