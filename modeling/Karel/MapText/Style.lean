import Karel.Robot
import Karel.Text.Blank
import Karel.Text.Numeral
import Karel.Tile

/-!
# Styles of map text

A map is written in one of two styles. A picture has one character for each cell and shows Karel by
the tip of an arrow. A table starts with a header line for Karel and then has one word for each
cell, so that it can tell large piles and piles under Karel. This module says which tile each
word or character stands for, and which faults a map can have.
-/

namespace Karel.MapText

/-- The two ways to write a map. -/
inductive Style
  | picture
  | table
deriving DecidableEq

/-- The last part of a path that is a name. Slashes at the end do not count, nor do parts that only
say to stay. -/
def fileName? (path : List Char) : Option (List Char) :=
  ((path.splitOn '/').filter fun part => !part.isEmpty && part != ['.']).getLast?

/-- What follows the last point of a file name. A point at the start is part of the name, and a name
of two points has no ending. -/
def ending? (name : List Char) : Option (List Char) :=
  let ending := (name.reverse.takeWhile (· != '.')).reverse
  let stem := name.take (name.length - ending.length - 1)
  if name = ['.', '.'] ∨ stem.isEmpty then none else some ending

/-- The style of the map in a file: files whose names end in `.km2` are tables. -/
def Style.ofPath (path : String) : Style :=
  if (fileName? path.toList).bind ending? = some ['k', 'm', '2'] then table else picture

/-- What is wrong with the header line of a table. -/
inductive HeaderFault
  | fieldCount
  | keyword (found : String)
  | column
  | row
  | direction
  | bag
deriving DecidableEq

/-- The wording of a fault in the header line. -/
def HeaderFault.message : HeaderFault → String
  | fieldCount => "expected five fields"
  | keyword found => s!"Karel not set ({found} != KAREL)"
  | column => "X is not an integer"
  | row => "Y is not an integer"
  | direction => "direction is not one of > ^ < v"
  | bag => "beepers is not a count or N"

/-- What is wrong with a map. Lines and columns are counted from one. -/
inductive Fault
  /-- There is no row. -/
  | empty
  | header (line : Nat) (fault : HeaderFault)
  /-- A row is not as long as the first one. -/
  | ragged (line expected found : Nat)
  | invalidToken (line column : Nat) (token : String)
  /-- Karel is shown a second time. -/
  | duplicateRobot (line column : Nat) (first : Point)
  | missingRobot
deriving DecidableEq

/-- The wording of a fault. -/
def Fault.message : Fault → String
  | empty => "Map is empty!"
  | header line fault =>
    s!"line {line}: map header not in form 'KAREL X Y > B' ({fault.message})"
  | ragged line expected found =>
    s!"line {line}: Karel map must be a rectangle (expected {expected} columns, found {found})"
  | invalidToken line column token => s!"line {line}: invalid token '{token}' in column {column}"
  | duplicateRobot line column first =>
    s!"line {line}: Karel in column {column} is already on {first.text}"
  | missingRobot => "Karel must be placed on the map!"

/-- What one cell of a map shows. -/
inductive Mark
  | robot (facing : Direction)
  | tile (tile : Tile)
deriving DecidableEq

/-- The tile that stands for itself in both styles. -/
def plainTile? : List Char → Option Tile
  | ['.'] | ['0'] => some .empty
  | ['#'] => some .wall
  | ['$'] => some .treasure
  | _ => none

/-- The pile a number stands for, which must be a positive count. -/
def pile? (number : Option Nat) : Option Tile := do
  let value ← number
  if 0 < value ∧ value < UInt32.size then return .ofCount (.ofNat value) else none

/-- The mark a cell of a picture shows: Karel, or a tile with up to nine beepers. -/
def pictureMark? (token : List Char) : Option Mark :=
  match token with
  | [character] =>
    match Direction.ofGlyph? character with
    | some facing => some (.robot facing)
    | none => (plainTile? token <|> pile? (Text.Numeral.natural? token)).map .tile
  | _ => none

/-- The mark a cell of a table shows: a tile, with its number of beepers in digits. -/
def tableMark? (token : List Char) : Option Mark :=
  (plainTile? token <|> pile? (Text.Numeral.natural? token)).map .tile

/-- The mark a cell shows in a style. -/
def Style.mark? : Style → List Char → Option Mark
  | picture => pictureMark?
  | table => tableMark?

/-- The cells of a line in a style. -/
def Style.cells : Style → List Char → List (List Char)
  | picture, line => (Text.trim line).map ([·])
  | table, line => Text.words line

end Karel.MapText
