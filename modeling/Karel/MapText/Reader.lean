import Karel.MapText.Style
import Karel.World

/-!
# Reading maps

Blank lines are skipped, but counted. All rows must have the length of the first one; within a row
the leftmost fault is reported. Karel comes from the header of a table or from the one arrow of a
picture. A caller may bring a robot of its own; then header and arrows still have to be well formed,
but do not place Karel, and a picture may have any number of arrows.
-/

namespace Karel.MapText

/-- What a map tells: Karel, the tiles and the size of the rectangle. -/
structure Scene where
  robot : Robot
  grid : Grid
  width : Coordinate
  height : Coordinate

/-- Puts Karel on the map. -/
def Scene.place (scene : Scene) : Except Refusal World := World.place scene.robot scene.grid

/-- A line with its number in the text. -/
structure NumberedLine where
  number : Nat
  content : List Char

/-- The lines of a text that are not blank, with their numbers. -/
def contentLines (text : List Char) : List NumberedLine :=
  ((Text.lines text).zipIdx 1).filterMap fun (line, number) =>
    if line.all Text.isBlank then none else some ⟨number, line⟩

/-- Reads a whole number in the range of a coordinate. -/
def coordinate? (field : List Char) : Option Coordinate :=
  Text.Numeral.integer? field >>= Coordinate.ofInt?

/-- Reads the direction of a header, an arrow tip. -/
def direction? : List Char → Option Direction
  | [character] => Direction.ofGlyph? character
  | _ => none

/-- Reads the bag of a header: a count, or `N` for a bottomless bag. -/
def bag? (field : List Char) : Option Bag :=
  if field = ['N'] ∨ field = ['n'] then
    some .unlimited
  else do
    let value ← Text.Numeral.unsigned? field
    if value < UInt32.size then return .counted (.ofNat value) else none

/-- Reads the header `KAREL X Y > B` of a table. The first bad field is reported. -/
def readHeader (line : List Char) : Except HeaderFault Robot :=
  match Text.words line with
  | [keyword, x, y, direction, bag] =>
    if keyword.map Char.toLower ≠ ['k', 'a', 'r', 'e', 'l'] then
      .error (.keyword (String.ofList keyword))
    else
      match coordinate? x, coordinate? y, direction? direction, bag? bag with
      | none, _, _, _ => .error .column
      | _, none, _, _ => .error .row
      | _, _, none, _ => .error .direction
      | _, _, _, none => .error .bag
      | some x, some y, some facing, some bag => .ok ⟨⟨x, y⟩, facing, bag⟩
  | _ => .error .fieldCount

/-- What was found so far while reading rows. -/
structure Draft where
  /-- The robot shown by an arrow. -/
  placed : Option Robot := none
  /-- The tiles that are not empty, the last one first. -/
  tiles : List (Point × Tile) := []

/-- Enters the mark at a cell. A second arrow is a fault, unless arrows do not place Karel. -/
def Draft.enter (draft : Draft) (arrowsPlace : Bool) (line : Nat) (column : Nat) (row : Nat)
    (mark : Mark) : Except Fault Draft :=
  let point : Point := ⟨.ofNat column, .ofNat row⟩
  match mark with
  | .tile .empty => .ok draft
  | .tile tile => .ok { draft with tiles := (point, tile) :: draft.tiles }
  | .robot facing =>
    if arrowsPlace then
      match draft.placed with
      | some first => .error (.duplicateRobot line (column + 1) first.position)
      | none => .ok { draft with placed := some ⟨point, facing, .unlimited⟩ }
    else
      .ok draft

/-- Reads the cells of a row from the given column on. -/
def readCells (style : Style) (arrowsPlace : Bool) (line row : Nat) :
    Nat → List (List Char) → Draft → Except Fault Draft
  | _, [], draft => .ok draft
  | column, token :: rest, draft =>
    match style.mark? token with
    | none => .error (.invalidToken line (column + 1) (String.ofList token))
    | some mark =>
      match draft.enter arrowsPlace line column row mark with
      | .error fault => .error fault
      | .ok draft => readCells style arrowsPlace line row (column + 1) rest draft

/-- Reads the rows of a map from the given row on, all of the same width. -/
def readRows (style : Style) (arrowsPlace : Bool) (width : Nat) :
    Nat → List NumberedLine → Draft → Except Fault Draft
  | _, [], draft => .ok draft
  | row, line :: rest, draft =>
    let cells := style.cells line.content
    if cells.length ≠ width then
      .error (.ragged line.number width cells.length)
    else
      match readCells style arrowsPlace line.number row 0 cells draft with
      | .error fault => .error fault
      | .ok draft => readRows style arrowsPlace width (row + 1) rest draft

/-- Reads the rows of a map. Without a robot of its own the map needs an arrow. -/
def readBody (style : Style) (robot : Option Robot) (arrowsPlace : Bool)
    (rows : List NumberedLine) : Except Fault Scene :=
  match rows with
  | [] => .error .empty
  | first :: _ =>
    let width := (style.cells first.content).length
    match readRows style arrowsPlace width 0 rows {} with
    | .error fault => .error fault
    | .ok draft =>
      match robot <|> draft.placed with
      | none => .error .missingRobot
      | some robot =>
        let width : Coordinate := .ofNat width
        let height : Coordinate := .ofNat rows.length
        .ok ⟨robot, .ofList (.finite width height) draft.tiles, width, height⟩

/-- Reads a map. `robot` is the caller's own robot, which takes the place of the one in the map. -/
def read (style : Style) (robot : Option Robot) (text : String) : Except Fault Scene :=
  let rows := contentLines text.toList
  match style with
  | .picture => readBody .picture robot robot.isNone rows
  | .table =>
    match rows with
    | [] => .error .empty
    | header :: rows =>
      match readHeader header.content with
      | .error fault => .error (.header header.number fault)
      | .ok fromHeader => readBody .table (robot <|> some fromHeader) false rows

end Karel.MapText
