import Karel.Exchange.Json
import Karel.Window

/-!
# JSON forms of values

How tiles, directions, robots, bounds and window settings are written in JSON and read back. A
record is an object with one member for each field, in any order and among members of other names;
or an array of all fields in order. A field that may be missing is null if it is not there. A choice
is the name of its case, or an object with that name as its one member.
-/

namespace Karel.Exchange

namespace Json

/-- The whole number of a value in a range. -/
def toIntIn (least greatest : Int) : Json → Option Int
  | number (some value) => if least ≤ value ∧ value ≤ greatest then some value else none
  | _ => none

/-- Reads a coordinate. -/
def toCoordinate (json : Json) : Option Coordinate :=
  json.toIntIn (-2147483648) 2147483647 >>= Coordinate.ofInt?

/-- Reads a number of beepers. -/
def toCount (json : Json) : Option BeeperCount :=
  (json.toIntIn 0 4294967295).map fun value => .ofNat value.toNat

/-- Reads a value that may be null. -/
def toOptional {α : Type} (read : Json → Option α) : Json → Option (Option α)
  | null => some none
  | json => (read json).map some

/-- The name of a case and its content: null, where there is none. -/
def toCase : Json → Option (String × Option Json)
  | string (some name) => some (name, none)
  | object [(some name, content)] => some (name, some content)
  | _ => none

/-- Whether the content of a case that has none is as it should be. -/
def isBare : Option Json → Bool
  | none | some null => true
  | some _ => false

/-- The member of an object with a name; it must not be there twice, and all names must be texts. -/
def member? (members : List (Option String × Json)) (name : String) : Option (Option Json) :=
  if members.any (·.1.isNone) then none
  else
    match members.filter (·.1 == some name) with
    | [] => some none
    | [(_, value)] => some (some value)
    | _ => none

/-- The fields of a record in order. The name of each field says whether it may be missing. -/
def toFields (names : List (String × Bool)) : Json → Option (List Json)
  | array items => if items.length = names.length then some items else none
  | object members => names.mapM fun (name, optional) => do
    match ← member? members name with
    | some value => some value
    | none => if optional then some null else none
  | _ => none

end Json

open Json

/-- The form of a value that may be missing. -/
def optionalJson {α : Type} (form : α → Json) : Option α → Json
  | some value => form value
  | none => .null

/-- The form of a coordinate. -/
def coordinateJson (coordinate : Coordinate) : Json := .ofInt coordinate.toInt

/-- The form of a tile. -/
def tileJson : Tile → Json
  | .beepers pile => .ofMembers [("Beeper", .ofInt pile.count.toNat)]
  | tile => .ofString tile.name

/-- Reads a tile. -/
def readTile (json : Json) : Option Tile := do
  match ← json.toCase with
  | ("Beeper", some content) =>
    let count ← content.toCount
    (Pile.ofCount? count).map .beepers
  | (name, content) =>
    if isBare content then [Tile.empty, .wall, .treasure].find? (·.name == name) else none

/-- The form of a direction. -/
def directionJson (direction : Direction) : Json := .ofString direction.name

/-- Reads a direction. -/
def readDirection (json : Json) : Option Direction := do
  let (name, content) ← json.toCase
  if isBare content then Direction.all.find? (·.name == name) else none

/-- The form of a cell. -/
def pointJson (point : Point) : Json := .array [coordinateJson point.x, coordinateJson point.y]

/-- Reads a cell. -/
def readPoint : Json → Option Point
  | .array [x, y] => do return ⟨← x.toCoordinate, ← y.toCoordinate⟩
  | _ => none

/-- The form of a bag: the number of beepers, or null for a bottomless bag. -/
def bagJson : Bag → Json
  | .unlimited => .null
  | .counted count => .ofInt count.toNat

/-- Reads a bag. -/
def readBag (json : Json) : Option Bag := do
  match ← json.toOptional Json.toCount with
  | none => return .unlimited
  | some count => return .counted count

/-- The form of a robot. -/
def robotJson (robot : Robot) : Json := .ofMembers
  [("position", pointJson robot.position), ("facing", directionJson robot.facing),
    ("beepers", bagJson robot.bag)]

/-- Reads a robot. -/
def readRobot (json : Json) : Option Robot := do
  match ← json.toFields [("position", false), ("facing", false), ("beepers", true)] with
  | [position, facing, beepers] =>
    return ⟨← readPoint position, ← readDirection facing, ← readBag beepers⟩
  | _ => none

/-- The form of bounds. -/
def boundsJson (bounds : Bounds) : Json := .ofMembers
  [("width", optionalJson coordinateJson bounds.width),
    ("height", optionalJson coordinateJson bounds.height)]

/-- Reads bounds. -/
def readBounds (json : Json) : Option Bounds := do
  match ← json.toFields [("width", true), ("height", true)] with
  | [width, height] =>
    return ⟨← width.toOptional Json.toCoordinate, ← height.toOptional Json.toCoordinate⟩
  | _ => none

/-- The form of window settings. -/
def windowSettingsJson (settings : WindowSettings) : Json := .ofMembers
  [("width", coordinateJson settings.width), ("height", coordinateJson settings.height),
    ("lookahead", coordinateJson settings.lookahead)]

/-- Reads window settings. -/
def readWindowSettings (json : Json) : Option WindowSettings := do
  match ← json.toFields [("width", false), ("height", false), ("lookahead", false)] with
  | [width, height, lookahead] =>
    return ⟨← width.toCoordinate, ← height.toCoordinate, ← lookahead.toCoordinate⟩
  | _ => none

end Karel.Exchange
