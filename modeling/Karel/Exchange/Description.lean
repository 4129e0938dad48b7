import Karel.Window

/-!
# Descriptions

One-line descriptions of values for developers: the name of the type and its fields in braces.
-/

namespace Karel.Exchange

/-- A record with its fields. -/
def describeRecord (name : String) (fields : List (String × String)) : String :=
  name ++ " \x7b " ++ ", ".intercalate (fields.map fun (field, value) => s!"{field}: {value}") ++
    " \x7d"

/-- A value that may be missing. -/
def describeOptional : Option String → String
  | some text => s!"Some({text})"
  | none => "None"

/-- A size that an axis may have. -/
def describeSize (size : Option Coordinate) : String :=
  describeOptional (size.map fun size => toString size.toInt)

/-- The description of a bag: its count, if it has one. -/
def describeBag : Bag → String
  | .unlimited => describeOptional none
  | .counted count => describeOptional (some (toString count.toNat))

/-- The description of a robot. -/
def describeRobot (robot : Robot) : String :=
  describeRecord "Robot" [("position", s!"IVec2{robot.position.text}"),
    ("facing", robot.facing.name), ("beepers", describeBag robot.bag)]

/-- The description of bounds. -/
def describeBounds (bounds : Bounds) : String :=
  describeRecord "Bounds" [("width", describeSize bounds.width),
    ("height", describeSize bounds.height)]

/-- The description of window settings. -/
def describeWindowSettings (settings : WindowSettings) : String :=
  describeRecord "ViewConfig" [("width", toString settings.width.toInt),
    ("height", toString settings.height.toInt), ("lookahead", toString settings.lookahead.toInt)]

end Karel.Exchange
