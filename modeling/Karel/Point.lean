import Std.Data.ExtTreeMap
import Karel.Coordinate
import Karel.Direction

/-!
# Points

A cell of the plane is named by its column `x` and its row `y`; rows are counted downwards, as a map
is read. `Point.readingOrder` is that order: row by row, and from left to right within a row.
-/

namespace Karel

/-- A cell of the plane, or a step from one cell to another. -/
structure Point where
  x : Coordinate
  y : Coordinate
deriving DecidableEq

namespace Point

/-- The cell where both axes start. -/
def origin : Point := ⟨0, 0⟩

/-- The order in which the cells of a map are read. -/
def readingOrder : Point → Point → Ordering :=
  compareLex (compareOn Point.y) (compareOn Point.x)

instance : Std.TransCmp readingOrder :=
  inferInstanceAs (Std.TransCmp (compareLex (compareOn Point.y) (compareOn Point.x)))

instance : Std.LawfulEqCmp readingOrder where
  eq_of_compare := by
    rintro ⟨leftX, leftY⟩ ⟨rightX, rightY⟩ equal
    simp only [readingOrder, compareLex_eq_eq, compareOn] at equal
    obtain ⟨rows, columns⟩ := equal
    rw [Std.LawfulEqOrd.compare_eq_iff_eq] at rows columns
    rw [rows, columns]

/-- The cell one step further, if both axes reach that far. -/
def add? (point step : Point) : Option Point := do
  let x ← Coordinate.add? point.x step.x
  let y ← Coordinate.add? point.y step.y
  return ⟨x, y⟩

/-- The step that leads from one cell to another, if each axis has it. -/
def sub? (point start : Point) : Option Point := do
  let x ← Coordinate.sub? point.x start.x
  let y ← Coordinate.sub? point.y start.y
  return ⟨x, y⟩

/-- The step that leads from one cell to another, as plain words. -/
def sub (point start : Point) : Point :=
  ⟨point.x - start.x, point.y - start.y⟩

instance : Sub Point := ⟨sub⟩

/-- The cell one step further, stopping at the edge of the plane on each axis. -/
def addClamped (point step : Point) : Point :=
  ⟨Coordinate.addClamped point.x step.x, Coordinate.addClamped point.y step.y⟩

/-- The written form of a cell. -/
def text (point : Point) : String :=
  s!"({point.x.toInt}, {point.y.toInt})"

end Point

/-- The step to the next cell in a direction. -/
def Direction.step : Direction → Point
  | .east => ⟨1, 0⟩
  | .north => ⟨0, -1⟩
  | .west => ⟨-1, 0⟩
  | .south => ⟨0, 1⟩

/-- The direction whose step a point is. -/
def Direction.ofStep? (step : Point) : Option Direction :=
  Direction.all.find? (·.step == step)

end Karel
