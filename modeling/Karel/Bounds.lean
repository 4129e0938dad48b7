import Karel.Point

/-!
# Bounds

The plane may end: each axis can have a size of its own, and then its coordinates run from zero up
to, but not including, that size. An axis without a size has no end on either side.
-/

namespace Karel

/-- How far the plane reaches along each axis. -/
structure Bounds where
  width : Option Coordinate
  height : Option Coordinate
deriving DecidableEq

namespace Bounds

/-- The plane without any border. -/
def unbounded : Bounds := ⟨none, none⟩

/-- The plane with a border on all four sides. -/
def finite (width height : Coordinate) : Bounds := ⟨some width, some height⟩

/-- Whether a coordinate is on an axis of the given size. -/
def axisContains (size : Option Coordinate) (value : Coordinate) : Bool :=
  match size with
  | none => true
  | some size => decide (0 ≤ value) && decide (value < size)

/-- Whether a cell lies on this side of every border. -/
def contains (bounds : Bounds) (point : Point) : Bool :=
  axisContains bounds.width point.x && axisContains bounds.height point.y

/-- The two sizes, if both axes have one. -/
def size? (bounds : Bounds) : Option (Coordinate × Coordinate) := do
  let width ← bounds.width
  let height ← bounds.height
  return (width, height)

/-- The wording of the failure to find two sizes. -/
def sizeUndefinedMessage : String := "the grid is unbounded, its size is undefined"

end Bounds

end Karel
