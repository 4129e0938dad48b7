import Karel.Point

/-!
# Rectangles

A rectangle of cells is given by its two extreme corners, both of which belong to it.
`Rectangle.cover` is the smallest one that holds a given cell and all cells of a list.
-/

namespace Karel

/-- A rectangle of cells, from its top left to its bottom right cell. -/
structure Rectangle where
  least : Point
  greatest : Point
deriving DecidableEq

namespace Rectangle

/-- The rectangle of one cell. -/
def single (point : Point) : Rectangle := ⟨point, point⟩

/-- The rectangle grown just enough to hold one more cell. -/
def extend (rectangle : Rectangle) (point : Point) : Rectangle where
  least := ⟨min rectangle.least.x point.x, min rectangle.least.y point.y⟩
  greatest := ⟨max rectangle.greatest.x point.x, max rectangle.greatest.y point.y⟩

/-- The smallest rectangle that holds `anchor` and every cell of a list. -/
def cover (anchor : Point) (points : List Point) : Rectangle :=
  points.foldl extend (single anchor)

/-- The number of columns. On a plane without borders there can be more than a coordinate tells, and
then there is no answer. -/
def width (rectangle : Rectangle) : Option Coordinate :=
  Coordinate.count? rectangle.least.x rectangle.greatest.x

/-- The number of rows, under the same condition. -/
def height (rectangle : Rectangle) : Option Coordinate :=
  Coordinate.count? rectangle.least.y rectangle.greatest.y

end Rectangle

end Karel
