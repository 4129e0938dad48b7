import Karel.Bounds
import Karel.Rectangle
import Karel.Tile

/-!
# Grids

A grid gives every cell of the plane its tile. Only the cells that hold something are stored, in
reading order; everything beyond a border reads as a wall. `Grid.get_set` says what a write changes.
-/

namespace Karel

/-- The tiles of the plane, stored where they are not empty. -/
structure Grid where
  bounds : Bounds
  stored : Std.ExtTreeMap Point Tile Point.readingOrder

namespace Grid

/-- The grid without any tile. -/
def empty (bounds : Bounds) : Grid := ⟨bounds, ∅⟩

/-- The tile of a cell. -/
def get (grid : Grid) (point : Point) : Tile :=
  if grid.bounds.contains point then grid.stored[point]?.getD .empty else .wall

/-- Puts a tile on a cell. Nothing is written beyond a border. -/
def set (grid : Grid) (point : Point) (tile : Tile) : Grid :=
  if tile = .empty then
    { grid with stored := grid.stored.erase point }
  else if grid.bounds.contains point then
    { grid with stored := grid.stored.insert point tile }
  else
    grid

/-- The grid with the listed tiles; a later entry for a cell replaces an earlier one. -/
def ofList (bounds : Bounds) (tiles : List (Point × Tile)) : Grid :=
  tiles.foldl (fun grid entry => grid.set entry.1 entry.2) (empty bounds)

/-- Moves the borders. The tiles that are then beyond them are lost. -/
def setBounds (grid : Grid) (bounds : Bounds) : Grid where
  bounds := bounds
  stored := grid.stored.filter fun point _ => bounds.contains point

/-- The stored tiles in reading order. -/
def toList (grid : Grid) : List (Point × Tile) := grid.stored.toList

/-- The number of stored tiles. -/
def size (grid : Grid) : Nat := grid.stored.size

/-- The smallest rectangle that holds `anchor` and every stored tile. -/
def extent (grid : Grid) (anchor : Point) : Rectangle :=
  .cover anchor (grid.toList.map Prod.fst)

@[simp]
theorem get_empty (bounds : Bounds) (point : Point) :
    (empty bounds).get point = if bounds.contains point then .empty else .wall := by
  simp [get, empty]

@[simp]
theorem bounds_set (grid : Grid) (point : Point) (tile : Tile) :
    (grid.set point tile).bounds = grid.bounds := by
  unfold set
  split
  · rfl
  · split <;> rfl

/-- A write changes its own cell, if that is inside the borders, and no other. -/
theorem get_set (grid : Grid) (point other : Point) (tile : Tile) :
    (grid.set point tile).get other =
      if grid.bounds.contains other ∧ point = other then tile else grid.get other := by
  unfold get
  rw [bounds_set]
  by_cases inside : grid.bounds.contains other
  · by_cases same : point = other
    · subst same
      by_cases blank : tile = .empty <;> simp [set, inside, blank]
    · unfold set
      by_cases blank : tile = .empty
      · simp [inside, same, blank, Std.ExtTreeMap.getElem?_erase]
      · by_cases target : grid.bounds.contains point <;>
          simp [inside, same, blank, target, Std.ExtTreeMap.getElem?_insert]
  · simp [inside]

/-- Moving the borders keeps the tiles inside both the old and the new ones. -/
theorem get_setBounds (grid : Grid) (bounds : Bounds) (point : Point) :
    (grid.setBounds bounds).get point =
      if bounds.contains point then grid.stored[point]?.getD .empty else .wall := by
  unfold get setBounds
  by_cases inside : bounds.contains point
  · cases stored : grid.stored[point]? <;> simp [inside, stored, Option.filter]
  · simp [inside]

end Grid

end Karel
