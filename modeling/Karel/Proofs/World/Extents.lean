import Karel.Proofs.Rectangles
import Karel.Proofs.World.GridHistory
import Mathlib.Data.Int.Interval

/-!
# The extent of a grid

The extent is the least rectangle that holds a cell and everything that is stored, so it depends
neither on how the tiles came to be stored nor on the order in which they are listed. Its size is
told in words, and a plane without borders has more columns than a positive word can tell:
`Coordinate.Measures` says that a size is the exact number as long as there is a word for it, and
else there is no size. `Grid.extent_least` is about every grid; along an axis with a border there is
always a size.
-/

namespace Karel

namespace Coordinate

variable {first last : Coordinate}

/-- A size tells a number by the word for it, and tells nothing if there is none. -/
structure Measures (size : Option Coordinate) (number : Nat) : Prop where
  exact : ∀ word, size = some word ↔ word.toInt = number
  told_iff : size.isSome = true ↔ number ≤ greatest

/-- The coordinates from the first to the last are as many as are counted. -/
theorem ncard_eq_count {values : Set Coordinate}
    (between : ∀ value, value ∈ values ↔ first.toInt ≤ value.toInt ∧ value.toInt ≤ last.toInt) :
    values.ncard = count first last := by
  have numbers : Int32.toInt '' values = Set.Icc first.toInt last.toInt := by
    ext number
    constructor
    · rintro ⟨value, member, rfl⟩
      exact (between value).mp member
    · rintro ⟨lower, upper⟩
      have low := first.le_toInt
      have high := last.toInt_lt
      have exact : (Int32.ofInt number).toInt = number :=
        Int32.toInt_ofInt_of_le (by omega) (by omega)
      exact ⟨Int32.ofInt number, (between _).mpr ⟨by rwa [exact], by rwa [exact]⟩, exact⟩
  have injective : Function.Injective Int32.toInt := fun _ _ => Int32.toInt_inj.mp
  rw [← Set.ncard_image_of_injective _ injective, numbers, Set.ncard_eq_toFinset_card',
    Set.toFinset_Icc, Int.card_Icc, count]
  congr 1
  omega

theorem measures_count (order : first.toInt ≤ last.toInt) :
    Measures (count? first last) (count first last) where
  exact _ := count?_eq_some_iff order
  told_iff := by
    rw [Option.isSome_iff_exists]
    refine ⟨?_, fun fits => ⟨_, count?_of_le order fits⟩⟩
    rintro ⟨word, told⟩
    rw [← (count?_eq_some_iff order).mp told]
    exact word.le_greatest

end Coordinate

namespace Rectangle

variable {rectangle : Rectangle} {points : Point → Prop}

/-- The rectangle holds the cells, and lies inside every rectangle that holds them. -/
structure Least (rectangle : Rectangle) (points : Point → Prop) : Prop where
  contains : ∀ point, points point → rectangle.Contains point
  least : ∀ other : Rectangle, (∀ point, points point → other.Contains point) →
    ∀ point, rectangle.Contains point → other.Contains point

/-- The columns in which the rectangle has cells. -/
def columns (rectangle : Rectangle) : Set Coordinate :=
  {x | ∃ point, rectangle.Contains point ∧ point.x = x}

/-- The rows in which the rectangle has cells. -/
def rows (rectangle : Rectangle) : Set Coordinate :=
  {y | ∃ point, rectangle.Contains point ∧ point.y = y}

theorem Tight.isLeast (tight : rectangle.Tight points) : rectangle.Least points where
  contains := tight.contains
  least other holds point inside := by
    obtain ⟨first, last⟩ := tight.le holds
    rw [contains_iff] at *
    omega

/-- The sides of a tight rectangle touch a cell, so it has columns and rows. -/
theorem Tight.ordered (tight : rectangle.Tight points) :
    rectangle.least.x.toInt ≤ rectangle.greatest.x.toInt ∧
      rectangle.least.y.toInt ≤ rectangle.greatest.y.toInt := by
  obtain ⟨point, member, -⟩ := tight.left
  have inside := contains_iff.mp (tight.contains point member)
  omega

theorem Tight.ncard_columns (tight : rectangle.Tight points) :
    rectangle.columns.ncard = Coordinate.count rectangle.least.x rectangle.greatest.x := by
  refine Coordinate.ncard_eq_count fun x => ⟨?_, fun between => ?_⟩
  · rintro ⟨point, inside, rfl⟩
    obtain ⟨left, right, -⟩ := contains_iff.mp inside
    exact ⟨left, right⟩
  · exact ⟨⟨x, rectangle.least.y⟩,
      contains_iff.mpr ⟨between.1, between.2, Int.le_refl _, tight.ordered.2⟩, rfl⟩

theorem Tight.ncard_rows (tight : rectangle.Tight points) :
    rectangle.rows.ncard = Coordinate.count rectangle.least.y rectangle.greatest.y := by
  refine Coordinate.ncard_eq_count fun y => ⟨?_, fun between => ?_⟩
  · rintro ⟨point, inside, rfl⟩
    exact (contains_iff.mp inside).2.2
  · exact ⟨⟨rectangle.least.x, y⟩,
      contains_iff.mpr ⟨Int.le_refl _, tight.ordered.1, between⟩, rfl⟩

end Rectangle

namespace Grid

variable {grid : Grid} {anchor : Point}

/-- What the extent is drawn around. -/
def Holds (grid : Grid) (anchor point : Point) : Prop := point = anchor ∨ point ∈ grid.stored

theorem tight_extent_holds (grid : Grid) (anchor : Point) :
    (grid.extent anchor).Tight (grid.Holds anchor) :=
  (grid.tight_extent anchor).congr fun point => by
    rw [Holds, Std.ExtTreeMap.mem_iff_isSome_getElem?, Option.isSome_iff_exists]

/-- A rectangle that is drawn around the same cells in any way is the extent. -/
theorem eq_extent_of_tight {rectangle : Rectangle} {points : Point → Prop}
    (tight : rectangle.Tight points) (same : ∀ point, points point ↔ grid.Holds anchor point) :
    rectangle = grid.extent anchor :=
  (tight.congr same).unique (grid.tight_extent_holds anchor)

theorem Sound.contains_of_holds (sound : grid.Sound)
    (inside : grid.bounds.contains anchor = true) {point : Point}
    (held : grid.Holds anchor point) : grid.bounds.contains point = true := by
  rcases held with rfl | stored
  · exact inside
  · rw [Std.ExtTreeMap.mem_iff_isSome_getElem?, Option.isSome_iff_exists] at stored
    obtain ⟨tile, found⟩ := stored
    exact (sound point tile found).2

/-- Coordinates on an axis with a border are no more than the size of the axis. -/
theorem count_le_of_axisContains {first last size : Coordinate}
    (start : Bounds.axisContains (some size) first = true)
    (stop : Bounds.axisContains (some size) last = true) :
    Coordinate.count first last ≤ size.toInt := by
  have zero : (0 : Coordinate).toInt = 0 := rfl
  simp only [Bounds.axisContains, Bool.and_eq_true, decide_eq_true_eq, Int32.le_iff_toInt_le,
    Int32.lt_iff_toInt_lt, zero] at start stop
  unfold Coordinate.count
  omega

/-- Along an axis with a border, the extent of cells inside the borders has no more columns or rows
than the axis. -/
theorem Sound.extent_le (sound : grid.Sound) (inside : grid.bounds.contains anchor = true) :
    (∀ size, grid.bounds.width = some size →
      (grid.extent anchor).columns.ncard ≤ size.toInt) ∧
    ∀ size, grid.bounds.height = some size → (grid.extent anchor).rows.ncard ≤ size.toInt := by
  have tight := grid.tight_extent_holds anchor
  have bounded : ∀ {point}, grid.Holds anchor point →
      Bounds.axisContains grid.bounds.width point.x = true ∧
        Bounds.axisContains grid.bounds.height point.y = true := fun held => by
    have both := sound.contains_of_holds inside held
    rwa [Bounds.contains, Bool.and_eq_true] at both
  rw [tight.ncard_columns, tight.ncard_rows]
  constructor
  · intro size axis
    obtain ⟨first, firstHeld, left⟩ := tight.left
    obtain ⟨last, lastHeld, right⟩ := tight.right
    rw [← left, ← right]
    exact count_le_of_axisContains (axis ▸ (bounded firstHeld).1) (axis ▸ (bounded lastHeld).1)
  · intro size axis
    obtain ⟨first, firstHeld, top⟩ := tight.top
    obtain ⟨last, lastHeld, bottom⟩ := tight.bottom
    rw [← top, ← bottom]
    exact count_le_of_axisContains (axis ▸ (bounded firstHeld).2) (axis ▸ (bounded lastHeld).2)

/-- The extent is the least rectangle around the anchor and the stored cells, in whatever order they
are listed and however they were written. Its width and height are the numbers of its columns and
rows. There is a width or a height exactly if that number is a coordinate, which it is along an axis
with a border. -/
theorem extent_least (grid : Grid) (anchor : Point) :
    (grid.extent anchor).Least (grid.Holds anchor) ∧
    (∀ cells : List Point, (∀ point, point ∈ cells ↔ point ∈ grid.stored) →
      Rectangle.cover anchor cells = grid.extent anchor) ∧
    (∀ other : Grid, (∀ point, point ∈ other.stored ↔ point ∈ grid.stored) →
      other.extent anchor = grid.extent anchor) ∧
    (∀ (bounds : Bounds) (tiles others : List (Point × Tile)), tiles.Perm others →
      (tiles.map Prod.fst).Nodup →
        (ofList bounds tiles).extent anchor = (ofList bounds others).extent anchor) ∧
    Coordinate.Measures (grid.extent anchor).width (grid.extent anchor).columns.ncard ∧
    Coordinate.Measures (grid.extent anchor).height (grid.extent anchor).rows.ncard ∧
    (grid.Sound → grid.bounds.contains anchor = true →
      (∀ size, grid.bounds.width = some size →
        (grid.extent anchor).columns.ncard ≤ size.toInt) ∧
      ∀ size, grid.bounds.height = some size →
        (grid.extent anchor).rows.ncard ≤ size.toInt) := by
  have tight := grid.tight_extent_holds anchor
  refine ⟨tight.isLeast, fun cells listed => ?_, fun other stored => ?_,
    fun bounds tiles others permuted apart => ?_, ?_, ?_, fun sound => sound.extent_le⟩
  · exact eq_extent_of_tight (Rectangle.tight_cover anchor cells) fun point =>
      or_congr_right (listed point)
  · exact eq_extent_of_tight (other.tight_extent_holds anchor) fun point =>
      or_congr_right (stored point)
  · rw [ofList, (sound_empty bounds).foldl_set_perm permuted apart, ofList]
  · rw [tight.ncard_columns]
    exact Coordinate.measures_count tight.ordered.1
  · rw [tight.ncard_rows]
    exact Coordinate.measures_count tight.ordered.2

/-- From a wall at the left edge of the plane to Karel at the right edge there are more columns than
a coordinate can tell, and there is no width. -/
theorem no_width_extent :
    let extent := (ofList .unbounded [(⟨-2147483648, 0⟩, .wall)]).extent ⟨2147483647, 0⟩
    extent.columns.ncard = 4294967296 ∧ extent.width = none := by
  intro extent
  have corners : extent = ⟨⟨-2147483648, 0⟩, ⟨2147483647, 0⟩⟩ := by decide +kernel
  have columns : extent.columns.ncard = _ := (tight_extent_holds _ _).ncard_columns
  rw [columns, corners]
  exact ⟨rfl, rfl⟩

end Grid

end Karel
