import Karel.Grid
import Karel.Proofs.Worlds

/-!
# The smallest rectangle around cells

`Rectangle.Tight` says of a rectangle that it holds all cells of a set and that each of its sides
touches one of them. There is at most one such rectangle, and every rectangle that holds the cells
holds it too. `Rectangle.cover` is tight, so the extent of a grid depends only on what is stored and
not on the order.

`Rectangle.Within` says that a rectangle lies inside borders. Then its size fits into words, its
cells are the steps of that size from its first corner, and the first corner can become the origin.
-/

namespace Karel

namespace Rectangle

variable {rectangle other : Rectangle} {points : Point → Prop} {point anchor step : Point}
  {width height : Coordinate}

/-- Whether a cell belongs to a rectangle. -/
def Contains (rectangle : Rectangle) (point : Point) : Prop :=
  rectangle.least.x ≤ point.x ∧ point.x ≤ rectangle.greatest.x ∧
    rectangle.least.y ≤ point.y ∧ point.y ≤ rectangle.greatest.y

theorem contains_iff : rectangle.Contains point ↔
    rectangle.least.x.toInt ≤ point.x.toInt ∧ point.x.toInt ≤ rectangle.greatest.x.toInt ∧
      rectangle.least.y.toInt ≤ point.y.toInt ∧ point.y.toInt ≤ rectangle.greatest.y.toInt := by
  simp only [Contains, Int32.le_iff_toInt_le]

/-- The rectangle holds the cells, and none of its sides can be moved inwards. -/
structure Tight (rectangle : Rectangle) (points : Point → Prop) : Prop where
  contains : ∀ point, points point → rectangle.Contains point
  left : ∃ point, points point ∧ point.x = rectangle.least.x
  right : ∃ point, points point ∧ point.x = rectangle.greatest.x
  top : ∃ point, points point ∧ point.y = rectangle.least.y
  bottom : ∃ point, points point ∧ point.y = rectangle.greatest.y

theorem tight_single (point : Point) : (single point).Tight (· = point) where
  contains := by
    rintro _ rfl
    exact contains_iff.mpr ⟨Int.le_refl _, Int.le_refl _, Int.le_refl _, Int.le_refl _⟩
  left := ⟨point, rfl, rfl⟩
  right := ⟨point, rfl, rfl⟩
  top := ⟨point, rfl, rfl⟩
  bottom := ⟨point, rfl, rfl⟩

theorem min_eq_or (left right : Coordinate) : min left right = left ∨ min left right = right := by
  rw [← Int32.toInt_inj, ← Int32.toInt_inj, Coordinate.toInt_min]
  omega

theorem max_eq_or (left right : Coordinate) : max left right = left ∨ max left right = right := by
  rw [← Int32.toInt_inj, ← Int32.toInt_inj, Coordinate.toInt_max]
  omega

/-- A side that is moved out to hold one more cell touches a cell that it touched or the new one. -/
theorem exists_side {side : Point → Coordinate} {old new : Coordinate}
    (touched : ∃ point, points point ∧ side point = old)
    (moved : new = old ∨ new = side anchor) :
    ∃ point, (points point ∨ point = anchor) ∧ side point = new := by
  rcases moved with rfl | rfl
  · obtain ⟨point, member, same⟩ := touched
    exact ⟨point, .inl member, same⟩
  · exact ⟨anchor, .inr rfl, rfl⟩

theorem Tight.extend (tight : rectangle.Tight points) (anchor : Point) :
    (rectangle.extend anchor).Tight fun point => points point ∨ point = anchor where
  contains := by
    have grown := tight.contains
    simp only [contains_iff] at grown ⊢
    simp only [Rectangle.extend, Coordinate.toInt_min, Coordinate.toInt_max]
    rintro point (member | rfl)
    · have inside := grown point member
      omega
    · omega
  left := exists_side tight.left (min_eq_or _ _)
  right := exists_side tight.right (max_eq_or _ _)
  top := exists_side tight.top (min_eq_or _ _)
  bottom := exists_side tight.bottom (max_eq_or _ _)

theorem Tight.congr (tight : rectangle.Tight points) {others : Point → Prop}
    (same : ∀ point, points point ↔ others point) : rectangle.Tight others := by
  rwa [← funext fun point => propext (same point)]

/-- The rectangle that is grown around a cell and a list of cells is tight. -/
theorem tight_cover (anchor : Point) (cells : List Point) :
    (cover anchor cells).Tight fun point => point = anchor ∨ point ∈ cells := by
  have grown : ∀ (rectangle : Rectangle) (points : Point → Prop), rectangle.Tight points →
      (cells.foldl Rectangle.extend rectangle).Tight fun point => points point ∨ point ∈ cells := by
    induction cells with
    | nil => exact fun rectangle points tight => tight.congr (by simp)
    | cons cell rest inductionHypothesis =>
        intro rectangle points tight
        exact (inductionHypothesis _ _ (tight.extend cell)).congr (by simp [or_assoc])
  exact grown _ _ (tight_single anchor)

/-- Every rectangle that holds the cells holds the tight one. -/
theorem Tight.le (tight : rectangle.Tight points)
    (holds : ∀ point, points point → other.Contains point) :
    other.Contains rectangle.least ∧ other.Contains rectangle.greatest := by
  obtain ⟨left, inLeft, leftX⟩ := tight.left
  obtain ⟨right, inRight, rightX⟩ := tight.right
  obtain ⟨top, inTop, topY⟩ := tight.top
  obtain ⟨bottom, inBottom, bottomY⟩ := tight.bottom
  have atLeft := holds left inLeft
  have atRight := holds right inRight
  have atTop := holds top inTop
  have atBottom := holds bottom inBottom
  unfold Contains at *
  rw [leftX] at atLeft
  rw [rightX] at atRight
  rw [topY] at atTop
  rw [bottomY] at atBottom
  exact ⟨⟨atLeft.1, atLeft.2.1, atTop.2.2.1, atTop.2.2.2⟩,
    ⟨atRight.1, atRight.2.1, atBottom.2.2.1, atBottom.2.2.2⟩⟩

/-- There is only one tight rectangle around a set of cells. -/
theorem Tight.unique (tight : rectangle.Tight points) (same : other.Tight points) :
    rectangle = other := by
  obtain ⟨leastIn, greatestIn⟩ := tight.le same.contains
  obtain ⟨otherLeastIn, otherGreatestIn⟩ := same.le tight.contains
  obtain ⟨⟨leastX, leastY⟩, ⟨greatestX, greatestY⟩⟩ := rectangle
  obtain ⟨⟨otherLeastX, otherLeastY⟩, ⟨otherGreatestX, otherGreatestY⟩⟩ := other
  simp only [contains_iff] at *
  simp only [Rectangle.mk.injEq, Point.mk.injEq, ← Int32.toInt_inj]
  omega

/-- The rectangle has a cell, and all its cells lie inside borders on all sides. -/
structure Within (rectangle : Rectangle) (width height : Coordinate) : Prop where
  left : 0 ≤ rectangle.least.x.toInt
  wide : rectangle.least.x.toInt ≤ rectangle.greatest.x.toInt
  right : rectangle.greatest.x.toInt < width.toInt
  top : 0 ≤ rectangle.least.y.toInt
  high : rectangle.least.y.toInt ≤ rectangle.greatest.y.toInt
  bottom : rectangle.greatest.y.toInt < height.toInt

namespace Within

variable (within : rectangle.Within width height)
include within

theorem right_lt : rectangle.greatest.x.toInt < Coordinate.greatest :=
  Int.lt_of_lt_of_le within.right width.le_greatest

theorem bottom_lt : rectangle.greatest.y.toInt < Coordinate.greatest :=
  Int.lt_of_lt_of_le within.bottom height.le_greatest

/-- Inside borders the number of columns is a coordinate. -/
theorem exists_width : ∃ columns, rectangle.width = some columns ∧
    columns.toInt = rectangle.greatest.x.toInt - rectangle.least.x.toInt + 1 := by
  have order := within.wide
  have fits := Coordinate.count_le within.left within.right_lt
  refine ⟨_, Coordinate.count?_of_le order fits, ?_⟩
  rw [Coordinate.toInt_ofNat fits, Coordinate.count]
  omega

theorem exists_height : ∃ rows, rectangle.height = some rows ∧
    rows.toInt = rectangle.greatest.y.toInt - rectangle.least.y.toInt + 1 := by
  have order := within.high
  have fits := Coordinate.count_le within.top within.bottom_lt
  refine ⟨_, Coordinate.count?_of_le order fits, ?_⟩
  rw [Coordinate.toInt_ofNat fits, Coordinate.count]
  omega

/-- The borders of the size of the rectangle, told by its two corners. -/
theorem contains_size_iff :
    Bounds.contains ⟨rectangle.width, rectangle.height⟩ step = true ↔
      (0 ≤ step.x.toInt ∧
        step.x.toInt < rectangle.greatest.x.toInt - rectangle.least.x.toInt + 1) ∧
      0 ≤ step.y.toInt ∧
        step.y.toInt < rectangle.greatest.y.toInt - rectangle.least.y.toInt + 1 := by
  obtain ⟨columns, wide, x⟩ := within.exists_width
  obtain ⟨rows, high, y⟩ := within.exists_height
  rw [wide, high, ← x, ← y]
  exact Bounds.contains_finite_iff

/-- The cells of the rectangle are inside the borders. -/
theorem contains_of_contains (inside : rectangle.Contains point) :
    (Bounds.finite width height).contains point = true := by
  obtain ⟨left, right, top, bottom⟩ := contains_iff.mp inside
  have nearX := within.left
  have nearY := within.top
  have farX := within.right
  have farY := within.bottom
  exact Bounds.contains_finite_iff.mpr (by omega)

/-- Every cell of the rectangle is reached from its first corner by a step of its size. -/
theorem exists_step (inside : rectangle.Contains point) :
    ∃ step, point.sub? rectangle.least = some step ∧ step.add? rectangle.least = some point ∧
      Bounds.contains ⟨rectangle.width, rectangle.height⟩ step = true := by
  have lower : Coordinate.least ≤ 0 := by decide
  have farX := rectangle.greatest.x.le_greatest
  have farY := rectangle.greatest.y.le_greatest
  have nearX := within.left
  have nearY := within.top
  obtain ⟨left, right, top, bottom⟩ := contains_iff.mp inside
  have x := Coordinate.toInt_sub_of_bounds point.x rectangle.least.x (by omega) (by omega)
  have y := Coordinate.toInt_sub_of_bounds point.y rectangle.least.y (by omega) (by omega)
  refine ⟨point - rectangle.least, Point.sub?_eq_some_iff.mpr ⟨x, y⟩,
    Point.add?_eq_some_iff.mpr ⟨?_, ?_⟩, within.contains_size_iff.mpr ?_⟩
  · exact x ▸ by omega
  · exact y ▸ by omega
  · exact x ▸ y ▸ by omega

/-- Every step of the size of the rectangle leads from its first corner to one of its cells. -/
theorem exists_cell
    (inside : Bounds.contains ⟨rectangle.width, rectangle.height⟩ step = true) :
    ∃ point, step.add? rectangle.least = some point ∧ rectangle.Contains point := by
  have lower : Coordinate.least ≤ 0 := by decide
  have farX := rectangle.greatest.x.le_greatest
  have farY := rectangle.greatest.y.le_greatest
  have nearX := within.left
  have nearY := within.top
  obtain ⟨⟨left, right⟩, top, bottom⟩ := within.contains_size_iff.mp inside
  have x := Coordinate.toInt_add_of_bounds step.x rectangle.least.x (by omega) (by omega)
  have y := Coordinate.toInt_add_of_bounds step.y rectangle.least.y (by omega) (by omega)
  refine ⟨⟨step.x + rectangle.least.x, step.y + rectangle.least.y⟩,
    Point.add?_eq_some_iff.mpr ⟨x, y⟩, contains_iff.mpr ?_⟩
  dsimp only
  omega

/-- The step from the first to the last cell. -/
theorem sub?_greatest :
    rectangle.greatest.sub? rectangle.least = some (rectangle.greatest - rectangle.least) := by
  have last : rectangle.Contains rectangle.greatest :=
    contains_iff.mpr ⟨within.wide, Int.le_refl _, within.high, Int.le_refl _⟩
  obtain ⟨step, back, -⟩ := within.exists_step last
  rw [back, Point.sub_of_sub? back]

/-- When the first corner of a tight rectangle becomes the origin, it stays tight. -/
theorem tight_origin (tight : rectangle.Tight points) {others : Point → Prop}
    (moved : ∀ step, others step ↔
      ∃ point, points point ∧ point.sub? rectangle.least = some step) :
    Tight ⟨.origin, rectangle.greatest - rectangle.least⟩ others := by
  have zeroX : Point.origin.x.toInt = 0 := rfl
  have zeroY : Point.origin.y.toInt = 0 := rfl
  obtain ⟨farX, farY⟩ := Point.sub?_eq_some_iff.mp within.sub?_greatest
  -- What touches a side before touches the same side afterwards.
  have found : ∀ {point}, points point → ∃ step, others step ∧
      step.x.toInt = point.x.toInt - rectangle.least.x.toInt ∧
        step.y.toInt = point.y.toInt - rectangle.least.y.toInt := by
    intro point member
    obtain ⟨step, back, -⟩ := within.exists_step (tight.contains point member)
    exact ⟨step, (moved step).mpr ⟨point, member, back⟩, Point.sub?_eq_some_iff.mp back⟩
  have column : ∀ {old new : Coordinate}, (∃ point, points point ∧ point.x = old) →
      new.toInt = old.toInt - rectangle.least.x.toInt → ∃ step, others step ∧ step.x = new := by
    rintro _ new ⟨point, member, rfl⟩ place
    obtain ⟨step, after, x, -⟩ := found member
    exact ⟨step, after, Int32.toInt_inj.mp (x.trans place.symm)⟩
  have row : ∀ {old new : Coordinate}, (∃ point, points point ∧ point.y = old) →
      new.toInt = old.toInt - rectangle.least.y.toInt → ∃ step, others step ∧ step.y = new := by
    rintro _ new ⟨point, member, rfl⟩ place
    obtain ⟨step, after, -, y⟩ := found member
    exact ⟨step, after, Int32.toInt_inj.mp (y.trans place.symm)⟩
  exact {
    contains := by
      intro step member
      obtain ⟨point, before, back⟩ := (moved step).mp member
      obtain ⟨x, y⟩ := Point.sub?_eq_some_iff.mp back
      have inside := contains_iff.mp (tight.contains point before)
      refine contains_iff.mpr ?_
      dsimp only
      omega
    left := column tight.left (by dsimp only; omega)
    right := column tight.right farX
    top := row tight.top (by dsimp only; omega)
    bottom := row tight.bottom farY }

end Within

end Rectangle

/-- The extent of a grid is tight around the anchor and the cells that are stored. -/
theorem Grid.tight_extent (grid : Grid) (anchor : Point) :
    (grid.extent anchor).Tight fun point =>
      point = anchor ∨ ∃ tile, grid.stored[point]? = some tile := by
  refine (Rectangle.tight_cover anchor _).congr fun point => ?_
  rw [← Option.isSome_iff_exists, ← Std.ExtTreeMap.mem_iff_isSome_getElem?]
  simp [Grid.toList]

end Karel
