import Karel.Proofs.MapText.Picture
import Karel.Proofs.World.Reachable

/-!
# The cells of a picture

A picture is written line by line, and its text is read as this picture. Its rows are those of the
cells that they have, so what is read is a world in which Karel stands where the one arrow is, and
every other cell has the tile of its mark: `worldOf`.
-/

namespace Karel

namespace MapText

variable {mark : Mark} {marks : List Mark} {rows : List (List Mark)} {robot : Robot}
  {width height row column : Nat} {cell : Nat → Nat → Mark} {point : Point}

/-! ## The text of a picture -/

theorem isBlank_glyph (mark : Mark) : Text.isBlank mark.glyph = false := by
  cases mark with
  | robot facing => cases facing <;> decide
  | tile content =>
      cases content with
      | empty => decide
      | wall => decide
      | treasure => decide
      | beepers pile =>
          show Text.isBlank (if _ then _ else _) = false
          split
          next small =>
            have digits : ∀ value < 10, Text.isBlank (Nat.digitChar value) = false := by decide
            exact digits _ (UInt32.lt_iff_toNat_lt.mp small)
          next => decide

theorem isWord_glyphs (some : marks ≠ []) : Text.IsWord (marks.map Mark.glyph) where
  nonempty := by simpa using some
  solid := by
    intro character member
    obtain ⟨mark, -, rfl⟩ := List.mem_map.mp member
    exact isBlank_glyph mark

/-- A mark is not written by a zero. -/
theorem pointed_glyph (drawable : mark.Drawable) : pointed mark.glyph = mark.glyph :=
  (pictureMark?_eq_some_iff.mp (pictureMark?_glyph drawable)).2.symm

/-- Words on lines of their own are read as these rows. -/
theorem contentRows_textOf {lines : List (List Char)} (each : ∀ line ∈ lines, Text.IsWord line) :
    contentRows (textOf lines) = lines := by
  have whole : ∀ line ∈ lines, '\n' ∉ line := fun line member feed =>
    absurd ((each line member).solid _ feed) (by decide)
  have visible : ∀ line ∈ lines, (!line.all Text.isBlank) = true := by
    intro line member
    rw [(each line member).all_isBlank]
    rfl
  unfold contentRows textOf
  rw [String.toList_ofList, Text.lines_flatMap whole, List.filter_append,
    List.filter_eq_self.mpr visible, List.map_append,
    List.map_congr_left fun line member => (each line member).trim, List.map_id']
  exact List.append_nil _

section

variable (picture : IsPicture width rows robot)
include picture

theorem IsPicture.ne_nil : rows ≠ [] := by
  rintro rfl
  cases picture.arrows

/-- There is a column for Karel. -/
theorem IsPicture.wide : 0 < width := by
  refine Nat.pos_of_ne_zero fun narrow => ?_
  have arrows : arrowsFrom 0 rows = [] := by
    refine List.flatMap_eq_nil_iff.mpr fun (marks, row) member => ?_
    have even := picture.even marks (List.fst_mem_of_mem_zipIdx member)
    obtain rfl := List.length_eq_zero_iff.mp (even.trans narrow)
    rfl
  rw [picture.arrows] at arrows
  cases arrows

theorem IsPicture.isWord : ∀ line ∈ rows.map (·.map Mark.glyph), Text.IsWord line := by
  refine List.forall_mem_map.mpr fun marks member => isWord_glyphs ?_
  rw [Ne, ← List.length_eq_zero_iff, picture.even marks member]
  exact Nat.ne_of_gt picture.wide

theorem IsPicture.map_pointed :
    (rows.map (·.map Mark.glyph)).map (·.map pointed) = rows.map (·.map Mark.glyph) := by
  rw [List.map_map]
  refine List.map_congr_left fun marks member => ?_
  rw [Function.comp_apply, List.map_map]
  exact List.map_congr_left fun mark inRow =>
    pointed_glyph (picture.drawable marks member mark inRow)

/-- The text of a picture is read as this picture. -/
theorem IsPicture.read : read .picture none (textOf (rows.map (·.map Mark.glyph))) =
    .ok (pictured width rows robot) := by
  refine read_picture_eq_ok_iff.mpr ⟨width, rows, robot, picture, ?_, rfl⟩
  rw [contentRows_textOf picture.isWord, picture.map_pointed]

end

/-! ## Rows of cells -/

theorem map_rowsOf {α β : Type} (change : α → β) (cell : Nat → Nat → α) :
    (rowsOf width height cell).map (·.map change) =
      rowsOf width height fun column row => change (cell column row) := by
  simp [rowsOf]

theorem zipIdx_map_range {α : Type} (content : Nat → α) (length : Nat) :
    ((List.range length).map content).zipIdx =
      (List.range length).map fun index => (content index, index) :=
  List.ext_getElem (by simp) (by simp)

theorem arrowsFrom_rowsOf : arrowsFrom 0 (rowsOf width height cell) =
    (List.range height).flatMap fun row => (List.range width).flatMap fun column =>
      ((cell column row).robotAt? ⟨.ofNat column, .ofNat row⟩).toList := by
  simp only [arrowsFrom, rowArrows, rowsOf, zipIdx_map_range, List.flatMap_map,
    List.filterMap_eq_flatMap_toList]

theorem Mark.robotAt?_eq_some_iff : mark.robotAt? point = some robot ↔
    mark = .robot robot.facing ∧ robot.position = point ∧ robot.bag = .unlimited := by
  obtain ⟨position, facing, bag⟩ := robot
  cases mark <;> simp [robotAt?, eq_comm, and_left_comm]

theorem mem_arrowsFrom : robot ∈ arrowsFrom 0 (rowsOf width height cell) ↔
    ∃ row < height, ∃ column < width, cell column row = .robot robot.facing ∧
      robot.position = ⟨.ofNat column, .ofNat row⟩ ∧ robot.bag = .unlimited := by
  simp [arrowsFrom_rowsOf, Mark.robotAt?_eq_some_iff]

/-- What only one index contributes to is what this index contributes. -/
theorem flatMap_range_eq {α : Type} {part : Nat → List α} {length index : Nat}
    (below : index < length) (others : ∀ other < length, other ≠ index → part other = []) :
    (List.range length).flatMap part = part index := by
  induction length with
  | zero => omega
  | succ length inductionHypothesis =>
      rw [List.range_succ, List.flatMap_append, List.flatMap_singleton]
      by_cases last : index = length
      · subst last
        rw [List.flatMap_eq_nil_iff.mpr fun other member => ?_, List.nil_append]
        have less := List.mem_range.mp member
        exact others other (by omega) (by omega)
      · rw [inductionHypothesis (by omega) fun other less => others other (by omega),
          others length (by omega) (Ne.symm last), List.append_nil]

/-- If only one cell shows Karel, then this is the only arrow. -/
theorem arrowsFrom_rowsOf_eq (columnBelow : column < width) (rowBelow : row < height)
    (arrow : (cell column row).robotAt? ⟨.ofNat column, .ofNat row⟩ = some robot)
    (elsewhere : ∀ otherColumn < width, ∀ otherRow < height,
      otherColumn ≠ column ∨ otherRow ≠ row → ∀ point,
        (cell otherColumn otherRow).robotAt? point = none) :
    arrowsFrom 0 (rowsOf width height cell) = [robot] := by
  rw [arrowsFrom_rowsOf, flatMap_range_eq rowBelow fun other below different => ?_,
    flatMap_range_eq columnBelow fun other below different => ?_, arrow, Option.toList_some]
  · rw [elsewhere other below row rowBelow (.inl different), Option.toList_none]
  · refine List.flatMap_eq_nil_iff.mpr fun column member => ?_
    rw [elsewhere column (List.mem_range.mp member) other below (.inr different),
      Option.toList_none]

/-! ## The world of a picture -/

/-- A cell is named by its column and its row. -/
theorem cell_eq_iff (narrow : column ≤ Coordinate.greatest) (low : row ≤ Coordinate.greatest) :
    (⟨.ofNat column, .ofNat row⟩ : Point) = point ↔
      point.x.toInt = column ∧ point.y.toInt = row := by
  have x := Coordinate.toInt_ofNat narrow
  have y := Coordinate.toInt_ofNat low
  constructor
  · rintro rfl
    exact ⟨x, y⟩
  · rintro ⟨columns, rows⟩
    exact Point.eq_of_toInt (x.trans columns.symm) (y.trans rows.symm)

/-- The world that a picture with these cells tells of. -/
def worldOf (width height : Nat) (cell : Nat → Nat → Mark) (robot : Robot) : World where
  robot := robot
  grid := gridOf width height fun column row => (cell column row).ground

theorem bounds_worldOf : (worldOf width height cell robot).grid.bounds =
    .finite (.ofNat width) (.ofNat height) := Grid.bounds_ofList _ _

theorem grid_worldOf_sound : (worldOf width height cell robot).grid.Sound :=
  (Grid.Built.ofList _ _).sound

theorem grid_pictured : (pictured width (rowsOf width height cell) robot).grid =
    gridOf width height fun column row => (cell column row).ground := by
  unfold pictured gridOf
  rw [map_rowsOf]
  simp [rowsOf]

theorem place_pictured_eq_ok_iff {world : World} :
    (pictured width (rowsOf width height cell) robot).place = .ok world ↔
      (worldOf width height cell robot).tileHere.isBlocking = false ∧
        world = worldOf width height cell robot := by
  unfold Scene.place
  rw [grid_pictured]
  exact World.place_eq_ok_iff

section

variable (narrow : width ≤ Coordinate.greatest) (low : height ≤ Coordinate.greatest)
include narrow low

theorem tile_worldOf (columnBelow : column < width) (rowBelow : row < height) :
    (worldOf width height cell robot).tile ⟨.ofNat column, .ofNat row⟩ =
      (cell column row).ground :=
  get_gridOf_cell narrow low columnBelow rowBelow

/-- The cells inside the borders are those of the columns and the rows of the picture. -/
theorem exists_cell_worldOf
    (inside : (worldOf width height cell robot).grid.bounds.contains point = true) :
    ∃ column < width, ∃ row < height, point = ⟨.ofNat column, .ofNat row⟩ := by
  rw [bounds_worldOf, Bounds.contains_finite_iff, Coordinate.toInt_ofNat narrow,
    Coordinate.toInt_ofNat low] at inside
  exact ⟨point.x.toInt.toNat, by omega, point.y.toInt.toNat, by omega,
    ((cell_eq_iff (by omega) (by omega)).mpr (by omega)).symm⟩

end

section

variable (picture : IsPicture width (rowsOf width height cell) robot)
include picture

/-- The one arrow of a picture tells all of Karel. -/
theorem IsPicture.exists_arrow : ∃ row < height, ∃ column < width,
    cell column row = .robot robot.facing ∧ robot.position = ⟨.ofNat column, .ofNat row⟩ ∧
      robot.bag = .unlimited :=
  mem_arrowsFrom.mp (by simp [picture.arrows])

theorem IsPicture.position_of_arrow {facing : Direction} (columnBelow : column < width)
    (rowBelow : row < height) (arrow : cell column row = .robot facing) :
    robot.position = ⟨.ofNat column, .ofNat row⟩ := by
  have member : ⟨⟨.ofNat column, .ofNat row⟩, facing, .unlimited⟩ ∈
      arrowsFrom 0 (rowsOf width height cell) :=
    mem_arrowsFrom.mpr ⟨row, rowBelow, column, columnBelow, arrow, rfl, rfl⟩
  rw [picture.arrows, List.mem_singleton] at member
  rw [← member]

theorem IsPicture.drawable_cell (columnBelow : column < width) (rowBelow : row < height) :
    (cell column row).Drawable := by
  have drawable := picture.drawable
  simp only [rowsOf, List.forall_mem_map, List.mem_range] at drawable
  exact drawable row rowBelow column columnBelow

theorem tileHere_worldOf (narrow : width ≤ Coordinate.greatest)
    (low : height ≤ Coordinate.greatest) :
    (worldOf width height cell robot).tileHere = .empty := by
  obtain ⟨row, rowBelow, column, columnBelow, arrow, position, -⟩ := picture.exists_arrow
  show (worldOf width height cell robot).tile robot.position = .empty
  rw [position, tile_worldOf narrow low columnBelow rowBelow, arrow]
  rfl

end

end MapText

end Karel
