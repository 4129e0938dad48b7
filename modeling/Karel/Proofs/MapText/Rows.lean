import Karel.MapText.Reader
import Karel.Proofs.Text.Words
import Karel.Proofs.Worlds

/-!
# Rows and the grids that they are read as

Reading a map enters tiles in a draft, cell by cell. `entries` are the tiles of rows with their cells,
as they are entered, and `gridOf` is the grid that is made of them. It has the tiles of the rows, as
far as coordinates can count the rows and the columns.
-/

namespace Karel

namespace Grid

variable {grid : Grid} {bounds : Bounds} {tiles : List (Point × Tile)} {content : Point → Tile}
  {point : Point}

/-- What a list writes is found, and all else is as it was before. -/
theorem get_foldl_set (agrees : ∀ entry ∈ tiles, entry.2 = content entry.1)
    (inside : grid.bounds.contains point = true) :
    (tiles.foldl (fun grid entry => grid.set entry.1 entry.2) grid).get point =
      if point ∈ tiles.map Prod.fst then content point else grid.get point := by
  induction tiles generalizing grid with
  | nil => simp
  | cons entry rest inductionHypothesis =>
      obtain ⟨first, others⟩ := List.forall_mem_cons.mp agrees
      rw [List.foldl_cons, inductionHypothesis others (by rwa [bounds_set]), get_set, first]
      by_cases later : point ∈ rest.map Prod.fst
      · simp [later]
      · by_cases same : entry.1 = point
        · simp [same, inside]
        · simp [later, same, Ne.symm same]

/-- The grid of a list has its tiles, if the list never gives one cell two of them. -/
theorem get_ofList (content : Point → Tile) (agrees : ∀ entry ∈ tiles, entry.2 = content entry.1)
    (inside : bounds.contains point = true) :
    (Grid.ofList bounds tiles).get point =
      if point ∈ tiles.map Prod.fst then content point else .empty := by
  unfold Grid.ofList
  rw [get_foldl_set agrees inside, get_empty, if_pos inside]

end Grid

namespace MapText

/-! ## What is entered of rows -/

variable {tile : Tile} {tiles : List Tile} {rows : List (List Tile)} {draft : Draft}
  {line row column width height : Nat} {cell : Nat → Nat → Tile} {point : Point}

/-- The tiles of a row that are not empty, with their cells, from the given column on. -/
def rowEntries (row column : Nat) (tiles : List Tile) : List (Point × Tile) :=
  (tiles.zipIdx column).filterMap fun (tile, column) =>
    if tile = .empty then none else some (⟨.ofNat column, .ofNat row⟩, tile)

/-- The tiles of rows that are not empty, with their cells, from the given row on. -/
def entries (row : Nat) (rows : List (List Tile)) : List (Point × Tile) :=
  (rows.zipIdx row).flatMap fun (tiles, row) => rowEntries row 0 tiles

/-- Adds tiles to a draft. The last one becomes the first. -/
def Draft.add (draft : Draft) (entries : List (Point × Tile)) : Draft :=
  { draft with tiles := entries.reverse ++ draft.tiles }

theorem Draft.add_add (draft : Draft) (first second : List (Point × Tile)) :
    (draft.add first).add second = draft.add (first ++ second) := by
  simp [Draft.add]

theorem enter_tile : draft.enter false line column row (.tile tile) =
    .ok (draft.add (rowEntries row column [tile])) := by
  cases tile <;> rfl

theorem rowEntries_cons : rowEntries row column (tile :: tiles) =
    rowEntries row column [tile] ++ rowEntries row (column + 1) tiles := by
  unfold rowEntries
  rw [← List.filterMap_append]
  rfl

/-! ## Lines with content -/

/-- The lines with content are those that are not blank. -/
theorem content_contentLines (text : List Char) : (contentLines text).map (·.content) =
    (Text.lines text).filter fun line => !line.all Text.isBlank := by
  unfold contentLines
  generalize 1 = number
  induction Text.lines text generalizing number with
  | nil => rfl
  | cons line rest inductionHypothesis =>
      rw [List.zipIdx_cons, List.filterMap_cons, List.filter_cons]
      dsimp only
      cases line.all Text.isBlank with
      | true => exact inductionHypothesis (number + 1)
      | false => exact congrArg (line :: ·) (inductionHypothesis (number + 1))

/-- Lines that are not blank are all found in a text. -/
theorem contentLines_flatMap {written : List (List Char)}
    (each : ∀ line ∈ written, '\n' ∉ line ∧ line.all Text.isBlank = false) :
    (contentLines (written.flatMap (· ++ ['\n']))).map (·.content) = written := by
  rw [content_contentLines, Text.lines_flatMap fun line member => (each line member).1,
    List.filter_append, List.filter_eq_self.mpr fun line member => by simp [(each line member).2]]
  exact List.append_nil _

/-! ## The grid of rows -/

/-- The rows of the given size with the given cells. -/
def rowsOf {α : Type} (width height : Nat) (cell : Nat → Nat → α) : List (List α) :=
  (List.range height).map fun row => (List.range width).map fun column => cell column row

/-- What a row or a column shows at an index below its length. -/
theorem getElem?_map_range {α : Type} {content : Nat → α} {value : α} {length index : Nat} :
    ((List.range length).map content)[index]? = some value ↔
      index < length ∧ content index = value := by
  rw [List.getElem?_eq_some_iff]
  simp

/-- The cell at a place of rows, counted from zero. -/
def cellAt? {α : Type} (rows : List (List α)) (column row : Nat) : Option α :=
  rows[row]?.bind fun cells => cells[column]?

/-- What is at a place of rows of cells. -/
theorem cellAt?_rowsOf {α : Type} {cell : Nat → Nat → α} {value : α} :
    cellAt? (rowsOf width height cell) column row = some value ↔
      row < height ∧ column < width ∧ cell column row = value := by
  unfold cellAt? rowsOf
  simp only [Option.bind_eq_some_iff, getElem?_map_range]
  constructor
  · rintro ⟨_, ⟨rowBelow, rfl⟩, there⟩
    exact ⟨rowBelow, getElem?_map_range.mp there⟩
  · rintro ⟨rowBelow, there⟩
    exact ⟨_, ⟨rowBelow, rfl⟩, getElem?_map_range.mpr there⟩

theorem cellAt?_map {α β : Type} (change : α → β) (rows : List (List α)) :
    cellAt? (rows.map (·.map change)) column row = (cellAt? rows column row).map change := by
  unfold cellAt?
  rw [List.getElem?_map]
  cases rows[row]? <;> simp

/-- Rows of one length are those of the cells that they have. -/
theorem exists_rowsOf {α : Type} (blank : α) {rows : List (List α)}
    (even : ∀ line ∈ rows, line.length = width) : ∃ cell, rows = rowsOf width rows.length cell := by
  refine ⟨fun column row => (rows.getD row []).getD column blank, ?_⟩
  refine List.ext_getElem (by simp [rowsOf]) fun row below _ => ?_
  refine List.ext_getElem (by simp [rowsOf, even]) fun column inside _ => ?_
  simp [rowsOf, below, inside]

/-- The entries of rows are their cells that are not empty. -/
theorem mem_entries : (point, tile) ∈ entries 0 (rowsOf width height cell) ↔
    tile ≠ .empty ∧ ∃ column < width, ∃ row < height,
      point = ⟨.ofNat column, .ofNat row⟩ ∧ tile = cell column row := by
  simp only [entries, rowEntries, rowsOf, List.mem_flatMap, List.mem_filterMap,
    Prod.exists, List.mem_zipIdx_iff_getElem?, getElem?_map_range]
  constructor
  · rintro ⟨_, row, ⟨rowBelow, rfl⟩, _, column, there, kept⟩
    obtain ⟨columnBelow, rfl⟩ := getElem?_map_range.mp there
    split at kept
    next => cases kept
    next nonempty =>
      cases kept
      exact ⟨nonempty, column, columnBelow, row, rowBelow, rfl, rfl⟩
  · rintro ⟨nonempty, column, columnBelow, row, rowBelow, rfl, rfl⟩
    exact ⟨_, row, ⟨rowBelow, rfl⟩, _, column, getElem?_map_range.mpr ⟨columnBelow, rfl⟩,
      if_neg nonempty⟩

theorem rowsOf_congr {α : Type} {cell other : Nat → Nat → α}
    (same : ∀ column < width, ∀ row < height, cell column row = other column row) :
    rowsOf width height cell = rowsOf width height other := by
  refine List.map_congr_left fun row rowBelow => List.map_congr_left fun column columnBelow => ?_
  exact same column (List.mem_range.mp columnBelow) row (List.mem_range.mp rowBelow)

/-- The grid that rows of the given size with the given cells are read as. -/
def gridOf (width height : Nat) (cell : Nat → Nat → Tile) : Grid :=
  .ofList (.finite (.ofNat width) (.ofNat height)) (entries 0 (rowsOf width height cell)).reverse

/-- The grid of rows has their tiles. -/
theorem get_gridOf (narrow : width ≤ Coordinate.greatest) (low : height ≤ Coordinate.greatest)
    (inside : (Bounds.finite (.ofNat width) (.ofNat height)).contains point = true) :
    (gridOf width height cell).get point = cell point.x.toInt.toNat point.y.toInt.toNat := by
  have agrees : ∀ entry ∈ (entries 0 (rowsOf width height cell)).reverse,
      entry.2 = cell entry.1.x.toInt.toNat entry.1.y.toInt.toNat := by
    rintro ⟨_, _⟩ member
    obtain ⟨-, column, columnBelow, row, rowBelow, rfl, rfl⟩ :=
      mem_entries.mp (List.mem_reverse.mp member)
    dsimp only
    rw [Coordinate.toInt_ofNat (by omega), Coordinate.toInt_ofNat (by omega), Int.toNat_natCast,
      Int.toNat_natCast]
  unfold gridOf
  rw [Grid.get_ofList (fun point => cell point.x.toInt.toNat point.y.toInt.toNat) agrees inside]
  obtain ⟨⟨left, right⟩, top, bottom⟩ := Bounds.contains_finite_iff.mp inside
  rw [Coordinate.toInt_ofNat narrow] at right
  rw [Coordinate.toInt_ofNat low] at bottom
  split
  next => rfl
  next unlisted =>
    refine Decidable.byContradiction fun different => unlisted (List.mem_map.mpr
      ⟨(point, cell point.x.toInt.toNat point.y.toInt.toNat), ?_, rfl⟩)
    exact List.mem_reverse.mpr (mem_entries.mpr
      ⟨Ne.symm different, _, by omega, _, by omega, by
        rw [Coordinate.ofNat_toNat left, Coordinate.ofNat_toNat top], rfl⟩)

/-- A cell is the cell of the grid in its column and row. -/
theorem get_gridOf_cell (narrow : width ≤ Coordinate.greatest) (low : height ≤ Coordinate.greatest)
    (columnBelow : column < width) (rowBelow : row < height) :
    (gridOf width height cell).get ⟨.ofNat column, .ofNat row⟩ = cell column row := by
  have x : (.ofNat column : Coordinate).toInt = column := Coordinate.toInt_ofNat (by omega)
  have y : (.ofNat row : Coordinate).toInt = row := Coordinate.toInt_ofNat (by omega)
  rw [get_gridOf narrow low (Bounds.contains_finite_iff.mpr ?_), x, y, Int.toNat_natCast,
    Int.toNat_natCast]
  rw [Coordinate.toInt_ofNat narrow, Coordinate.toInt_ofNat low, x, y]
  omega

/-- A tile of rows of one length is in the grid of these rows. -/
theorem get_entries (even : ∀ tiles ∈ rows, tiles.length = width)
    (narrow : width ≤ Coordinate.greatest) (low : rows.length ≤ Coordinate.greatest)
    (there : cellAt? rows column row = some tile) :
    (Grid.ofList (.finite (.ofNat width) (.ofNat rows.length)) (entries 0 rows).reverse).get
      ⟨.ofNat column, .ofNat row⟩ = tile := by
  obtain ⟨cell, cells⟩ := exists_rowsOf .empty even
  rw [cells, cellAt?_rowsOf] at there
  obtain ⟨rowBelow, columnBelow, rfl⟩ := there
  rw [congrArg (entries 0) cells]
  exact get_gridOf_cell narrow low columnBelow rowBelow

end MapText

end Karel
