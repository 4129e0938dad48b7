import Karel.MapText.Writer
import Karel.Proofs.MapText.TableGrammar

/-!
# The text of a table

`tableText` is the text of a table, with a header for Karel and a word for each cell. The header is
one for this Karel and the words write these tiles, in the sense of the grammar of tables. So
`read_rowsOf` says that the text is read as this Karel on a grid that has these cells.
-/

namespace Karel.MapText

open Text (IsWord isWord_singleton)

variable {robot : Robot} {tiles : List Tile} {rows : List (List Tile)} {width height : Nat}
  {cell : Nat → Nat → Tile}

/-! ## The header -/

theorem isWord_bagField (bag : Bag) : IsWord (bagField bag).toList := by
  cases bag with
  | unlimited => exact isWord_singleton (by decide)
  | counted count => exact Text.Numeral.isWord_toString_nat _

theorem writesBag_bagField (bag : Bag) : WritesBag (bagField bag).toList bag := by
  cases bag with
  | unlimited => exact .bottomless (.inl rfl)
  | counted count =>
      refine .counted (Text.Numeral.unsigned?_eq_some_iff_writes.mp ?_)
      unfold bagField
      rw [Text.Numeral.toList_toString_nat]
      exact Text.Numeral.unsigned?_toDigits _

/-- The five words of a header. -/
def headerWords (robot : Robot) : List (List Char) :=
  ["KAREL".toList, (toString robot.position.x.toInt).toList,
    (toString robot.position.y.toInt).toList, [robot.facing.glyph], (bagField robot.bag).toList]

theorem toList_header (robot : Robot) :
    (header robot).toList = [' '].intercalate (headerWords robot) := by
  have text : header robot =
      "KAREL " ++ toString robot.position.x.toInt ++ " " ++ toString robot.position.y.toInt ++
        " " ++ (String.singleton robot.facing.glyph ++ " " ++ bagField robot.bag) := rfl
  rw [text]
  simp [headerWords]

theorem isWord_headerWords : ∀ word ∈ headerWords robot, IsWord word := by
  have keyword : IsWord "KAREL".toList := Text.isWord_of_all (by decide) (by decide)
  have facing : IsWord [robot.facing.glyph] := isWord_singleton (by cases robot.facing <;> decide)
  simpa [headerWords] using ⟨keyword, Text.Numeral.isWord_toString _,
    Text.Numeral.isWord_toString _, facing, isWord_bagField _⟩

/-- The header that is written for a Karel is one for it. -/
theorem isHeader_header (robot : Robot) : IsHeader (header robot).toList robot := by
  have words : Text.words (header robot).toList = headerWords robot := by
    rw [toList_header]
    exact Text.words_intercalate isWord_headerWords
  have keyword : Text.SpellsKeyword "KAREL".toList "KAREL".toList := keyword_iff.mpr (by decide)
  have column := Text.Numeral.integer?_toString robot.position.x.toInt
  have row := Text.Numeral.integer?_toString robot.position.y.toInt
  exact .intro words keyword (Text.Numeral.integer?_eq_some_iff_writes.mp column)
    (Text.Numeral.integer?_eq_some_iff_writes.mp row) (writesBag_bagField robot.bag)

/-! ## Rows -/

theorem isWord_token (tile : Tile) : IsWord tile.token.toList := by
  cases tile with
  | empty => exact isWord_singleton (by decide)
  | wall => exact isWord_singleton (by decide)
  | treasure => exact isWord_singleton (by decide)
  | beepers pile => exact Text.Numeral.isWord_toString_nat _

theorem writesTile_token (tile : Tile) : WritesTile tile.token.toList tile := by
  cases tile with
  | empty => exact .point
  | wall => exact .wall
  | treasure => exact .treasure
  | beepers pile =>
      refine .beepers (Text.Numeral.natural?_eq_some_iff_writes.mp ?_)
      unfold Tile.token
      rw [Text.Numeral.toList_toString_nat]
      exact Text.Numeral.natural?_toDigits _

/-- The characters of a row. -/
def rowText (tiles : List Tile) : List Char :=
  [' '].intercalate (tiles.map fun tile => tile.token.toList)

theorem isWord_of_mem_tokens : ∀ word ∈ tiles.map fun tile => tile.token.toList, IsWord word := by
  rintro word member
  obtain ⟨tile, -, rfl⟩ := List.mem_map.mp member
  exact isWord_token tile

theorem words_rowText : Text.words (rowText tiles) = tiles.map fun tile => tile.token.toList :=
  Text.words_intercalate isWord_of_mem_tokens

/-- The words of written rows write their tiles. -/
theorem writesTiles_rowText {lines : List NumberedLine}
    (shown : lines.map (·.content) = rows.map rowText) :
    WritesTiles rows (lines.map NumberedLine.words) := by
  have words : lines.map NumberedLine.words =
      rows.map fun tiles => tiles.map fun tile => tile.token.toList := by
    have split := congrArg (List.map Text.words) shown
    rw [List.map_map, List.map_map] at split
    exact split.trans (List.map_congr_left fun _ _ => words_rowText)
  unfold WritesTiles
  rw [words, List.forall₂_map_right_iff, List.forall₂_same]
  intro tiles _
  rw [List.forall₂_map_right_iff, List.forall₂_same]
  exact fun tile _ => writesTile_token tile

/-! ## Tables -/

/-- The text of a table: the header, and then line by line the rows. -/
def tableText (robot : Robot) (rows : List (List Tile)) : String :=
  String.join ((header robot :: rows.map fun tiles => " ".intercalate (tiles.map Tile.token)).map
    (· ++ "\n"))

theorem toList_tableText (robot : Robot) (rows : List (List Tile)) :
    (tableText robot rows).toList =
      ((header robot).toList :: rows.map rowText).flatMap (· ++ ['\n']) := by
  simp [tableText, rowText, List.flatMap_map, Function.comp_def]

/-- The lines of a table are its header and its rows, if the rows have any cells. -/
theorem contentLines_tableText (even : ∀ tiles ∈ rows, tiles.length = width) (wide : 0 < width)
    (robot : Robot) :
    (contentLines (tableText robot rows).toList).map (·.content) =
      (header robot).toList :: rows.map rowText := by
  rw [toList_tableText]
  refine contentLines_flatMap (List.forall_mem_cons.mpr ⟨?_, List.forall_mem_map.mpr ?_⟩)
  · rw [toList_header]
    exact ⟨Text.not_mem_intercalate isWord_headerWords,
      Text.all_isBlank_intercalate isWord_headerWords (List.cons_ne_nil _ _)⟩
  · intro tiles member
    have some : tiles.map (fun tile => tile.token.toList) ≠ [] := by
      rw [Ne, List.map_eq_nil_iff, ← List.length_eq_zero_iff, even tiles member]
      omega
    exact ⟨Text.not_mem_intercalate isWord_of_mem_tokens,
      Text.all_isBlank_intercalate isWord_of_mem_tokens some⟩

/-- The text of a table is read as its Karel and its tiles. -/
theorem read_tableText (even : ∀ tiles ∈ rows, tiles.length = width) (wide : 0 < width)
    (high : rows ≠ []) :
    read .table none (tableText robot rows) = .ok (tabled width rows robot) := by
  have written := contentLines_tableText even wide robot
  obtain ⟨head, lines, found, headContent, shown⟩ := List.map_eq_cons_iff.mp written
  have told : IsHeader head.content robot := headContent ▸ isHeader_header robot
  have writes := writesTiles_rowText shown
  have some : lines ≠ [] := by
    rintro rfl
    exact high (List.map_eq_nil_iff.mp shown.symm)
  have evens := List.forall_mem_map.mp ((forall_length_eq_iff writes).mp even)
  exact (read_table_eq_ok_iff found).mpr ⟨told, some, width, rows, evens, writes, rfl⟩

/-- A table of at least one cell is read as its Karel and the grid of its cells. -/
theorem read_rowsOf (robot : Robot) (wide : 0 < width) (high : 0 < height) :
    read .table none (tableText robot (rowsOf width height cell)) =
      .ok ⟨robot, gridOf width height cell, .ofNat width, .ofNat height⟩ := by
  have count : (rowsOf width height cell).length = height := by simp [rowsOf]
  have even : ∀ tiles ∈ rowsOf width height cell, tiles.length = width := by simp [rowsOf]
  have some : rowsOf width height cell ≠ [] := by
    rw [Ne, ← List.length_eq_zero_iff, count]
    omega
  rw [read_tableText even wide some]
  unfold tabled
  rw [count]
  rfl

end Karel.MapText
