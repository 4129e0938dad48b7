import Karel.MapText.Writer
import Karel.Proofs.MapText.PictureCells

/-!
# Pictures that are written and read back

A picture of a world has a mark for each cell inside the borders, `World.mark`, and it can be
written if each of the marks has a character and nothing lies under Karel. It is then read as the
same world. The other way round, the world that a picture tells of has the marks of the picture, so
it is written by the same characters. `writePicture_read` puts this together.
-/

namespace Karel

namespace World

variable {world : World} {width height : Coordinate} {point : Point}

/-- There is room for Karel. -/
theorem Sound.size_pos (sound : world.Sound) (bounded : world.grid.bounds = .finite width height) :
    0 < width.toInt ∧ 0 < height.toInt := by
  obtain ⟨⟨left, right⟩, top, bottom⟩ :=
    Bounds.contains_finite_iff.mp (bounded ▸ sound.contains_position)
  omega

/-- The mark of a cell in a picture of the world. -/
def mark (world : World) (point : Point) : MapText.Mark :=
  if point = world.robot.position then .robot world.robot.facing else .tile (world.tile point)

/-- The mark in a column and a row of a picture of the world. -/
def markAt (world : World) (column row : Nat) : MapText.Mark :=
  world.mark ⟨.ofNat column, .ofNat row⟩

/-- The rows of a picture of a world of this size. -/
def picture (world : World) (width height : Coordinate) : List (List MapText.Mark) :=
  MapText.rowsOf width.toInt.toNat height.toInt.toNat world.markAt

/-- What a world has to be like to be shown by a picture. -/
structure FitsPicture (world : World) : Prop where
  bounded : ∃ width height, world.grid.bounds = .finite width height
  bag : world.robot.bag = .unlimited
  here : world.tileHere = .empty
  piles : ∀ point, (world.tile point).count.toNat ≤ 9

/-- Nothing is lost under Karel if nothing is there. -/
theorem ground_mark (here : world.tileHere = .empty) (point : Point) :
    (world.mark point).ground = world.tile point := by
  unfold mark
  split
  next same =>
    rw [same]
    exact here.symm
  next => rfl

theorem pictureGlyph_eq (world : World) (point : Point) :
    MapText.pictureGlyph world point = (world.mark point).glyph := by
  unfold MapText.pictureGlyph mark
  split <;> rfl

theorem count_tile_of_not_contains (outside : ¬ world.grid.bounds.contains point = true) :
    (world.tile point).count = 0 := by
  unfold World.tile Grid.get
  rw [if_neg outside]
  rfl

end World

namespace MapText

variable {world : World} {width height : Coordinate} {text : String}

/-! ## Writing a world -/

/-- Nothing is in the way of a picture if nothing is under Karel and no pile is too large. -/
theorem findSome?_pictureLimit?_eq_none_iff (sound : world.Sound) :
    (world.grid.toList.findSome? fun (point, tile) => pictureLimit? world point tile) = none ↔
      world.tileHere = .empty ∧ ∀ point, (world.tile point).count.toNat ≤ 9 := by
  have stored : ∀ {point tile}, (point, tile) ∈ world.grid.toList ↔
      tile ≠ .empty ∧ world.grid.bounds.contains point = true ∧ world.tile point = tile :=
    Std.ExtTreeMap.mem_toList_iff_getElem?_eq_some.trans sound.grid.stored_iff
  have limits : ∀ {point tile}, pictureLimit? world point tile = none ↔
      point ≠ world.robot.position ∧ tile.count.toNat ≤ 9 := by
    intro point tile
    have nine : (9 : BeeperCount).toNat = 9 := rfl
    unfold pictureLimit?
    by_cases same : point = world.robot.position <;> simp [same, UInt32.lt_iff_toNat_lt, nine]
  simp only [List.findSome?_eq_none_iff, Prod.forall, stored, limits]
  constructor
  · intro unlimited
    constructor
    · refine Decidable.byContradiction fun nonempty => ?_
      exact (unlimited _ _ ⟨nonempty, sound.contains_position, rfl⟩).1 rfl
    · intro point
      by_cases inside : world.grid.bounds.contains point = true
      · by_cases nonempty : world.tile point = .empty
        · rw [nonempty]
          exact Nat.zero_le 9
        · exact (unlimited _ _ ⟨nonempty, inside, rfl⟩).2
      · rw [World.count_tile_of_not_contains inside]
        exact Nat.zero_le 9
  · rintro ⟨here, piles⟩ point tile ⟨nonempty, -, rfl⟩
    refine ⟨?_, piles point⟩
    rintro rfl
    exact nonempty here

/-- A world that fits is written by the characters of its marks. -/
theorem writePicture_of_fits (sound : world.Sound) (fits : world.FitsPicture)
    (bounded : world.grid.bounds = .finite width height) :
    writePicture world = .ok (textOf ((world.picture width height).map (·.map Mark.glyph))) := by
  have sized : world.grid.bounds.size? = some (width, height) := by rw [bounded]; rfl
  have unlimited := (findSome?_pictureLimit?_eq_none_iff sound).mpr ⟨fits.here, fits.piles⟩
  obtain ⟨wide, high⟩ := sound.size_pos bounded
  unfold writePicture
  simp only [sized, fits.bag, ne_eq, not_true_eq_false, if_false, unlimited,
    World.pictureGlyph_eq]
  rw [Coordinate.range_zero wide, Coordinate.range_zero high, World.picture, map_rowsOf]
  refine congrArg Except.ok (String.toList_inj.mp ?_)
  simp [textOf, rowsOf, World.markAt, List.flatMap_map, Function.comp_def]

/-- Of a world with borders that does not fit, something can not be shown. -/
theorem exists_limit_of_not_fits (sound : world.Sound) (unfit : ¬ world.FitsPicture)
    (bounded : world.grid.bounds = .finite width height) :
    ∃ limit, writePicture world = .error (.notInPicture limit) := by
  have sized : world.grid.bounds.size? = some (width, height) := by rw [bounded]; rfl
  unfold writePicture
  simp only [sized]
  by_cases bag : world.robot.bag = .unlimited
  · rw [if_neg (not_not.mpr bag)]
    split
    next limit _ => exact ⟨limit, rfl⟩
    next unlimited =>
      obtain ⟨here, piles⟩ := (findSome?_pictureLimit?_eq_none_iff sound).mp unlimited
      exact absurd ⟨⟨width, height, bounded⟩, bag, here, piles⟩ unfit
  · rw [if_pos bag]
    exact ⟨_, rfl⟩

/-- Either a border is missing, or the world is written, or something in it can not be shown. -/
theorem writePicture_cases (sound : world.Sound) :
    ((world.grid.bounds.width = none ∨ world.grid.bounds.height = none) ∧
      writePicture world = .error .unbounded) ∨
    ∃ width height, world.grid.bounds = .finite width height ∧
      (world.FitsPicture ∧ writePicture world =
        .ok (textOf ((world.picture width height).map (·.map Mark.glyph))) ∨
      ¬ world.FitsPicture ∧ ∃ limit, writePicture world = .error (.notInPicture limit)) := by
  rcases borders : world.grid.bounds with ⟨_ | width, _ | height⟩
  case some.some =>
    refine .inr ⟨width, height, rfl, ?_⟩
    by_cases fits : world.FitsPicture
    · exact .inl ⟨fits, writePicture_of_fits sound fits borders⟩
    · exact .inr ⟨fits, exists_limit_of_not_fits sound fits borders⟩
  all_goals exact .inl ⟨by simp, by simp [writePicture, borders, Bounds.size?]⟩

theorem exists_writePicture_iff (sound : world.Sound) :
    (∃ text, writePicture world = .ok text) ↔ world.FitsPicture := by
  rcases writePicture_cases sound with
    ⟨unbounded, refused⟩ | ⟨_, _, _, ⟨fits, written⟩ | ⟨unfit, _, refused⟩⟩
  · simp only [refused, reduceCtorEq, exists_false, false_iff]
    intro fits
    obtain ⟨width, height, bounded⟩ := fits.bounded
    simp [bounded, Bounds.finite] at unbounded
  · simp [written, fits]
  · simp [refused, unfit]

theorem writePicture_eq_unbounded_iff (sound : world.Sound) :
    writePicture world = .error .unbounded ↔
      world.grid.bounds.width = none ∨ world.grid.bounds.height = none := by
  rcases writePicture_cases sound with
    ⟨unbounded, refused⟩ | ⟨_, _, bounded, ⟨-, written⟩ | ⟨-, _, refused⟩⟩
  · simp [refused, unbounded]
  · simp [written, bounded, Bounds.finite]
  · simp [refused, bounded, Bounds.finite]

theorem exists_limit_iff (sound : world.Sound) :
    (∃ limit, writePicture world = .error (.notInPicture limit)) ↔
      (∃ width height, world.grid.bounds = .finite width height) ∧ ¬ world.FitsPicture := by
  rcases writePicture_cases sound with
    ⟨unbounded, refused⟩ | ⟨_, _, bounded, ⟨fits, written⟩ | ⟨unfit, _, refused⟩⟩
  · simp only [refused, Except.error.injEq, reduceCtorEq, exists_false, false_iff]
    rintro ⟨⟨width, height, bounded⟩, -⟩
    simp [bounded, Bounds.finite] at unbounded
  · simp [written, fits]
  · simp [refused, unfit, bounded, Bounds.finite]

/-- What is written is the text of the picture of the world. -/
theorem picture_of_written (sound : world.Sound) (written : writePicture world = .ok text) :
    world.FitsPicture ∧ ∃ width height, world.grid.bounds = .finite width height ∧
      text = textOf ((world.picture width height).map (·.map Mark.glyph)) := by
  rcases writePicture_cases sound with
    ⟨-, refused⟩ | ⟨width, height, bounded, ⟨fits, shown⟩ | ⟨-, _, refused⟩⟩
  · rw [refused] at written
    cases written
  · rw [shown] at written
    exact ⟨fits, width, height, bounded, (Except.ok.inj written).symm⟩
  · rw [refused] at written
    cases written

/-! ## Reading what was written -/

section

variable (sound : world.Sound) (fits : world.FitsPicture)
  (bounded : world.grid.bounds = .finite width height)
include sound fits bounded

/-- The picture of a world has one arrow, for the world's own Karel. -/
theorem isPicture_picture : IsPicture width.toInt.toNat (world.picture width height) world.robot where
  even := by simp [World.picture, rowsOf]
  drawable := by
    simp only [World.picture, rowsOf, List.forall_mem_map, Mark.Drawable, World.markAt,
      World.ground_mark fits.here]
    exact fun _ _ _ _ => fits.piles _
  arrows := by
    obtain ⟨⟨left, right⟩, top, bottom⟩ :=
      Bounds.contains_finite_iff.mp (bounded ▸ sound.contains_position)
    have narrow := width.le_greatest
    have low := height.le_greatest
    obtain ⟨x, column⟩ := Int.eq_ofNat_of_zero_le left
    obtain ⟨y, row⟩ := Int.eq_ofNat_of_zero_le top
    have here : (⟨.ofNat x, .ofNat y⟩ : Point) = world.robot.position :=
      (cell_eq_iff (by omega) (by omega)).mpr ⟨column, row⟩
    have columnBelow : x < width.toInt.toNat := by omega
    have rowBelow : y < height.toInt.toNat := by omega
    refine arrowsFrom_rowsOf_eq columnBelow rowBelow ?_ ?_
    · rw [World.markAt, World.mark, here, if_pos rfl, Mark.robotAt?, ← fits.bag]
    · intro otherColumn columnLess otherRow rowLess different point
      have elsewhere : (⟨.ofNat otherColumn, .ofNat otherRow⟩ : Point) ≠ world.robot.position := by
        intro same
        obtain ⟨otherX, otherY⟩ := (cell_eq_iff (by omega) (by omega)).mp same
        omega
      rw [World.markAt, World.mark, if_neg elsewhere, Mark.robotAt?]

/-- What the picture of a world tells of is this world. -/
theorem place_picture : ∃ reloaded,
    (pictured width.toInt.toNat (world.picture width height) world.robot).place = .ok reloaded ∧
      reloaded.grid.bounds = world.grid.bounds ∧
      (∀ point, reloaded.tile point = world.tile point) ∧ reloaded.robot = world.robot := by
  obtain ⟨wide, high⟩ := sound.size_pos bounded
  have widest := width.le_greatest
  have highest := height.le_greatest
  have narrow : (width.toInt.toNat : Int) ≤ Coordinate.greatest := by omega
  have low : (height.toInt.toNat : Int) ≤ Coordinate.greatest := by omega
  have picture := isPicture_picture sound fits bounded
  have bounds : (worldOf width.toInt.toNat height.toInt.toNat world.markAt world.robot).grid.bounds =
      world.grid.bounds := by
    rw [bounds_worldOf, bounded, Coordinate.ofNat_toNat (by omega),
      Coordinate.ofNat_toNat (by omega)]
  refine ⟨_, place_pictured_eq_ok_iff.mpr ⟨?_, rfl⟩, bounds, fun point => ?_, rfl⟩
  · rw [tileHere_worldOf picture narrow low]
    rfl
  · by_cases inside : world.grid.bounds.contains point = true
    · obtain ⟨column, columnBelow, row, rowBelow, rfl⟩ :=
        exists_cell_worldOf narrow low (bounds.symm ▸ inside)
      rw [tile_worldOf narrow low columnBelow rowBelow]
      exact World.ground_mark fits.here _
    · unfold World.tile Grid.get
      rw [bounds, if_neg inside, if_neg inside]

end

/-! ## Writing what was read -/

section

variable {columns rows : Nat} {cell : Nat → Nat → Mark} {robot : Robot}
  (picture : IsPicture columns (rowsOf columns rows cell) robot)
  (narrow : columns ≤ Coordinate.greatest) (low : rows ≤ Coordinate.greatest)
include picture narrow low

/-- The world that a picture tells of has the marks of the picture. -/
theorem markAt_worldOf {column row : Nat} (columnBelow : column < columns) (rowBelow : row < rows) :
    (worldOf columns rows cell robot).markAt column row = cell column row := by
  unfold World.markAt World.mark
  split
  next same =>
    obtain ⟨arrowRow, arrowBelow, arrowColumn, arrowLess, arrow, position, -⟩ :=
      picture.exists_arrow
    obtain ⟨x, y⟩ := (cell_eq_iff (by omega) (by omega)).mp (same.trans position)
    rw [Coordinate.toInt_ofNat (by omega)] at x y
    obtain rfl : arrowColumn = column := by omega
    obtain rfl : arrowRow = row := by omega
    exact arrow.symm
  next different =>
    rw [tile_worldOf narrow low columnBelow rowBelow]
    cases shown : cell column row with
    | robot facing =>
        exact absurd (picture.position_of_arrow columnBelow rowBelow shown).symm different
    | tile content => rfl

theorem fitsPicture_worldOf : (worldOf columns rows cell robot).FitsPicture where
  bounded := ⟨_, _, bounds_worldOf⟩
  bag := by
    obtain ⟨-, -, -, -, -, -, bag⟩ := picture.exists_arrow
    exact bag
  here := tileHere_worldOf picture narrow low
  piles := by
    intro point
    by_cases inside : (worldOf columns rows cell robot).grid.bounds.contains point = true
    · obtain ⟨column, columnBelow, row, rowBelow, rfl⟩ := exists_cell_worldOf narrow low inside
      rw [tile_worldOf narrow low columnBelow rowBelow]
      exact picture.drawable_cell columnBelow rowBelow
    · rw [World.count_tile_of_not_contains inside]
      exact Nat.zero_le 9

/-- The world that a picture tells of is written by the text of this picture. -/
theorem writePicture_worldOf : writePicture (worldOf columns rows cell robot) =
    .ok (textOf ((rowsOf columns rows cell).map (·.map Mark.glyph))) := by
  have here := tileHere_worldOf picture narrow low
  have sound : (worldOf columns rows cell robot).Sound := ⟨by rw [here]; rfl, grid_worldOf_sound⟩
  rw [writePicture_of_fits sound (fitsPicture_worldOf picture narrow low) bounds_worldOf]
  unfold World.picture
  rw [Coordinate.toInt_ofNat narrow, Coordinate.toInt_ofNat low, Int.toNat_natCast,
    Int.toNat_natCast, rowsOf_congr fun column columnBelow row rowBelow =>
      markAt_worldOf picture narrow low columnBelow rowBelow]

end

/-- Whether the rows of a map and the cells of each row can be counted by coordinates. -/
structure Measurable (text : String) : Prop where
  high : (contentRows text).length ≤ Coordinate.greatest
  wide : ∀ row ∈ contentRows text, row.length ≤ Coordinate.greatest

/-- The size of a map is that of the picture that it is read as. -/
theorem measurable_iff {columns : Nat} {rows : List (List Mark)} {robot : Robot}
    (picture : IsPicture columns rows robot)
    (shown : rows.map (·.map Mark.glyph) = (contentRows text).map (·.map pointed)) :
    Measurable text ↔ columns ≤ Coordinate.greatest ∧ rows.length ≤ Coordinate.greatest := by
  have count : rows.length = (contentRows text).length := by
    simpa using congrArg List.length shown
  have lengths : (contentRows text).map List.length = rows.map List.length := by
    simpa [Function.comp_def] using (congrArg (List.map List.length) shown).symm
  have across : ∀ row ∈ contentRows text, row.length = columns := by
    intro row member
    have length := lengths ▸ List.mem_map_of_mem (f := List.length) member
    obtain ⟨marks, inRows, same⟩ := List.mem_map.mp length
    exact same.symm.trans (picture.even marks inRows)
  have some : contentRows text ≠ [] := by
    rw [Ne, ← List.length_eq_zero_iff, ← count, List.length_eq_zero_iff]
    exact picture.ne_nil
  obtain ⟨first, member⟩ := List.exists_mem_of_ne_nil _ some
  constructor
  · rintro ⟨high, wide⟩
    exact ⟨across first member ▸ wide first member, count ▸ high⟩
  · rintro ⟨wide, high⟩
    exact ⟨count ▸ high, fun row inText => (across row inText).symm ▸ wide⟩

/-- What a text tells of is written by this text once it is tidied, if coordinates can count its rows
and columns. Otherwise there is no such world, for the sizes of a world are coordinates. -/
theorem measurable_iff_written {scene : Scene} (accepted : read .picture none text = .ok scene) :
    Measurable text ↔
      ∃ world, scene.place = .ok world ∧ writePicture world = .ok (tidied text) := by
  obtain ⟨columns, rows, robot, picture, shown, rfl⟩ := read_picture_eq_ok_iff.mp accepted
  obtain ⟨cell, cells⟩ := exists_rowsOf (.tile .empty) picture.even
  generalize rows.length = count at cells
  subst cells
  constructor
  · intro measurable
    obtain ⟨narrow, low⟩ := (measurable_iff picture shown).mp measurable
    rw [show (rowsOf columns count cell).length = count by simp [rowsOf]] at low
    refine ⟨_, place_pictured_eq_ok_iff.mpr ⟨?_, rfl⟩, ?_⟩
    · rw [tileHere_worldOf picture narrow low]
      rfl
    · rw [writePicture_worldOf picture narrow low, shown]
      rfl
  · rintro ⟨world, placed, written⟩
    obtain ⟨passable, rfl⟩ := place_pictured_eq_ok_iff.mp placed
    have sound : (worldOf columns count cell robot).Sound := ⟨passable, grid_worldOf_sound⟩
    obtain ⟨fits, width, height, bounded, same⟩ := picture_of_written sound written
    have drawn := isPicture_picture sound fits bounded
    have lines := congrArg contentRows same
    unfold tidied at lines
    rw [contentRows_textOf drawn.isWord, contentRows_textOf (shown ▸ picture.isWord)] at lines
    have size : ((worldOf columns count cell robot).picture width height).length =
        height.toInt.toNat := by simp [World.picture, rowsOf]
    obtain ⟨wide, high⟩ := sound.size_pos bounded
    have widest := width.le_greatest
    have highest := height.le_greatest
    exact (measurable_iff drawn lines.symm).mpr ⟨by omega, by omega⟩

/-- A world can be written as a picture exactly if it fits, and what is in the way is named. What is
written is read as the same world. And a text that is read as a picture tells of a world that is
written by this text without its blank lines, the blanks at the ends of lines and the zeros; this
ends only where coordinates can not count the rows or the columns. -/
theorem writePicture_read :
    (∀ world : World, world.Reachable →
      ((∃ text, writePicture world = .ok text) ↔ world.FitsPicture) ∧
      (writePicture world = .error .unbounded ↔
        world.grid.bounds.width = none ∨ world.grid.bounds.height = none) ∧
      ((∃ limit, writePicture world = .error (.notInPicture limit)) ↔
        (∃ width height, world.grid.bounds = .finite width height) ∧ ¬ world.FitsPicture) ∧
      ∀ text, writePicture world = .ok text → ∃ scene reloaded,
        read .picture none text = .ok scene ∧ scene.place = .ok reloaded ∧
          reloaded.grid.bounds = world.grid.bounds ∧
          (∀ point, reloaded.tile point = world.tile point) ∧ reloaded.robot = world.robot) ∧
    ∀ text scene, read .picture none text = .ok scene →
      (Measurable text ↔
        ∃ world, scene.place = .ok world ∧ writePicture world = .ok (tidied text)) := by
  refine ⟨fun world reachable => ?_, fun text scene => measurable_iff_written⟩
  have sound := reachable.sound
  refine ⟨exists_writePicture_iff sound, writePicture_eq_unbounded_iff sound,
    exists_limit_iff sound, fun text written => ?_⟩
  obtain ⟨fits, width, height, bounded, rfl⟩ := picture_of_written sound written
  obtain ⟨reloaded, placed, same⟩ := place_picture sound fits bounded
  exact ⟨_, reloaded, (isPicture_picture sound fits bounded).read, placed, same⟩

/-- Karel between an empty cell and a pile of nine, above a wall and a treasure. -/
def gardenWorld : World where
  robot := ⟨⟨1, 0⟩, .east, .unlimited⟩
  grid :=
    (((Grid.empty (.finite 3 2)).set ⟨2, 0⟩ (.ofCount 9)).set ⟨0, 1⟩ .wall).set ⟨1, 1⟩ .treasure

theorem reachable_gardenWorld : gardenWorld.Reachable :=
  .placed ((((Grid.Built.empty _).set _ _).set _ _).set _ _)
    (World.place_eq_ok_iff.mpr ⟨rfl, rfl⟩)

/-- The text of the garden with a blank line, blanks at the ends of lines and zeros. -/
def gardenText : String := "\n 0>9 \n\n\t#$0\n"

theorem writePicture_read_gardenWorld :
    gardenWorld.Reachable ∧ writePicture gardenWorld = .ok ".>9\n#$.\n" ∧
      (∃ scene reloaded, read .picture none ".>9\n#$.\n" = .ok scene ∧
        scene.place = .ok reloaded ∧ reloaded.grid.bounds = gardenWorld.grid.bounds ∧
        (∀ point, reloaded.tile point = gardenWorld.tile point) ∧
        reloaded.robot = gardenWorld.robot) ∧
      ∃ scene, read .picture none gardenText = .ok scene ∧
        ∃ world, scene.place = .ok world ∧ writePicture world = .ok ".>9\n#$.\n" := by
  obtain ⟨scene, accepted⟩ : ∃ scene, read .picture none gardenText = .ok scene := ⟨_, rfl⟩
  have measurable : Measurable gardenText := ⟨by decide, by decide⟩
  exact ⟨reachable_gardenWorld, rfl,
    (writePicture_read.1 gardenWorld reachable_gardenWorld).2.2.2 _ rfl,
    scene, accepted, (writePicture_read.2 gardenText scene accepted).mp measurable⟩

end MapText

end Karel
