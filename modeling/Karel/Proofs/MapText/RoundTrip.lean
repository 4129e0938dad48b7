import Karel.Proofs.MapText.Table
import Karel.Proofs.Rectangles
import Karel.Proofs.World.Reachable

/-!
# Tables that are written and read back

The text of a table shows the extent of a world, and reading it gives the world cut down to that
extent, `World.cut`. The smaller world has the tiles of the larger one, so it is its own extent and
is written by the same text. `writeTable_read` puts this together.
-/

namespace Karel

namespace World

variable {world : World} {width height : Coordinate} {point : Point}

/-- The smallest rectangle with Karel and all that the world holds. -/
def extent (world : World) : Rectangle := world.grid.extent world.robot.position

/-- Whether a cell has to be shown: it is Karel's, or it is inside the borders and not empty. -/
def Shows (world : World) (point : Point) : Prop :=
  point = world.robot.position ∨
    world.grid.bounds.contains point = true ∧ world.tile point ≠ .empty

theorem Sound.tight_extent (sound : world.Sound) : world.extent.Tight world.Shows := by
  refine (world.grid.tight_extent world.robot.position).congr fun point => or_congr Iff.rfl ?_
  simp only [sound.grid.stored_iff]
  constructor
  · rintro ⟨tile, nonempty, inside, rfl⟩
    exact ⟨inside, nonempty⟩
  · rintro ⟨inside, nonempty⟩
    exact ⟨_, nonempty, inside, rfl⟩

theorem Sound.contains_of_shows (sound : world.Sound) (shown : world.Shows point) :
    world.grid.bounds.contains point = true := by
  rcases shown with rfl | ⟨inside, -⟩
  · exact sound.contains_position
  · exact inside

/-- The extent of a world with borders lies inside them. -/
theorem Sound.within (sound : world.Sound) (bounded : world.grid.bounds = .finite width height) :
    world.extent.Within width height := by
  have inside : ∀ {point}, world.Shows point →
      (0 ≤ point.x.toInt ∧ point.x.toInt < width.toInt) ∧
        0 ≤ point.y.toInt ∧ point.y.toInt < height.toInt := fun shown =>
    Bounds.contains_finite_iff.mp (bounded ▸ sound.contains_of_shows shown)
  have tight := sound.tight_extent
  obtain ⟨left, leftShown, leftX⟩ := tight.left
  obtain ⟨right, rightShown, rightX⟩ := tight.right
  obtain ⟨top, topShown, topY⟩ := tight.top
  obtain ⟨bottom, bottomShown, bottomY⟩ := tight.bottom
  obtain ⟨nearX, farX, nearY, farY⟩ := Rectangle.contains_iff.mp (tight.contains left leftShown)
  exact {
    left := leftX ▸ (inside leftShown).1.1
    wide := Int.le_trans nearX farX
    right := rightX ▸ (inside rightShown).1.2
    top := topY ▸ (inside topShown).2.1
    high := Int.le_trans nearY farY
    bottom := bottomY ▸ (inside bottomShown).2.2 }

/-- The number of columns that a table of the world has. -/
def columns (world : World) : Nat :=
  Coordinate.count world.extent.least.x world.extent.greatest.x

/-- The number of rows that a table of the world has. -/
def rows (world : World) : Nat :=
  Coordinate.count world.extent.least.y world.extent.greatest.y

/-- The tile in a column and a row of a table of the world. -/
def cell (world : World) (column row : Nat) : Tile :=
  world.tile ⟨world.extent.least.x + .ofNat column, world.extent.least.y + .ofNat row⟩

/-- The world cut down to its extent, whose first corner becomes the origin. -/
def cut (world : World) : World where
  robot := { world.robot with position := world.robot.position - world.extent.least }
  grid := MapText.gridOf world.columns world.rows world.cell

theorem grid_cut (world : World) :
    world.cut.grid = MapText.gridOf world.columns world.rows world.cell := rfl

end World

namespace MapText

open World

variable {world : World} {width height : Coordinate} {point : Point}

/-- What is written of a world is the table of its extent. -/
theorem writeTable_eq (bounded : world.grid.bounds = .finite width height) :
    writeTable world =
      .ok (tableText world.cut.robot (rowsOf world.columns world.rows world.cell)) := by
  have sized : world.grid.bounds.size? = some (width, height) := by rw [bounded]; rfl
  unfold writeTable
  rw [sized]
  simp only [tableText, rowsOf, Coordinate.range, List.map_map, Function.comp_def]
  rfl

variable (sound : world.Sound) (bounded : world.grid.bounds = .finite width height)
include sound bounded

theorem columns_le : world.columns ≤ Coordinate.greatest :=
  have within := sound.within bounded
  Coordinate.count_le within.left within.right_lt

theorem rows_le : world.rows ≤ Coordinate.greatest :=
  have within := sound.within bounded
  Coordinate.count_le within.top within.bottom_lt

theorem width_extent : world.extent.width = some (.ofNat world.columns) :=
  Coordinate.count?_of_le (sound.within bounded).wide (columns_le sound bounded)

theorem height_extent : world.extent.height = some (.ofNat world.rows) :=
  Coordinate.count?_of_le (sound.within bounded).high (rows_le sound bounded)

/-- What is written of a world is read as the world cut down to its extent. -/
theorem read_tableText_cut :
    read .table none (tableText world.cut.robot (rowsOf world.columns world.rows world.cell)) =
      .ok ⟨world.cut.robot, world.cut.grid, .ofNat world.columns, .ofNat world.rows⟩ := by
  have within := sound.within bounded
  have wide : 0 < world.columns := by
    have order := within.wide
    unfold columns Coordinate.count
    omega
  have high : 0 < world.rows := by
    have order := within.high
    unfold rows Coordinate.count
    omega
  rw [read_rowsOf _ wide high]
  rfl

theorem bounds_cut : world.cut.grid.bounds = ⟨world.extent.width, world.extent.height⟩ := by
  rw [width_extent sound bounded, height_extent sound bounded]
  exact Grid.bounds_ofList _ _

/-- Every cell of the smaller world has the tile of the cell that it was cut from. -/
theorem tile_cut (inside : world.cut.grid.bounds.contains point = true) :
    ∃ original, point.add? world.extent.least = some original ∧
      world.extent.Contains original ∧ world.cut.tile point = world.tile original := by
  rw [bounds_cut sound bounded] at inside
  obtain ⟨original, found, contained⟩ := (sound.within bounded).exists_cell inside
  refine ⟨original, found, contained, ?_⟩
  rw [width_extent sound bounded, height_extent sound bounded] at inside
  obtain ⟨⟨left, -⟩, top, -⟩ := Bounds.contains_finite_iff.mp inside
  rw [Point.eq_of_add? found (Int.toNat_of_nonneg left).symm (Int.toNat_of_nonneg top).symm]
  unfold World.tile
  rw [grid_cut]
  exact get_gridOf (columns_le sound bounded) (rows_le sound bounded) inside

/-- Every cell that has to be shown is found in the smaller world. -/
theorem exists_step_cut {original : Point} (shown : world.Shows original) :
    ∃ step, original.sub? world.extent.least = some step ∧
      step.add? world.extent.least = some original ∧
        world.cut.grid.bounds.contains step = true := by
  rw [bounds_cut sound bounded]
  exact (sound.within bounded).exists_step (sound.tight_extent.contains original shown)

theorem position_cut :
    world.robot.position.sub? world.extent.least = some world.cut.robot.position := by
  obtain ⟨step, back, -⟩ := exists_step_cut sound bounded (.inl rfl)
  rw [back]
  exact congrArg some (Point.sub_of_sub? back).symm

/-- The smaller world shows what the world shows. -/
theorem shows_cut_iff {step : Point} : world.cut.Shows step ↔
    ∃ original, world.Shows original ∧ original.sub? world.extent.least = some step := by
  constructor
  · rintro (rfl | ⟨inside, nonempty⟩)
    · exact ⟨_, .inl rfl, position_cut sound bounded⟩
    · obtain ⟨original, found, contained, tile⟩ := tile_cut sound bounded inside
      have there := (sound.within bounded).contains_of_contains contained
      rw [← bounded] at there
      rw [tile] at nonempty
      exact ⟨original, .inr ⟨there, nonempty⟩, Point.sub?_of_add? found⟩
  · rintro ⟨original, shown, back⟩
    obtain ⟨_, same, forth, inside⟩ := exists_step_cut sound bounded shown
    obtain rfl := Option.some.inj (same.symm.trans back)
    rcases shown with rfl | ⟨-, nonempty⟩
    · exact .inl (Option.some.inj (back.symm.trans (position_cut sound bounded)))
    · obtain ⟨_, found, -, tile⟩ := tile_cut sound bounded inside
      obtain rfl := Option.some.inj (forth.symm.trans found)
      rw [← tile] at nonempty
      exact .inr ⟨inside, nonempty⟩

theorem sound_cut : world.cut.Sound where
  passable := by
    obtain ⟨step, back, forth, inside⟩ := exists_step_cut sound bounded (.inl rfl)
    obtain rfl := Option.some.inj (back.symm.trans (position_cut sound bounded))
    obtain ⟨original, found, -, tile⟩ := tile_cut sound bounded inside
    obtain rfl := Option.some.inj (forth.symm.trans found)
    exact (congrArg Tile.isBlocking tile).trans sound.passable
  grid := (Grid.Built.ofList _ _).sound

/-- The extent of the smaller world is all that is inside its borders. -/
theorem extent_cut :
    world.cut.extent = ⟨.origin, world.extent.greatest - world.extent.least⟩ :=
  (sound_cut sound bounded).tight_extent.unique
    ((sound.within bounded).tight_origin sound.tight_extent fun _ => shows_cut_iff sound bounded)

theorem columns_cut : world.cut.columns = world.columns := by
  obtain ⟨x, -⟩ := Point.sub?_eq_some_iff.mp (sound.within bounded).sub?_greatest
  have zero : Point.origin.x.toInt = 0 := rfl
  unfold columns Coordinate.count
  rw [extent_cut sound bounded, x, zero, Int.sub_zero]

theorem rows_cut : world.cut.rows = world.rows := by
  obtain ⟨-, y⟩ := Point.sub?_eq_some_iff.mp (sound.within bounded).sub?_greatest
  have zero : Point.origin.y.toInt = 0 := rfl
  unfold rows Coordinate.count
  rw [extent_cut sound bounded, y, zero, Int.sub_zero]

theorem cell_cut {column row : Nat} (columnBelow : column < world.columns)
    (rowBelow : row < world.rows) : world.cut.cell column row = world.cell column row := by
  have narrow := columns_le sound bounded
  have low := rows_le sound bounded
  have zero : (0 : Coordinate).toInt = 0 := rfl
  have x : (0 + .ofNat column : Coordinate).toInt = column := by
    rw [Coordinate.toInt_add_ofNat _ _ (by omega), zero, Int.zero_add]
  have y : (0 + .ofNat row : Coordinate).toInt = row := by
    rw [Coordinate.toInt_add_ofNat _ _ (by omega), zero, Int.zero_add]
  have inside : world.cut.grid.bounds.contains ⟨0 + .ofNat column, 0 + .ofNat row⟩ = true := by
    rw [bounds_cut sound bounded, width_extent sound bounded, height_extent sound bounded,
      ← Bounds.finite, Bounds.contains_finite_iff, Coordinate.toInt_ofNat narrow,
      Coordinate.toInt_ofNat low]
    dsimp only
    omega
  obtain ⟨original, found, -, tile⟩ := tile_cut sound bounded inside
  unfold cell
  rw [extent_cut sound bounded, ← Point.eq_of_add? found x y]
  exact tile

/-- What was read back is written like the world it comes from. -/
theorem writeTable_cut : writeTable world.cut = writeTable world := by
  have robot : world.cut.cut.robot = world.cut.robot := by
    show Robot.mk (world.cut.robot.position - world.cut.extent.least) _ _ = world.cut.robot
    rw [extent_cut sound bounded, Point.sub_origin]
  have borders : world.cut.grid.bounds = .finite (.ofNat world.columns) (.ofNat world.rows) :=
    Grid.bounds_ofList _ _
  rw [writeTable_eq bounded, writeTable_eq borders, columns_cut sound bounded,
    rows_cut sound bounded, robot,
    rowsOf_congr fun column columnBelow row rowBelow => cell_cut sound bounded columnBelow rowBelow]

omit sound bounded

/-- How a world looks that was written and read back: like the rectangle that was written, with its
first corner at the origin, and nothing is outside this rectangle. -/
structure Restored (world reloaded : World) : Prop where
  position : world.robot.position.sub? world.extent.least = some reloaded.robot.position
  facing : reloaded.robot.facing = world.robot.facing
  bag : reloaded.robot.bag = world.robot.bag
  bounds : reloaded.grid.bounds = ⟨world.extent.width, world.extent.height⟩
  width : ∃ columns, world.extent.width = some columns ∧
    columns.toInt = world.extent.greatest.x.toInt - world.extent.least.x.toInt + 1
  height : ∃ rows, world.extent.height = some rows ∧
    rows.toInt = world.extent.greatest.y.toInt - world.extent.least.y.toInt + 1
  tile : ∀ point, reloaded.grid.bounds.contains point = true →
    ∃ original, point.add? world.extent.least = some original ∧
      world.extent.Contains original ∧ reloaded.tile point = world.tile original
  complete : ∀ point, world.grid.bounds.contains point = true → world.tile point ≠ .empty →
    world.extent.Contains point

/-- A world with borders on all sides can always be written as a table. The table can be read, and
the world that is read lacks nothing and is written by the same table. -/
theorem writeTable_read (reachable : world.Reachable)
    (bounded : world.grid.bounds = .finite width height) :
    ∃ text scene reloaded, writeTable world = .ok text ∧ read .table none text = .ok scene ∧
      scene.place = .ok reloaded ∧ Restored world reloaded ∧ writeTable reloaded = .ok text := by
  have sound := reachable.sound
  have within := sound.within bounded
  have written := writeTable_eq bounded
  have placed : World.place world.cut.robot world.cut.grid = .ok world.cut :=
    place_eq_ok_iff.mpr ⟨(sound_cut sound bounded).passable, rfl⟩
  refine ⟨_, _, world.cut, written, read_tableText_cut sound bounded, placed, ?_,
    (writeTable_cut sound bounded).trans written⟩
  exact {
    position := position_cut sound bounded
    facing := rfl
    bag := rfl
    bounds := bounds_cut sound bounded
    width := within.exists_width
    height := within.exists_height
    tile := fun _ inside => tile_cut sound bounded inside
    complete := fun point inside nonempty =>
      sound.tight_extent.contains point (.inr ⟨inside, nonempty⟩) }

/-- Karel on the largest pile, away from the borders and from a wall. -/
def pileWorld : World where
  robot := ⟨⟨2, 1⟩, .west, .counted 3⟩
  grid := ((Grid.empty (.finite 7 5)).set ⟨2, 1⟩ (.ofCount 4294967295)).set ⟨4, 3⟩ .wall

theorem reachable_pileWorld : pileWorld.Reachable :=
  .placed (((Grid.Built.empty _).set _ _).set _ _) (place_eq_ok_iff.mpr ⟨rfl, rfl⟩)

theorem writeTable_read_pileWorld :
    pileWorld.Reachable ∧ pileWorld.grid.bounds = .finite 7 5 ∧
      writeTable pileWorld = .ok "KAREL 0 0 < 3\n4294967295 . .\n. . .\n. . #\n" ∧
        ∃ text scene reloaded, writeTable pileWorld = .ok text ∧
          read .table none text = .ok scene ∧ scene.place = .ok reloaded ∧
            Restored pileWorld reloaded ∧ writeTable reloaded = .ok text :=
  ⟨reachable_pileWorld, rfl, rfl, writeTable_read reachable_pileWorld rfl⟩

end MapText

end Karel
