import Karel.Proofs.Coordinates
import Karel.World

/-!
# What the operations of a world do

`World.move_eq_ok_iff` is all there is to a step. Every other operation leaves Karel on its cell and
the borders where they are, which is `World.InPlace`. What stands in Karel's way includes all that
lies beyond a border, so Karel is never found there.
-/

namespace Karel

theorem Point.eq_of_toInt {left right : Point} (columns : left.x.toInt = right.x.toInt)
    (rows : left.y.toInt = right.y.toInt) : left = right :=
  (Point.mk.injEq _ _ _ _).mpr ⟨Int32.toInt_inj.mp columns, Int32.toInt_inj.mp rows⟩

/-- A step leads to the cell whose coordinates are the sums, if there is one. -/
theorem Point.add?_eq_some_iff {point step target : Point} :
    point.add? step = some target ↔
      target.x.toInt = point.x.toInt + step.x.toInt ∧
        target.y.toInt = point.y.toInt + step.y.toInt := by
  obtain ⟨x, y⟩ := target
  simp only [Point.add?, Option.bind_eq_bind, Option.pure_def, Option.bind_eq_some_iff,
    Option.some.injEq, Point.mk.injEq, Coordinate.add?_eq_some_iff]
  constructor
  · rintro ⟨_, columns, _, rows, rfl, rfl⟩
    exact ⟨columns, rows⟩
  · rintro ⟨columns, rows⟩
    exact ⟨x, columns, y, rows, rfl, rfl⟩

/-- Where a step in natural numbers leads, written as words. -/
theorem Point.eq_of_add? {point start step : Point} {column row : Nat}
    (found : step.add? start = some point) (x : step.x.toInt = column) (y : step.y.toInt = row) :
    point = ⟨start.x + .ofNat column, start.y + .ofNat row⟩ := by
  obtain ⟨columns, rows⟩ := Point.add?_eq_some_iff.mp found
  have farX := point.x.le_greatest
  have farY := point.y.le_greatest
  apply Point.eq_of_toInt
  · rw [Coordinate.toInt_add_ofNat _ _ (by omega)]
    omega
  · rw [Coordinate.toInt_add_ofNat _ _ (by omega)]
    omega

/-- A step back leads to the cell whose coordinates are the differences, if there is one. -/
theorem Point.sub?_eq_some_iff {point start step : Point} :
    point.sub? start = some step ↔
      step.x.toInt = point.x.toInt - start.x.toInt ∧
        step.y.toInt = point.y.toInt - start.y.toInt := by
  obtain ⟨x, y⟩ := step
  simp only [Point.sub?, Option.bind_eq_bind, Option.pure_def, Option.bind_eq_some_iff,
    Option.some.injEq, Point.mk.injEq, Coordinate.sub?_eq_some_iff]
  constructor
  · rintro ⟨_, columns, _, rows, rfl, rfl⟩
    exact ⟨columns, rows⟩
  · rintro ⟨columns, rows⟩
    exact ⟨x, columns, y, rows, rfl, rfl⟩

/-- A step is found again from the cell that it leads to. -/
theorem Point.sub?_of_add? {point start step : Point} (found : step.add? start = some point) :
    point.sub? start = some step := by
  obtain ⟨columns, rows⟩ := Point.add?_eq_some_iff.mp found
  exact Point.sub?_eq_some_iff.mpr ⟨by omega, by omega⟩

/-- The checked step back is the plain one if there is one. -/
theorem Point.sub_of_sub? {point start step : Point} (found : point.sub? start = some step) :
    point - start = step := by
  obtain ⟨columns, rows⟩ := Point.sub?_eq_some_iff.mp found
  obtain ⟨x, y⟩ := step
  exact (Point.mk.injEq _ _ _ _).mpr
    ⟨(Coordinate.eq_sub_of_toInt _ _ columns).symm, (Coordinate.eq_sub_of_toInt _ _ rows).symm⟩

@[simp]
theorem Point.sub_origin (point : Point) : point - .origin = point :=
  Point.sub_of_sub? (Point.sub?_eq_some_iff.mpr ⟨(Int.sub_zero _).symm, (Int.sub_zero _).symm⟩)

/-- A cell lies inside borders on all sides if its coordinates are below the two sizes. -/
theorem Bounds.contains_finite_iff {width height : Coordinate} {point : Point} :
    (finite width height).contains point = true ↔
      (0 ≤ point.x.toInt ∧ point.x.toInt < width.toInt) ∧
        0 ≤ point.y.toInt ∧ point.y.toInt < height.toInt := by
  simp [contains, finite, axisContains, Int32.le_iff_toInt_le, Int32.lt_iff_toInt_lt]

/-- A cell that can be entered lies inside the borders. -/
theorem Grid.contains_of_passable {grid : Grid} {point : Point}
    (passable : (grid.get point).isBlocking = false) : grid.bounds.contains point = true := by
  cases inside : grid.bounds.contains point with
  | true => rfl
  | false =>
    rw [Grid.get, if_neg (by simp [inside])] at passable
    cases passable

/-- What holds of the empty grid and is kept by every write holds of the grid of a list. -/
theorem Grid.ofList_induction {motive : Grid → Prop} {bounds : Bounds}
    (start : motive (.empty bounds))
    (write : ∀ grid point tile, motive grid → motive (grid.set point tile))
    (tiles : List (Point × Tile)) : motive (.ofList bounds tiles) := by
  unfold Grid.ofList
  generalize Grid.empty bounds = grid at start
  induction tiles generalizing grid with
  | nil => exact start
  | cons entry rest inductionHypothesis => exact inductionHypothesis _ (write _ _ _ start)

theorem Grid.bounds_ofList (bounds : Bounds) (tiles : List (Point × Tile)) :
    (Grid.ofList bounds tiles).bounds = bounds :=
  Grid.ofList_induction (motive := fun grid => grid.bounds = bounds) rfl
    (fun grid point tile same => (grid.bounds_set point tile).trans same) tiles

namespace World

variable {world next : World}

/-- Karel stands where it stood, and the borders are where they were. -/
structure InPlace (world next : World) : Prop where
  position : next.robot.position = world.robot.position
  bounds : next.grid.bounds = world.grid.bounds

theorem place_eq_ok_iff {robot : Robot} {grid : Grid} :
    place robot grid = .ok world ↔
      (grid.get robot.position).isBlocking = false ∧ world = ⟨robot, grid⟩ := by
  unfold place
  cases blocked : (grid.get robot.position).isBlocking <;> simp [blocked, eq_comm]

/-- Karel moves exactly if there is a cell in front that can be entered, and then stands on it. -/
theorem move_eq_ok_iff :
    world.move = .ok next ↔
      ∃ front, world.robot.front? = some front ∧ (world.tile front).isBlocking = false ∧
        next = { world with robot := { world.robot with position := front } } := by
  unfold move tileAhead
  cases ahead : world.robot.front? with
  | none => simp [Tile.isBlocking]
  | some front =>
    cases blocked : (world.tile front).isBlocking with
    | true => simp [blocked]
    | false =>
      simp only [blocked, Bool.false_eq_true, if_false, Except.ok.injEq, Option.some.injEq,
        exists_eq_left', true_and, Robot.advance, ahead, Option.getD_some]
      exact eq_comm

/-- Karel picks exactly if it stands on beepers. -/
theorem pick_eq_ok_iff :
    world.pick = .ok next ↔
      ∃ pile, world.tileHere = .beepers pile ∧
        next = ⟨world.robot.gainBeeper,
          world.grid.set world.robot.position (.ofCount (pile.count - 1))⟩ := by
  unfold pick
  cases world.tileHere with
  | beepers pile => simp [eq_comm]
  | empty | wall | treasure => simp

/-- Karel puts exactly if a beeper can be taken out of the bag. -/
theorem put_eq_ok_iff :
    world.put = .ok next ↔
      ∃ bag, world.robot.bag.spend? = some bag ∧
        next = ⟨{ world.robot with bag := bag },
          world.grid.set world.robot.position world.tileHere.withBeeper⟩ := by
  unfold put Robot.spendBeeper?
  cases world.robot.bag.spend? with
  | none => simp
  | some bag => simp [eq_comm]

theorem inPlace_of_pick (picked : world.pick = .ok next) : world.InPlace next := by
  obtain ⟨pile, -, rfl⟩ := pick_eq_ok_iff.mp picked
  exact ⟨rfl, Grid.bounds_set _ _ _⟩

theorem inPlace_of_put (given : world.put = .ok next) : world.InPlace next := by
  obtain ⟨bag, -, rfl⟩ := put_eq_ok_iff.mp given
  exact ⟨rfl, Grid.bounds_set _ _ _⟩

/-- Only the tile of one cell is changed by setting it. -/
theorem tile_set {robot : Robot} {spot point : Point} {content : Tile} (other : point ≠ spot) :
    World.tile ⟨robot, world.grid.set spot content⟩ point = world.tile point :=
  (Grid.get_set _ _ _ _).trans (if_neg fun both => other both.2.symm)

/-- Picking changes no tile but that of Karel's cell. -/
theorem tile_of_pick (picked : world.pick = .ok next) {point : Point}
    (other : point ≠ world.robot.position) : next.tile point = world.tile point := by
  obtain ⟨pile, -, rfl⟩ := pick_eq_ok_iff.mp picked
  exact tile_set other

/-- Putting changes no tile but that of Karel's cell. -/
theorem tile_of_put (given : world.put = .ok next) {point : Point}
    (other : point ≠ world.robot.position) : next.tile point = world.tile point := by
  obtain ⟨bag, -, rfl⟩ := put_eq_ok_iff.mp given
  exact tile_set other

/-- Only the tile of Karel's cell is changed by leaving beepers there. -/
theorem tile_setBeepersHere (count : BeeperCount) {point : Point}
    (other : point ≠ world.robot.position) :
    (world.setBeepersHere count).tile point = world.tile point :=
  tile_set other

theorem inPlace_setTileAhead (tile : Tile) : world.InPlace (world.setTileAhead tile) := by
  unfold setTileAhead
  split
  · exact ⟨rfl, Grid.bounds_set _ _ _⟩
  · exact ⟨rfl, rfl⟩

theorem inPlace_setBeepersHere (count : BeeperCount) :
    world.InPlace (world.setBeepersHere count) :=
  ⟨rfl, Grid.bounds_set _ _ _⟩

end World

end Karel
