import Karel.Drivable
import Karel.Proofs.Worlds

/-!
# Reachable worlds

A grid is built by placing tiles and moving borders, Karel is put on it, and then it is told what to
do and the world is edited. `World.Sound` is what holds of every world that comes about in this way:
Karel stands on a cell that it could enter, and what is stored is not empty and inside the borders.
`Created.afterAll_invariant` says this of whole sequences of operations, which also leave the borders
where they are.
-/

namespace Karel

namespace Grid

/-- The grids that can be made. -/
inductive Built : Grid → Prop
  | empty (bounds : Bounds) : Built (empty bounds)
  | set {grid : Grid} (built : Built grid) (point : Point) (tile : Tile) :
      Built (grid.set point tile)
  | setBounds {grid : Grid} (built : Built grid) (bounds : Bounds) : Built (grid.setBounds bounds)

/-- Only tiles inside the borders are stored, and no empty ones. -/
def Sound (grid : Grid) : Prop :=
  ∀ point tile, grid.stored[point]? = some tile →
    tile ≠ .empty ∧ grid.bounds.contains point = true

variable {grid : Grid} {point : Point} {tile : Tile}

theorem Built.ofList (bounds : Bounds) (tiles : List (Point × Tile)) :
    Built (.ofList bounds tiles) :=
  ofList_induction (.empty bounds) (fun _ point tile built => built.set point tile) tiles

theorem sound_empty (bounds : Bounds) : Sound (empty bounds) := by
  intro point tile found
  simp [empty] at found

theorem Sound.set (sound : grid.Sound) (point : Point) (tile : Tile) :
    (grid.set point tile).Sound := by
  intro other found stored
  rw [bounds_set]
  unfold Grid.set at stored
  split at stored
  next =>
    rw [Std.ExtTreeMap.getElem?_erase] at stored
    split at stored
    next => cases stored
    next => exact sound other found stored
  next nonempty =>
    split at stored
    next inside =>
      rw [Std.ExtTreeMap.getElem?_insert] at stored
      split at stored
      next same =>
        cases stored
        rw [← Std.LawfulEqCmp.eq_of_compare same]
        exact ⟨nonempty, inside⟩
      next => exact sound other found stored
    next => exact sound other found stored

theorem Sound.setBounds (sound : grid.Sound) (bounds : Bounds) : (grid.setBounds bounds).Sound := by
  intro point tile stored
  unfold Grid.setBounds at stored ⊢
  dsimp only at stored ⊢
  rw [Std.ExtTreeMap.getElem?_filter'] at stored
  obtain ⟨found, inside⟩ := Option.filter_eq_some_iff.mp stored
  exact ⟨(sound point tile found).1, inside⟩

theorem Built.sound (built : Built grid) : grid.Sound := by
  induction built with
  | empty bounds => exact sound_empty bounds
  | set _ point tile inductionHypothesis => exact inductionHypothesis.set point tile
  | setBounds _ bounds inductionHypothesis => exact inductionHypothesis.setBounds bounds

/-- In a sound grid, what is stored are the cells inside the borders that are not empty. -/
theorem Sound.stored_iff (sound : grid.Sound) :
    grid.stored[point]? = some tile ↔
      tile ≠ .empty ∧ grid.bounds.contains point = true ∧ grid.get point = tile := by
  unfold get
  constructor
  · intro stored
    obtain ⟨nonempty, inside⟩ := sound point tile stored
    exact ⟨nonempty, inside, by rw [if_pos inside, stored, Option.getD_some]⟩
  · rintro ⟨nonempty, inside, found⟩
    rw [if_pos inside] at found
    cases stored : grid.stored[point]? with
    | none =>
        rw [stored] at found
        exact absurd found.symm nonempty
    | some other =>
        rw [stored] at found
        exact congrArg some found

/-- A sound grid is known by its borders and its tiles, with nothing else stored. -/
theorem Sound.ext {other : Grid} (sound : grid.Sound) (otherSound : other.Sound)
    (bounds : grid.bounds = other.bounds) (tiles : ∀ point, grid.get point = other.get point) :
    grid = other := by
  have stored : grid.stored = other.stored := by
    refine Std.ExtTreeMap.ext_getElem? fun {point} => Option.ext fun tile => ?_
    rw [sound.stored_iff, otherSound.stored_iff, bounds, tiles]
  obtain ⟨_, _⟩ := grid
  exact (Grid.mk.injEq _ _ _ _).mpr ⟨bounds, stored⟩

end Grid

namespace World

/-- What can be done with a world. -/
inductive Operation
  | move
  | turnLeft
  | turnRight
  | pick
  | put
  | setTileAhead (tile : Tile)
  | setBeepersHere (count : BeeperCount)
  | setBag (bag : Bag)

/-- The act that an operation is. -/
def Operation.act : Operation → Act World Refusal Unit
  | move => Drivable.move
  | turnLeft => Drivable.turnLeft
  | turnRight => Drivable.turnRight
  | pick => Drivable.pick
  | put => Drivable.put
  | setTileAhead tile => .update fun world => world.setTileAhead tile
  | setBeepersHere count => .update fun world => world.setBeepersHere count
  | setBag bag => .update fun world => world.setBag bag

/-- The world that an operation leaves behind, be it done or refused. -/
def after (world : World) (operation : Operation) : World := (operation.act.apply world).2

/-- The worlds that operations lead to. -/
inductive Reachable : World → Prop
  | placed {robot : Robot} {grid : Grid} {world : World} (built : grid.Built)
      (placed : place robot grid = .ok world) : Reachable world
  | after {world : World} (reachable : Reachable world) (operation : Operation) :
      Reachable (world.after operation)

/-- Karel stands on a cell that it could enter, and nothing is stored that should not be. -/
structure Sound (world : World) : Prop where
  passable : world.tileHere.isBlocking = false
  grid : world.grid.Sound

variable {world next : World}

theorem Sound.contains_position (sound : world.Sound) :
    world.grid.bounds.contains world.robot.position = true :=
  Grid.contains_of_passable sound.passable

/-- The tile under Karel after Karel's own cell was changed. -/
theorem Sound.tileHere_set (sound : world.Sound) {robot : Robot}
    (stays : robot.position = world.robot.position) (tile : Tile) :
    tileHere ⟨robot, world.grid.set world.robot.position tile⟩ = tile := by
  unfold tileHere World.tile
  rw [stays, Grid.get_set, if_pos ⟨sound.contains_position, rfl⟩]

/-- Karel's own cell can always be changed to one that it can enter. -/
theorem Sound.setHere (sound : world.Sound) {robot : Robot} {tile : Tile}
    (stays : robot.position = world.robot.position) (passable : tile.isBlocking = false) :
    Sound ⟨robot, world.grid.set world.robot.position tile⟩ where
  passable := by
    rw [sound.tileHere_set stays]
    exact passable
  grid := sound.grid.set _ _

theorem isBlocking_ofCount (count : BeeperCount) : (Tile.ofCount count).isBlocking = false := by
  unfold Tile.ofCount
  split <;> rfl

theorem isBlocking_withBeeper (tile : Tile) : tile.withBeeper.isBlocking = false := by
  cases tile <;> rfl

/-- The cell in front of Karel is not its own. -/
theorem front_ne_position {robot : Robot} {front : Point} (ahead : robot.front? = some front) :
    front ≠ robot.position := by
  rintro rfl
  obtain ⟨columns, rows⟩ := Point.add?_eq_some_iff.mp ahead
  have one : (1 : Coordinate).toInt = 1 := rfl
  have minus : (-1 : Coordinate).toInt = -1 := rfl
  cases facing : robot.facing <;> simp only [facing, Direction.step, one, minus] at columns rows <;>
    omega

theorem Sound.setTileAhead (sound : world.Sound) (tile : Tile) :
    (world.setTileAhead tile).Sound := by
  unfold World.setTileAhead
  split
  next front ahead =>
    refine ⟨?_, sound.grid.set _ _⟩
    unfold tileHere World.tile
    rw [Grid.get_set, if_neg fun both => front_ne_position ahead both.2]
    exact sound.passable
  next => exact sound

/-- What holds of a world holds of the one that a change leaves behind, if it holds of what a change
that is not refused leads to. -/
theorem of_change {motive : World → Prop} {change : World → Except Refusal World}
    (holds : motive world) (done : ∀ {next}, change world = .ok next → motive next) :
    motive ((Act.change change).apply world).2 := by
  rw [Act.apply_change]
  cases changed : change world with
  | error refusal => exact holds
  | ok next => exact done changed

/-- An operation that is refused leaves the world as it is. -/
theorem Operation.eq_of_refused {refusal : Refusal} (operation : Operation)
    (refused : operation.act.apply world = (.error refusal, next)) : next = world := by
  have changed : ∀ {change : World → Except Refusal World},
      (Act.change change).apply world = (.error refusal, next) → next = world := by
    intro change refused
    rw [Act.apply_change] at refused
    cases done : change world with
    | error _ =>
        rw [done] at refused
        cases refused
        rfl
    | ok _ =>
        rw [done] at refused
        cases refused
  cases operation with
  | move | pick | put => exact changed refused
  | turnLeft | turnRight | setTileAhead _ | setBeepersHere _ | setBag _ => cases refused

/-- Every operation keeps a world sound, be it done or refused. -/
theorem Sound.after (sound : world.Sound) (operation : Operation) :
    (world.after operation).Sound := by
  cases operation with
  | move =>
      refine of_change sound fun {next} moved => ?_
      obtain ⟨front, -, passable, rfl⟩ := move_eq_ok_iff.mp moved
      exact ⟨passable, sound.grid⟩
  | turnLeft => exact ⟨sound.passable, sound.grid⟩
  | turnRight => exact ⟨sound.passable, sound.grid⟩
  | pick =>
      refine of_change sound fun {next} picked => ?_
      obtain ⟨pile, -, rfl⟩ := pick_eq_ok_iff.mp picked
      exact sound.setHere rfl (isBlocking_ofCount _)
  | put =>
      refine of_change sound fun {next} given => ?_
      obtain ⟨bag, -, rfl⟩ := put_eq_ok_iff.mp given
      exact sound.setHere rfl (isBlocking_withBeeper _)
  | setTileAhead tile => exact sound.setTileAhead tile
  | setBeepersHere count => exact sound.setHere rfl (isBlocking_ofCount _)
  | setBag bag => exact ⟨sound.passable, sound.grid⟩

/-- Every reachable world is sound. -/
theorem Reachable.sound (reachable : world.Reachable) : world.Sound := by
  induction reachable with
  | placed built placed =>
      obtain ⟨passable, rfl⟩ := place_eq_ok_iff.mp placed
      exact ⟨passable, built.sound⟩
  | after _ operation inductionHypothesis => exact inductionHypothesis.after operation

/-! ## Whole histories -/

/-- How a world begins, with the borders it begins with: Karel is put on a grid that was built, or
at the origin of a plane without tiles. -/
inductive Created : Bounds → World → Prop
  | placed {robot : Robot} {grid : Grid} {world : World} (built : grid.Built)
      (placed : place robot grid = .ok world) : Created grid.bounds world
  | empty {bounds : Bounds} {world : World} (placed : World.empty bounds = .ok world) :
      Created bounds world

/-- The world that a sequence of operations leaves behind, be each of them done or refused. -/
def afterAll (world : World) (operations : List Operation) : World :=
  operations.foldl World.after world

variable {bounds : Bounds}

theorem Created.reachable (created : Created bounds world) : world.Reachable := by
  cases created with
  | placed built placed => exact .placed built placed
  | empty placed => exact .placed (.empty bounds) placed

theorem Created.bounds_eq (created : Created bounds world) : world.grid.bounds = bounds := by
  cases created with
  | placed _ placed => rw [(place_eq_ok_iff.mp placed).2]
  | empty placed =>
      rw [(place_eq_ok_iff.mp placed).2]
      rfl

theorem Reachable.afterAll (reachable : world.Reachable) (operations : List Operation) :
    (world.afterAll operations).Reachable := by
  induction operations generalizing world with
  | nil => exact reachable
  | cons operation rest inductionHypothesis =>
      exact inductionHypothesis (reachable.after operation)

/-- No operation moves a border. -/
theorem bounds_after (world : World) (operation : Operation) :
    (world.after operation).grid.bounds = world.grid.bounds := by
  have changed : ∀ {change : World → Except Refusal World},
      (∀ {next}, change world = .ok next → next.grid.bounds = world.grid.bounds) →
        ((Act.change change).apply world).2.grid.bounds = world.grid.bounds :=
    of_change (motive := fun next => next.grid.bounds = world.grid.bounds) rfl
  cases operation with
  | move =>
      refine changed fun {next} moved => ?_
      obtain ⟨front, -, -, rfl⟩ := move_eq_ok_iff.mp moved
      rfl
  | turnLeft => rfl
  | turnRight => rfl
  | pick => exact changed fun picked => (inPlace_of_pick picked).bounds
  | put => exact changed fun given => (inPlace_of_put given).bounds
  | setTileAhead tile => exact (inPlace_setTileAhead tile).bounds
  | setBeepersHere count => exact (inPlace_setBeepersHere count).bounds
  | setBag bag => rfl

theorem bounds_afterAll (world : World) (operations : List Operation) :
    (world.afterAll operations).grid.bounds = world.grid.bounds := by
  induction operations generalizing world with
  | nil => rfl
  | cons operation rest inductionHypothesis =>
      exact (inductionHypothesis _).trans (bounds_after world operation)

/-- Whatever is done with a world after it was created, and whether it succeeds or is refused, Karel
stands inside the borders and neither on a wall nor on a treasure, every stored tile is inside the
borders and not empty, and the borders are where they were in the beginning. -/
theorem Created.afterAll_invariant (created : Created bounds world)
    (operations : List Operation) :
    bounds.contains (world.afterAll operations).robot.position = true ∧
      (world.afterAll operations).tileHere ≠ .wall ∧
      (world.afterAll operations).tileHere ≠ .treasure ∧
      (∀ point tile, (point, tile) ∈ (world.afterAll operations).grid.toList →
        tile ≠ .empty ∧ bounds.contains point = true) ∧
      (world.afterAll operations).grid.bounds = bounds := by
  have sound := (created.reachable.afterAll operations).sound
  have same : (world.afterAll operations).grid.bounds = bounds :=
    (bounds_afterAll world operations).trans created.bounds_eq
  have passable : ∀ {tile : Tile}, tile.isBlocking = true →
      (world.afterAll operations).tileHere ≠ tile := by
    rintro tile blocking rfl
    rw [sound.passable] at blocking
    cases blocking
  refine ⟨same ▸ sound.contains_position, passable rfl, passable rfl, ?_, same⟩
  intro point tile member
  rw [← same]
  exact sound.grid point tile (Std.ExtTreeMap.mem_toList_iff_getElem?_eq_some.mp member)

/-- Karel in a corridor of two cells, on the first of them. -/
def corridorWorld : World := ⟨.initial, .empty (.finite 2 1)⟩

/-- In the corridor a treasure is put in front of Karel, which can not move on to it; then beepers
are left under Karel, the treasure is taken away, and Karel moves and meets the border. -/
theorem afterAll_invariant_corridor :
    Created (.finite 2 1) corridorWorld ∧
      (corridorWorld.afterAll [.setTileAhead .treasure, .move, .setBeepersHere 3,
        .setTileAhead .empty, .move, .move, .put]).robot.position = ⟨1, 0⟩ ∧
      (Bounds.finite 2 1).contains (corridorWorld.afterAll [.setTileAhead .treasure, .move,
        .setBeepersHere 3, .setTileAhead .empty, .move, .move, .put]).robot.position = true := by
  have created : Created (.finite 2 1) corridorWorld := .empty rfl
  exact ⟨created, by decide, (created.afterAll_invariant _).1⟩

end World

end Karel
