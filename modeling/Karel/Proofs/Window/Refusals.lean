import Karel.Proofs.Window.Reachable

/-!
# What is refused

Karel's step is refused if something stands on the cell in front, if that cell lies beyond a border,
or if there is no such cell at the edge of the plane. To pick needs a pile and to put needs a beeper,
and nothing else is ever refused. `Window.Forbids` says so for the operations of a window, with the
answer that Karel gets, and `Window.refused_iff_forbids` is that it is right. What is refused leaves
everything in place.
-/

namespace Karel

/-- Whether a cell is the one in front of Karel, in whole numbers. -/
def Robot.Faces (robot : Robot) (front : Point) : Prop :=
  front.x.toInt = robot.position.x.toInt + robot.facing.step.x.toInt ∧
    front.y.toInt = robot.position.y.toInt + robot.facing.step.y.toInt

theorem Robot.front?_eq_some_iff {robot : Robot} {front : Point} :
    robot.front? = some front ↔ robot.Faces front :=
  Point.add?_eq_some_iff

/-- A coordinate lies beyond one of the two borders of an axis that has them. -/
def Bounds.AxisExcludes (size : Option Coordinate) (value : Coordinate) : Prop :=
  ∃ bound, size = some bound ∧ (value.toInt < 0 ∨ bound.toInt ≤ value.toInt)

/-- A cell lies beyond a border. -/
def Bounds.Excludes (bounds : Bounds) (point : Point) : Prop :=
  AxisExcludes bounds.width point.x ∨ AxisExcludes bounds.height point.y

theorem Bounds.axisContains_eq_false_iff {size : Option Coordinate} {value : Coordinate} :
    axisContains size value = false ↔ AxisExcludes size value := by
  cases size with
  | none => simp [axisContains, AxisExcludes]
  | some bound =>
    simp only [axisContains, AxisExcludes, Option.some.injEq, exists_eq_left', Bool.and_eq_false_iff,
      decide_eq_false_iff_not, Int32.le_iff_toInt_le, Int32.lt_iff_toInt_lt, Int32.toInt_zero]
    omega

theorem Bounds.contains_eq_false_iff {bounds : Bounds} {point : Point} :
    bounds.contains point = false ↔ bounds.Excludes point := by
  rw [contains, Bool.and_eq_false_iff, axisContains_eq_false_iff, axisContains_eq_false_iff]
  rfl

namespace World

/-- What stands in Karel's way: the edge of the plane, a border, a wall or a treasure. The first two
count as walls. -/
inductive Obstacle (world : World) : Tile → Prop
  | edge (nowhere : ∀ front, ¬ world.robot.Faces front) : Obstacle world .wall
  | border {front : Point} (ahead : world.robot.Faces front)
      (outside : world.grid.bounds.Excludes front) : Obstacle world .wall
  | standing {front : Point} {tile : Tile} (ahead : world.robot.Faces front)
      (inside : ¬ world.grid.bounds.Excludes front)
      (stored : world.grid.stored[front]? = some tile) (blocks : tile = .wall ∨ tile = .treasure) :
      Obstacle world tile

variable {world next : World} {tile : Tile} {refusal : Refusal}

/-- A tile that blocks is found on the cell in front exactly if it is an obstacle. -/
theorem obstacle_iff_of_faces {front : Point} (ahead : world.robot.Faces front) :
    world.Obstacle tile ↔ world.tile front = tile ∧ tile.isBlocking = true := by
  have same : ∀ {other}, world.robot.Faces other → other = front := fun faces =>
    Point.eq_of_toInt (faces.1.trans ahead.1.symm) (faces.2.trans ahead.2.symm)
  unfold World.tile Grid.get
  cases inside : world.grid.bounds.contains front with
  | false =>
    have outside := Bounds.contains_eq_false_iff.mp inside
    constructor
    · intro obstacle
      cases obstacle with
      | edge | border => exact ⟨rfl, rfl⟩
      | standing faces excluded => exact absurd (same faces ▸ outside) excluded
    · rintro ⟨rfl, -⟩
      exact .border ahead outside
  | true =>
    have between : ¬ world.grid.bounds.Excludes front := by
      rw [← Bounds.contains_eq_false_iff, inside]
      exact Bool.noConfusion
    rw [if_pos rfl]
    constructor
    · intro obstacle
      cases obstacle with
      | edge nowhere => exact absurd ahead (nowhere front)
      | border faces outside => exact absurd (same faces ▸ outside) between
      | standing faces _ stored blocks =>
        rw [← same faces, stored]
        exact ⟨rfl, by rcases blocks with rfl | rfl <;> rfl⟩
    · rintro ⟨found, blocking⟩
      cases stored : world.grid.stored[front]? with
      | none =>
        rw [stored] at found
        subst found
        cases blocking
      | some tile =>
        rw [stored] at found
        subst found
        refine .standing ahead between stored ?_
        cases tile with
        | wall => exact .inl rfl
        | treasure => exact .inr rfl
        | empty | beepers _ => cases blocking

/-- The tile ahead blocks Karel exactly if it is an obstacle. -/
theorem obstacle_iff : world.Obstacle tile ↔ world.tileAhead = tile ∧ tile.isBlocking = true := by
  unfold tileAhead
  cases ahead : world.robot.front? with
  | some front => exact obstacle_iff_of_faces (Robot.front?_eq_some_iff.mp ahead)
  | none =>
    have nowhere : ∀ front, ¬ world.robot.Faces front := by
      intro front faces
      rw [Robot.front?_eq_some_iff.mpr faces] at ahead
      cases ahead
    constructor
    · intro obstacle
      cases obstacle with
      | edge => exact ⟨rfl, rfl⟩
      | border faces | standing faces => exact absurd faces (nowhere _)
    · rintro ⟨rfl, -⟩
      exact .edge nowhere

theorem move_eq_error_iff : world.move = .error refusal ↔
    ∃ tile, world.Obstacle tile ∧
      refusal = .blocked world.robot.position world.robot.facing tile := by
  simp only [obstacle_iff, and_assoc, exists_eq_left']
  unfold move
  cases world.tileAhead.isBlocking <;> simp [eq_comm]

theorem pick_eq_error_iff : world.pick = .error refusal ↔
    (∀ pile, world.tileHere ≠ .beepers pile) ∧
      refusal = .noBeeperHere world.robot.position world.tileHere := by
  unfold pick
  cases here : world.tileHere <;> simp [eq_comm]

theorem put_eq_error_iff : world.put = .error refusal ↔
    world.robot.bag = .counted 0 ∧ refusal = .bagEmpty := by
  unfold put Robot.spendBeeper?
  cases bag : world.robot.bag with
  | unlimited => simp [Bag.spend?]
  | counted count =>
    by_cases empty : count = 0
    · simp [Bag.spend?, empty, eq_comm]
    · simp [Bag.spend?, empty]

end World

namespace Window

/-- An operation can not be done, and this is what Karel is told. -/
inductive Forbids (window : Window) : Operation → Refusal → Prop
  | move {tile : Tile} (obstacle : window.world.Obstacle tile) :
      Forbids window .move
        (.blocked window.world.robot.position window.world.robot.facing tile)
  | pick (bare : ∀ pile, window.world.tileHere ≠ .beepers pile) :
      Forbids window .pick (.noBeeperHere window.world.robot.position window.world.tileHere)
  | put (spent : window.world.robot.bag = .counted 0) : Forbids window .put .bagEmpty

/-- Everything is as it was, except that no slide counts as the last one. -/
def Untouched (window next : Window) : Prop :=
  next = { window with scrolled := next.scrolled }

variable {window next : Window} {refusal : Refusal}

/-- A step through a window is refused as in the world behind it. -/
theorem apply_move_eq_error_iff : move.apply window = (.error refusal, next) ↔
    window.world.move = .error refusal ∧ next = { window with scrolled := false } := by
  rw [move, Act.apply_ofFunction]
  cases window.world.move with
  | error cause => simp [eq_comm]
  | ok world =>
    dsimp only
    split <;> simp

/-- Work on the world is refused through a window as in the world behind it. -/
theorem apply_tryWorld_eq_error_iff {change : World → Except Refusal World} :
    (tryWorld change).apply window = (.error refusal, next) ↔
      change window.world = .error refusal ∧ next = window := by
  rw [tryWorld, Act.apply_change]
  cases change window.world with
  | error cause => simp [Except.map, eq_comm]
  | ok world => simp [Except.map]

/-- What is refused is forbidden, and leaves the window untouched. -/
theorem forbids_of_refused {operation : Operation}
    (refused : operation.act.apply window = (.error refusal, next)) :
    window.Forbids operation refusal ∧ window.Untouched next := by
  cases operation with
  | move =>
    obtain ⟨blocked, rfl⟩ := apply_move_eq_error_iff.mp refused
    obtain ⟨tile, obstacle, rfl⟩ := World.move_eq_error_iff.mp blocked
    exact ⟨.move obstacle, rfl⟩
  | pick =>
    obtain ⟨denied, rfl⟩ := apply_tryWorld_eq_error_iff.mp refused
    obtain ⟨bare, rfl⟩ := World.pick_eq_error_iff.mp denied
    exact ⟨.pick bare, rfl⟩
  | put =>
    obtain ⟨denied, rfl⟩ := apply_tryWorld_eq_error_iff.mp refused
    obtain ⟨spent, rfl⟩ := World.put_eq_error_iff.mp denied
    exact ⟨.put spent, rfl⟩
  | turnLeft | turnRight | setTileAhead _ | setBeepersHere _ | setBag _ | resize _ _
  | setLookahead _ | recenter => cases refused

/-- What is forbidden is refused. -/
theorem Forbids.exists_refused {operation : Operation} (forbidden : window.Forbids operation refusal) :
    ∃ next, operation.act.apply window = (.error refusal, next) := by
  cases forbidden with
  | move obstacle =>
    exact ⟨_, apply_move_eq_error_iff.mpr ⟨World.move_eq_error_iff.mpr ⟨_, obstacle, rfl⟩, rfl⟩⟩
  | pick bare =>
    exact ⟨_, apply_tryWorld_eq_error_iff.mpr ⟨World.pick_eq_error_iff.mpr ⟨bare, rfl⟩, rfl⟩⟩
  | put spent =>
    exact ⟨_, apply_tryWorld_eq_error_iff.mpr ⟨World.put_eq_error_iff.mpr ⟨spent, rfl⟩, rfl⟩⟩

end Window

end Karel
