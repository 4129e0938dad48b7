import Karel.Proofs.Window.Placement
import Karel.Proofs.Window.Refusals

/-!
# What a window says about its sliding

After each of Karel's moves a window says whether it slid. That is decided before the move and the
corner is moved after it, stopping at the ends of the plane. The two disagree in one case only: a
window that starts at the least coordinate has nowhere to slide, but says that it did. Anywhere else
a window says the truth and slides by the step that Karel makes, and so a run of operations has
moved its corner by the slides that were told, each in the direction in which Karel faced.
-/

namespace Karel.Window

open Coordinate

/-- Whether the window starts at the end of the plane that Karel faces. An axis with borders has no
such end. -/
def startsAtEdge (window : Window) : Bool :=
  match window.world.robot.facing with
  | .west => decide (window.corner.x.toInt = least)
  | .north => decide (window.corner.y.toInt = least)
  | .east | .south => false

/-- Whether the plane has borders across the way Karel faces. -/
def facesBorder (window : Window) : Bool :=
  match window.world.robot.facing with
  | .east | .west => window.world.grid.bounds.width.isSome
  | .north | .south => window.world.grid.bounds.height.isSome

/-- A window stands where another one would stand after a slide along Karel's step. -/
structure Slid (window next : Window) : Prop where
  columns : next.corner.x.toInt = window.corner.x.toInt + window.world.robot.facing.step.x.toInt
  rows : next.corner.y.toInt = window.corner.y.toInt + window.world.robot.facing.step.y.toInt

/-- What a window says after a step is what happened, as long as there was somewhere to slide. -/
structure Truthful (window next : Window) : Prop where
  told : window.startsAtEdge = false → (next.scrolled = true ↔ next.corner ≠ window.corner)
  slid : window.startsAtEdge = false → next.scrolled = true → window.Slid next
  atEdge : window.startsAtEdge = true → next.corner = window.corner

variable {window next : Window} {front : Point}

/-- A start that is not ahead of Karel moves along with Karel's step, unless it is the least one. -/
theorem toInt_slid {start step position ahead : Coordinate}
    (inView : start.toInt ≤ position.toInt) (reached : ahead.toInt = position.toInt + step.toInt)
    (room : least ≤ start.toInt + step.toInt) :
    (addClamped start step).toInt = start.toInt + step.toInt := by
  have upper := le_greatest ahead
  rw [toInt_addClamped, Int.min_eq_left (by omega), Int.max_eq_right room]

/-- At the least coordinate there is nowhere to slide. -/
theorem addClamped_of_least {start : Coordinate} (edge : start.toInt = least) :
    addClamped start (-1) = start := by
  have one : (-1 : Coordinate).toInt = -1 := rfl
  rw [← Int32.toInt_inj, toInt_addClamped, edge, one]
  decide

/-- Unless the window starts at the end of the plane, there are coordinates one step further. -/
theorem least_le_of_startsAtEdge (clear : window.startsAtEdge = false) :
    least ≤ window.corner.x.toInt + window.world.robot.facing.step.x.toInt ∧
      least ≤ window.corner.y.toInt + window.world.robot.facing.step.y.toInt := by
  have columns := least_le window.corner.x
  have rows := least_le window.corner.y
  have one : (1 : Coordinate).toInt = 1 := rfl
  have back : (-1 : Coordinate).toInt = -1 := rfl
  have zero : (0 : Coordinate).toInt = 0 := rfl
  unfold startsAtEdge at clear
  cases facing : window.world.robot.facing with
  | east | south =>
    simp only [Direction.step, one, zero]
    omega
  | west | north =>
    rw [facing, decide_eq_false_iff_not] at clear
    simp only [Direction.step, back, zero]
    omega

/-- Wherever there is somewhere to slide, the window is found one step further. -/
theorem slid_addClamped (framed : window.Framed) (ahead : window.world.robot.front? = some front)
    (clear : window.startsAtEdge = false) :
    window.Slid { window with
      corner := window.corner.addClamped window.world.robot.facing.step } := by
  obtain ⟨columns, rows⟩ := Point.add?_eq_some_iff.mp ahead
  obtain ⟨roomX, roomY⟩ := least_le_of_startsAtEdge clear
  exact ⟨toInt_slid (Int.sub_nonneg.mp framed.horizontal.start_le_position) columns roomX,
    toInt_slid (Int.sub_nonneg.mp framed.vertical.start_le_position) rows roomY⟩

/-- At the edge of the plane the window is found where it was. -/
theorem addClamped_atEdge (edge : window.startsAtEdge = true) :
    window.corner.addClamped window.world.robot.facing.step = window.corner := by
  unfold startsAtEdge at edge
  unfold Point.addClamped
  cases facing : window.world.robot.facing with
  | west =>
    rw [facing, decide_eq_true_eq] at edge
    rw [Direction.step, addClamped_of_least edge, addClamped_zero]
  | north =>
    rw [facing, decide_eq_true_eq] at edge
    rw [Direction.step, addClamped_of_least edge, addClamped_zero]
  | east | south =>
    rw [facing] at edge
    cases edge

/-- A window that slid is not where it was. -/
theorem Slid.corner_ne (slid : window.Slid next) : next.corner ≠ window.corner := by
  obtain ⟨columns, rows⟩ := slid
  intro same
  rw [same] at columns rows
  have still : window.world.robot.facing.step.x.toInt = 0 ∧
      window.world.robot.facing.step.y.toInt = 0 := ⟨by omega, by omega⟩
  revert still
  cases window.world.robot.facing <;> decide

/-- Along an axis with borders no window starts at the end of the plane. -/
theorem Framed.startsAtEdge_eq_false (framed : window.Framed) (bordered : window.facesBorder = true) :
    window.startsAtEdge = false := by
  have columns : Axis.first (window.world.grid.bounds.width.map Int32.toInt) ≤
      window.corner.x.toInt := framed.horizontal.first_le_start
  have rows : Axis.first (window.world.grid.bounds.height.map Int32.toInt) ≤
      window.corner.y.toInt := framed.vertical.first_le_start
  unfold facesBorder at bordered
  unfold startsAtEdge
  cases facing : window.world.robot.facing with
  | east | south => rfl
  | west =>
    rw [facing] at bordered
    obtain ⟨width, bound⟩ := Option.isSome_iff_exists.mp bordered
    rw [bound] at columns
    have nonneg : 0 ≤ window.corner.x.toInt := columns
    exact decide_eq_false (by unfold least; omega)
  | north =>
    rw [facing] at bordered
    obtain ⟨height, bound⟩ := Option.isSome_iff_exists.mp bordered
    rw [bound] at rows
    have nonneg : 0 ≤ window.corner.y.toInt := rows
    exact decide_eq_false (by unfold least; omega)

/-- A step to the cell in front says truly whether the window slid. -/
theorem Framed.truthful_stepped (framed : window.Framed)
    (ahead : window.world.robot.front? = some front) : window.Truthful (window.stepped front) := by
  have slid : window.startsAtEdge = false → window.slides = true →
      window.Slid (window.stepped front) := by
    intro clear slides
    obtain ⟨columns, rows⟩ := slid_addClamped framed ahead clear
    constructor
    · rw [Window.stepped, if_pos slides]
      exact columns
    · rw [Window.stepped, if_pos slides]
      exact rows
  refine ⟨fun clear => ⟨fun slides => (slid clear slides).corner_ne, ?_⟩, slid, ?_⟩
  · intro moved
    cases slides : window.slides with
    | true => exact slides
    | false => exact absurd (if_neg (Bool.eq_false_iff.mp slides)) moved
  · intro edge
    rw [Window.stepped, addClamped_atEdge edge, ite_self]

/-! ## Runs -/

/-- Whether an operation leaves the size and the margin of a window as they are. -/
def Operation.keepsSize : Operation → Bool
  | .resize _ _ | .setLookahead _ => false
  | _ => true

/-- Whether an operation is a move after which the window says that it slid. -/
def tellsSlide (window : Window) : Operation → Bool
  | .move => (window.after .move).scrolled
  | _ => false

/-- The window that a sequence of operations leaves behind, be each of them done or refused. -/
def afterAll (window : Window) (operations : List Operation) : Window :=
  operations.foldl Window.after window

/-- The windows of a run that are left with the word that they slid. -/
def slidings (window : Window) : List Operation → List Window
  | [] => []
  | operation :: rest =>
    if window.tellsSlide operation then window :: (window.after operation).slidings rest
    else (window.after operation).slidings rest

/-- The slides in a direction that a run tells of. -/
def slidesToward (window : Window) (operations : List Operation) (direction : Direction) : Nat :=
  (window.slidings operations).countP (·.world.isFacing direction)

/-- Those of them for which there was nowhere to slide. -/
def stopsToward (window : Window) (operations : List Operation) (direction : Direction) : Nat :=
  (window.slidings operations).countP fun state =>
    state.world.isFacing direction && state.startsAtEdge

/-- The corner moved by the slides that a run tells of, but for those that the edge of the plane
stopped. The plane only has an edge that way on two of its sides. -/
structure Travelled (window : Window) (operations : List Operation) : Prop where
  columns : (window.afterAll operations).corner.x.toInt + window.slidesToward operations .west =
    window.corner.x.toInt + window.slidesToward operations .east +
      window.stopsToward operations .west
  rows : (window.afterAll operations).corner.y.toInt + window.slidesToward operations .north =
    window.corner.y.toInt + window.slidesToward operations .south +
      window.stopsToward operations .north

theorem corner_tryWorld (window : Window) (change : World → Except Refusal World) :
    ((tryWorld change).apply window).2.corner = window.corner := by
  rw [tryWorld, Act.apply_change]
  cases change window.world <;> rfl

/-- A step that is not refused is told truly. -/
theorem Framed.truthful_move (framed : window.Framed)
    (done : Window.move.apply window = (.ok (), next)) : window.Truthful next := by
  rcases apply_move window with ⟨front, ahead, -, moved⟩ | ⟨refusal, -, stayed⟩
  · cases moved.symm.trans done
    exact framed.truthful_stepped ahead
  · cases stayed.symm.trans done

/-- What one operation does to the corner: a slide that is told of moves it by Karel's step, unless
there is nowhere to slide, and everything else leaves it where it is. -/
theorem Framed.corner_after (framed : window.Framed) {operation : Operation}
    (keeps : operation.keepsSize = true) :
    if window.tellsSlide operation && !window.startsAtEdge then window.Slid (window.after operation)
    else (window.after operation).corner = window.corner := by
  cases operation with
  | move =>
    cases result : (Window.move.apply window).1 with
    | error refusal =>
      have stayed : window.after .move = { window with scrolled := false } :=
        (apply_move_eq_error_iff.mp (Prod.ext result rfl)).2
      rw [tellsSlide, stayed, Bool.false_and, if_neg Bool.false_ne_true]
    | ok _ =>
      have truthful : window.Truthful (window.after .move) :=
        framed.truthful_move (Prod.ext result rfl)
      obtain ⟨told, slid, atEdge⟩ := truthful
      rw [tellsSlide]
      cases edge : window.startsAtEdge with
      | true =>
        rw [Bool.not_true, Bool.and_false, if_neg Bool.false_ne_true]
        exact atEdge edge
      | false =>
        rw [Bool.not_false, Bool.and_true]
        split
        next slides => exact slid edge slides
        next stays => exact Decidable.not_not.mp fun moved => stays ((told edge).mpr moved)
  | turnLeft | turnRight | setTileAhead _ | setBeepersHere _ | setBag _ => rfl
  | pick => exact corner_tryWorld window World.pick
  | put => exact corner_tryWorld window World.put
  | recenter => exact congrArg corner framed.recenter_eq
  | resize _ _ | setLookahead _ => cases keeps

theorem slidings_cons (window : Window) (operation : Operation) (rest : List Operation) :
    window.slidings (operation :: rest) =
      window.slidings [operation] ++ (window.after operation).slidings rest := by
  simp only [slidings]
  split <;> rfl

theorem slidesToward_cons (window : Window) (operation : Operation) (rest : List Operation)
    (direction : Direction) :
    window.slidesToward (operation :: rest) direction =
      window.slidesToward [operation] direction +
        (window.after operation).slidesToward rest direction := by
  unfold slidesToward
  rw [slidings_cons, List.countP_append]

theorem stopsToward_cons (window : Window) (operation : Operation) (rest : List Operation)
    (direction : Direction) :
    window.stopsToward (operation :: rest) direction =
      window.stopsToward [operation] direction +
        (window.after operation).stopsToward rest direction := by
  unfold stopsToward
  rw [slidings_cons, List.countP_append]

/-- The edge of the plane is ahead of Karel on two of the four sides only. -/
theorem not_isFacing_of_startsAtEdge (edge : window.startsAtEdge = true) :
    window.world.isFacing .east = false ∧ window.world.isFacing .south = false := by
  unfold startsAtEdge at edge
  unfold World.isFacing
  cases facing : window.world.robot.facing with
  | west | north => exact ⟨rfl, rfl⟩
  | east | south =>
    rw [facing] at edge
    cases edge

/-- A slide moves the corner towards the side that Karel faces. -/
theorem Slid.corner_eq (slid : window.Slid next) :
    next.corner.x.toInt + (window.world.isFacing .west).toNat =
        window.corner.x.toInt + (window.world.isFacing .east).toNat ∧
      next.corner.y.toInt + (window.world.isFacing .north).toNat =
        window.corner.y.toInt + (window.world.isFacing .south).toNat := by
  have steps : window.world.robot.facing.step.x.toInt + (window.world.isFacing .west).toNat =
        (window.world.isFacing .east).toNat ∧
      window.world.robot.facing.step.y.toInt + (window.world.isFacing .north).toNat =
        (window.world.isFacing .south).toNat := by
    unfold World.isFacing
    cases window.world.robot.facing <;> decide
  have columns := slid.columns
  have rows := slid.rows
  omega

/-- One operation moves the corner as it tells. -/
theorem Framed.travelled_one (framed : window.Framed) {operation : Operation}
    (keeps : operation.keepsSize = true) : window.Travelled [operation] := by
  have step := framed.corner_after keeps
  have single : window.afterAll [operation] = window.after operation := rfl
  cases told : window.tellsSlide operation with
  | false =>
    rw [told, Bool.false_and, if_neg Bool.false_ne_true] at step
    constructor <;> simp [single, step, slidesToward, stopsToward, slidings, told]
  | true =>
    have slides : ∀ direction,
        window.slidesToward [operation] direction = (window.world.isFacing direction).toNat := by
      intro direction
      cases faces : window.world.isFacing direction <;>
        simp [slidesToward, slidings, told, faces]
    have stops : ∀ direction, window.stopsToward [operation] direction =
        (window.world.isFacing direction && window.startsAtEdge).toNat := by
      intro direction
      cases faces : window.world.isFacing direction && window.startsAtEdge <;>
        simp [stopsToward, slidings, told, faces]
    cases edge : window.startsAtEdge with
    | true =>
      rw [told, edge, Bool.not_true, Bool.and_false, if_neg Bool.false_ne_true] at step
      obtain ⟨east, south⟩ := not_isFacing_of_startsAtEdge edge
      constructor <;> simp [single, step, slides, stops, edge, east, south]
    | false =>
      rw [told, edge, Bool.not_false, Bool.and_true, if_pos rfl] at step
      constructor <;> simp [single, step.corner_eq, slides, stops, edge]

/-- A run that changes neither size nor margin moves the corner as it tells. -/
theorem Framed.travelled (framed : window.Framed) (operations : List Operation)
    (keep : ∀ operation ∈ operations, operation.keepsSize = true) :
    window.Travelled operations := by
  induction operations generalizing window with
  | nil => constructor <;> simp [afterAll, slidesToward, stopsToward, slidings]
  | cons operation rest inductionHypothesis =>
    rw [List.forall_mem_cons] at keep
    obtain ⟨stepColumns, stepRows⟩ := framed.travelled_one keep.1
    obtain ⟨restColumns, restRows⟩ := inductionHypothesis (framed.operation operation) keep.2
    have joined : window.afterAll (operation :: rest) =
      (window.after operation).afterAll rest := rfl
    have single : window.afterAll [operation] = window.after operation := rfl
    have slides := slidesToward_cons window operation rest
    have stops := stopsToward_cons window operation rest
    rw [single] at stepColumns stepRows
    constructor
    · rw [joined, slides, slides, stops]
      omega
    · rw [joined, slides, slides, stops]
      omega

/-- In a window that was opened and worked with in any way, a refused move changes nothing and tells
of no slide. A move that is made tells of a slide exactly if the corner moved, and then it moved by
Karel's step; only where the window starts at an end of the plane without a border the corner stays,
whatever is told. So a run that changes neither size nor margin moves the corner by the slides it
tells of, but for those that were stopped there. -/
theorem Reachable.scrolled_tells (reachable : window.Reachable) :
    (∀ refusal next, move.apply window = (.error refusal, next) →
        next = { window with scrolled := false }) ∧
      (∀ next, move.apply window = (.ok (), next) → window.Truthful next) ∧
      (window.facesBorder = true → window.startsAtEdge = false) ∧
      ∀ operations : List Operation, (∀ operation ∈ operations, operation.keepsSize = true) →
        window.Travelled operations := by
  have framed := reachable.framed
  exact ⟨fun refusal next refused => (apply_move_eq_error_iff.mp refused).2,
    fun next => framed.truthful_move, framed.startsAtEdge_eq_false, framed.travelled⟩

/-- From the corner of a larger plane Karel makes three steps, the second and the third of which slide
the window, turns round and comes back by one step, which does not. -/
theorem scrolled_tells_corner :
    cornerWindow.Reachable ∧
      cornerWindow.Travelled [.move, .move, .move, .turnLeft, .turnLeft, .move] ∧
      cornerWindow.slidesToward [.move, .move, .move, .turnLeft, .turnLeft, .move] .east = 2 := by
  have reachable := reachable_cornerWindow
  exact ⟨reachable, reachable.scrolled_tells.2.2.2 _ (by decide), by decide⟩

/-- A window of three columns on a plane without borders, where Karel faces west one column from the
least one. -/
def edgeWindow : Window :=
  onWorld ⟨⟨⟨-2147483647, 0⟩, .west, .unlimited⟩, .empty .unbounded⟩ ⟨3, 1, 1⟩

/-- Karel makes the last step to the least column. The window tells of a slide, and its corner is
where it was. -/
theorem tells_slide_at_edge :
    edgeWindow.Reachable ∧ move.apply edgeWindow = (.ok (), edgeWindow.after .move) ∧
      (edgeWindow.after .move).scrolled = true ∧
      (edgeWindow.after .move).corner = edgeWindow.corner :=
  ⟨.opened (World.place_eq_ok_iff.mpr ⟨by rw [Grid.get_empty]; decide, rfl⟩) ⟨3, 1, 1⟩,
    rfl, by decide, by decide⟩

end Karel.Window
