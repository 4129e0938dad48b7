import Karel.Proofs.Window.Words
import Karel.Proofs.Worlds

/-!
# Windows that frame Karel

`Window.Framed` is the invariant of a window, one axis at a time. Placing a window anew establishes
it from anything sound, a step keeps it, and what leaves Karel on its cell does not touch it. A step
is what happens on the axis along which Karel faces; `Window.stepped` is its result, and the other
axis stays as it is.
-/

namespace Karel.Window

open Coordinate

/-- The axis along a row of the plane. -/
def horizontal (window : Window) : Axis :=
  .ofWords window.world.robot.position.x window.corner.x window.world.grid.bounds.width
    window.width window.lookahead.x

/-- The axis along a column of the plane. -/
def vertical (window : Window) : Axis :=
  .ofWords window.world.robot.position.y window.corner.y window.world.grid.bounds.height
    window.height window.lookahead.y

/-- Both axes can frame Karel. -/
structure Sound (window : Window) : Prop where
  horizontal : window.horizontal.Sound
  vertical : window.vertical.Sound

/-- Both axes frame Karel. -/
structure Framed (window : Window) : Prop where
  horizontal : window.horizontal.Framed
  vertical : window.vertical.Framed

variable {window : Window}

theorem Framed.sound (framed : window.Framed) : window.Sound :=
  ⟨framed.horizontal.toSound, framed.vertical.toSound⟩

theorem horizontal_recenter (sound : window.horizontal.Sound) :
    window.recenter.horizontal = window.horizontal.settle :=
  congrArg (fun start => { window.horizontal with start := start }) (toInt_axisStart sound)

theorem vertical_recenter (sound : window.vertical.Sound) :
    window.recenter.vertical = window.vertical.settle :=
  congrArg (fun start => { window.vertical with start := start }) (toInt_axisStart sound)

/-- A window that is placed anew frames Karel. -/
theorem Sound.recenter (sound : window.Sound) : window.recenter.Framed where
  horizontal := by
    rw [horizontal_recenter sound.horizontal]
    exact sound.horizontal.settle
  vertical := by
    rw [vertical_recenter sound.vertical]
    exact sound.vertical.settle

/-- The margin that was asked for is not negative, because no axis has a negative one. -/
theorem Sound.margin_nonneg (sound : window.Sound) : 0 ≤ window.margin.toInt := by
  have size_pos : 1 ≤ window.width.toInt := sound.horizontal.size_pos
  have nonneg : 0 ≤ (axisLookahead window.margin window.width).toInt :=
    sound.horizontal.lookahead_nonneg
  rw [toInt_axisLookahead size_pos] at nonneg
  omega

theorem one_le_toInt_max (size : Coordinate) : 1 ≤ (max size 1).toInt := by
  have one : (1 : Coordinate).toInt = 1 := rfl
  rw [toInt_max, one]
  omega

theorem toInt_max_nonneg (margin : Coordinate) : 0 ≤ (max margin 0).toInt := by
  have zero : (0 : Coordinate).toInt = 0 := rfl
  rw [toInt_max, zero]
  omega

/-- Inside the borders an axis is sound with any size that shows something and what that size leaves
of a margin. -/
theorem sound_axisLookahead {position start size margin : Coordinate} {bound : Option Coordinate}
    (first_le : Axis.first (bound.map Int32.toInt) ≤ position.toInt)
    (lt_bound : ∀ last ∈ bound.map Int32.toInt, position.toInt < last)
    (size_pos : 1 ≤ size.toInt) (margin_nonneg : 0 ≤ margin.toInt) :
    (Axis.ofWords position start bound size (axisLookahead margin size)).Sound := by
  have fitted : (axisLookahead margin size).toInt = _ := toInt_axisLookahead size_pos
  have nonneg : 0 ≤ (axisLookahead margin size).toInt := by omega
  have small : (axisLookahead margin size).toInt ≤ (size.toInt - 1) / 2 := by omega
  exact ⟨size_pos, nonneg, small, first_le, lt_bound⟩

/-- A window is as sound with any other size that shows something. -/
theorem Sound.withSize (sound : window.Sound) (width height : Coordinate) :
    Sound { window with width := max width 1, height := max height 1 } := by
  have nonneg := sound.margin_nonneg
  obtain ⟨⟨_, _, _, left, right⟩, ⟨_, _, _, top, bottom⟩⟩ := sound
  exact ⟨sound_axisLookahead left right (one_le_toInt_max width) nonneg,
    sound_axisLookahead top bottom (one_le_toInt_max height) nonneg⟩

/-- A window is as sound with any other margin that is not negative. -/
theorem Sound.withMargin (sound : window.Sound) (lookahead : Coordinate) :
    Sound { window with margin := max lookahead 0 } := by
  obtain ⟨⟨width_pos, _, _, left, right⟩, ⟨height_pos, _, _, top, bottom⟩⟩ := sound
  have nonneg := toInt_max_nonneg lookahead
  exact ⟨sound_axisLookahead left right width_pos nonneg,
    sound_axisLookahead top bottom height_pos nonneg⟩

theorem Sound.resize (sound : window.Sound) (width height : Coordinate) :
    (window.resize width height).Framed :=
  (sound.withSize width height).recenter

theorem Sound.setLookahead (sound : window.Sound) (lookahead : Coordinate) :
    (window.setLookahead lookahead).Framed :=
  (sound.withMargin lookahead).recenter

/-- Whether Karel's step slides the window along. -/
def slides (window : Window) : Bool :=
  !window.borderVisible window.world.robot.facing && window.lookaheadReached

/-- The window after Karel's step to the cell in front. -/
def stepped (window : Window) (front : Point) : Window :=
  { window with
    world := { window.world with robot := { window.world.robot with position := front } }
    corner :=
      if window.slides then window.corner.addClamped window.world.robot.facing.step
      else window.corner
    scrolled := window.slides }

/-- A step happens exactly if the cell in front can be entered, and a refused one leaves Karel and
the window where they are. -/
theorem apply_move (window : Window) :
    (∃ front, window.world.robot.front? = some front ∧
        (window.world.tile front).isBlocking = false ∧
        move.apply window = (.ok (), window.stepped front)) ∨
      ∃ refusal, window.world.move = .error refusal ∧
        move.apply window = (.error refusal, { window with scrolled := false }) := by
  rw [move, Act.apply_ofFunction]
  cases moved : window.world.move with
  | error refusal => exact .inr ⟨refusal, rfl, rfl⟩
  | ok world =>
    obtain ⟨front, ahead, passable, rfl⟩ := World.move_eq_ok_iff.mp moved
    refine .inl ⟨front, ahead, passable, ?_⟩
    unfold stepped
    cases sliding : window.slides with
    | true => 
      rw [slides] at sliding
      simp only [sliding, if_true]
    | false => 
      rw [slides] at sliding
      simp only [sliding, Bool.false_eq_true, if_false]

variable {front : Point}

theorem horizontal_stepped : (window.stepped front).horizontal =
    .ofWords front.x
      (if window.slides then addClamped window.corner.x window.world.robot.facing.step.x
        else window.corner.x)
      window.world.grid.bounds.width window.width window.lookahead.x := by
  unfold stepped
  cases window.slides <;> rfl

theorem vertical_stepped : (window.stepped front).vertical =
    .ofWords front.y
      (if window.slides then addClamped window.corner.y window.world.robot.facing.step.y
        else window.corner.y)
      window.world.grid.bounds.height window.height window.lookahead.y := by
  unfold stepped
  cases window.slides <;> rfl

/-- The axis along which Karel does not step stays as it is. -/
theorem ofWords_aside {position start size lookahead next : Coordinate}
    {bound : Option Coordinate} {slides : Bool} (aside : next.toInt = position.toInt + 0) :
    Axis.ofWords next (if slides then addClamped start 0 else start) bound size lookahead =
      .ofWords position start bound size lookahead := by
  rw [addClamped_zero, ite_self, Int32.toInt_inj.mp (aside.trans (Int.add_zero _))]

/-- The rule that slides the window is that of the axis along which Karel faces. -/
theorem slides_eq (framed : window.Framed) :
    window.slides =
      match window.world.robot.facing with
      | .east => window.horizontal.slidesForward
      | .west => window.horizontal.slidesBackward
      | .south => window.vertical.slidesForward
      | .north => window.vertical.slidesBackward := by
  unfold slides lookaheadReached
  cases window.world.robot.facing with
  | east => exact slidesForward_ofWords framed.horizontal
  | west => exact slidesBackward_ofWords framed.horizontal
  | south => exact slidesForward_ofWords framed.vertical
  | north => exact slidesBackward_ofWords framed.vertical

/-- Karel's step is a step on the axis along which Karel faces. -/
theorem axes_stepped (framed : window.Framed) (ahead : window.world.robot.front? = some front) :
    match window.world.robot.facing with
    | .east => (window.stepped front).horizontal = window.horizontal.forward ∧
        (window.stepped front).vertical = window.vertical
    | .west => (window.stepped front).horizontal = window.horizontal.backward ∧
        (window.stepped front).vertical = window.vertical
    | .south => (window.stepped front).horizontal = window.horizontal ∧
        (window.stepped front).vertical = window.vertical.forward
    | .north => (window.stepped front).horizontal = window.horizontal ∧
        (window.stepped front).vertical = window.vertical.backward := by
  obtain ⟨columns, rows⟩ := Point.add?_eq_some_iff.mp ahead
  have sliding := slides_eq framed
  rw [horizontal_stepped, vertical_stepped, sliding]
  cases facing : window.world.robot.facing with
  | east =>
    rw [facing] at columns rows
    exact ⟨ofWords_forward framed.horizontal columns, ofWords_aside rows⟩
  | west =>
    rw [facing] at columns rows
    exact ⟨ofWords_backward columns, ofWords_aside rows⟩
  | south =>
    rw [facing] at columns rows
    exact ⟨ofWords_aside columns, ofWords_forward framed.vertical rows⟩
  | north =>
    rw [facing] at columns rows
    exact ⟨ofWords_aside columns, ofWords_backward rows⟩

/-- A step inside the borders keeps Karel framed. -/
theorem Framed.stepped (framed : window.Framed) (ahead : window.world.robot.front? = some front)
    (inside : window.world.grid.bounds.contains front = true) : (window.stepped front).Framed := by
  obtain ⟨columns, rows⟩ := Point.add?_eq_some_iff.mp ahead
  obtain ⟨insideX, insideY⟩ := (Bool.and_eq_true _ _).mp inside
  have step := axes_stepped framed ahead
  cases facing : window.world.robot.facing with
  | east =>
    rw [facing] at step columns
    have next : front.x.toInt = window.horizontal.position + 1 := columns
    have below : ∀ last ∈ window.horizontal.bound, front.x.toInt < last :=
      (axisContains_iff.mp insideX).2
    rw [next] at below
    exact ⟨step.1 ▸ framed.horizontal.forward below, step.2 ▸ framed.vertical⟩
  | west =>
    rw [facing] at step columns
    have next : front.x.toInt = window.horizontal.position - 1 := columns
    have above : Axis.first window.horizontal.bound ≤ front.x.toInt :=
      (axisContains_iff.mp insideX).1
    rw [next] at above
    exact ⟨step.1 ▸ framed.horizontal.backward above, step.2 ▸ framed.vertical⟩
  | south =>
    rw [facing] at step rows
    have next : front.y.toInt = window.vertical.position + 1 := rows
    have below : ∀ last ∈ window.vertical.bound, front.y.toInt < last :=
      (axisContains_iff.mp insideY).2
    rw [next] at below
    exact ⟨step.1 ▸ framed.horizontal, step.2 ▸ framed.vertical.forward below⟩
  | north =>
    rw [facing] at step rows
    have next : front.y.toInt = window.vertical.position - 1 := rows
    have above : Axis.first window.vertical.bound ≤ front.y.toInt :=
      (axisContains_iff.mp insideY).1
    rw [next] at above
    exact ⟨step.1 ▸ framed.horizontal, step.2 ▸ framed.vertical.backward above⟩

end Karel.Window
