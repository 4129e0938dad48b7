import Karel.Proofs.Window.Reachable

/-!
# The least move to a legal place

A place of a window is legal on an axis if it shows nothing beyond a border that it could avoid to
show, and keeps Karel between the margins wherever no border is in the way. The legal starts of an
axis are an interval, and the rule that computes a start anew finds the point of it that is nearest
to the current start. `Window.Reachable.placement_nearest` says so for the three operations that place a
window anew.
-/

namespace Karel

open Coordinate

namespace Axis

/-- The farthest start that shows nothing beyond a border after the last coordinate. A view that is
wider than the plane starts where the plane does. -/
def room (axis : Axis) (bound : Int) : Int := max (bound - axis.size) 0

/-- Where a window may start: inside the borders and with Karel between the margins, which count less
than the borders. Without borders nothing starts before the least coordinate, even if the margin
before Karel asks for that. -/
def Legal (axis : Axis) (start : Int) : Prop :=
  match axis.bound with
  | some bound =>
    (0 ≤ start ∧ start ≤ axis.room bound) ∧
      (axis.lookahead ≤ axis.position - start ∨ start = 0) ∧
      (axis.position - start ≤ axis.size - 1 - axis.lookahead ∨ start = axis.room bound)
  | none =>
    if axis.position - axis.lookahead < least then start = least
    else axis.lookahead ≤ axis.position - start ∧
      axis.position - start ≤ axis.size - 1 - axis.lookahead

/-- A legal start that is nearer to the current one than any other legal start is. -/
structure Nearest (axis : Axis) (start : Int) : Prop where
  legal : axis.Legal start
  nearer : ∀ other, axis.Legal other → other ≠ start →
    (start - axis.start).natAbs < (other - axis.start).natAbs

/-- The least of the legal starts. -/
def lowest (axis : Axis) : Int :=
  match axis.bound with
  | some bound => max 0 (min (axis.position - (axis.size - 1 - axis.lookahead)) (axis.room bound))
  | none =>
    if axis.position - axis.lookahead < least then least
    else axis.position - (axis.size - 1 - axis.lookahead)

/-- The greatest of the legal starts. -/
def highest (axis : Axis) : Int :=
  match axis.bound with
  | some bound => min (max (axis.position - axis.lookahead) 0) (axis.room bound)
  | none => max (axis.position - axis.lookahead) least

variable {axis : Axis} {start : Int}

/-- The legal starts are an interval. -/
theorem Sound.legal_iff (sound : axis.Sound) :
    axis.Legal start ↔ axis.lowest ≤ start ∧ start ≤ axis.highest := by
  obtain ⟨position, current, size, lookahead, bound⟩ := axis
  cases bound with
  | none =>
    simp only [Legal, lowest, highest, sound_none_iff] at *
    split <;> omega
  | some bound =>
    have nonneg : 0 ≤ max (bound - size) 0 := Int.le_max_right ..
    simp only [Legal, lowest, highest, room, sound_some_iff] at *
    generalize max (bound - size) 0 = room at *
    omega

/-- There is a legal start. -/
theorem Sound.lowest_le_highest (sound : axis.Sound) : axis.lowest ≤ axis.highest := by
  obtain ⟨position, current, size, lookahead, bound⟩ := axis
  cases bound with
  | none =>
    simp only [lowest, highest, sound_none_iff] at *
    split <;> omega
  | some bound =>
    have nonneg : 0 ≤ max (bound - size) 0 := Int.le_max_right ..
    simp only [lowest, highest, room, sound_some_iff] at *
    generalize max (bound - size) 0 = room at *
    omega

/-- To move as little as the margins ask for and then inside the borders is to move to the nearest
end of the interval of legal starts. -/
theorem Sound.settled_eq (sound : axis.Sound) (inRange : least ≤ axis.start) :
    axis.settled = max axis.lowest (min axis.start axis.highest) := by
  obtain ⟨position, current, size, lookahead, bound⟩ := axis
  cases bound with
  | none =>
    simp only [settled, lowest, highest, sound_none_iff] at *
    split
    next near => split <;> omega
    next clear => split <;> split <;> omega
  | some bound =>
    have nonneg : 0 ≤ max (bound - size) 0 := Int.le_max_right ..
    simp only [settled, lowest, highest, room, sound_some_iff] at *
    generalize max (bound - size) 0 = room at *
    split
    next near => omega
    next clear => split <;> omega

/-- The start that is computed anew is the nearest of the legal ones. -/
theorem Sound.nearest (sound : axis.Sound) (inRange : least ≤ axis.start) :
    axis.Nearest axis.settled := by
  have order := sound.lowest_le_highest
  rw [sound.settled_eq inRange]
  refine ⟨sound.legal_iff.mpr (by omega), fun other legal different => ?_⟩
  have between := sound.legal_iff.mp legal
  omega

end Axis

namespace Window

/-- A window on the same world that was placed anew with no greater move than its own size and margin
ask for. -/
structure MovedLeast (window next : Window) : Prop where
  world : next.world = window.world
  columns : Axis.Nearest { next.horizontal with start := window.corner.x.toInt }
    next.corner.x.toInt
  rows : Axis.Nearest { next.vertical with start := window.corner.y.toInt } next.corner.y.toInt

variable {window : Window}

/-- To place a window anew moves it as little as possible, wherever it was. -/
theorem Sound.movedLeast (sound : window.Sound) : window.MovedLeast window.recenter where
  world := rfl
  columns := by
    have placed : window.recenter.corner.x.toInt = window.horizontal.settled :=
      toInt_axisStart sound.horizontal
    rw [placed]
    exact sound.horizontal.nearest (least_le window.corner.x)
  rows := by
    have placed : window.recenter.corner.y.toInt = window.vertical.settled :=
      toInt_axisStart sound.vertical
    rw [placed]
    exact sound.vertical.nearest (least_le window.corner.y)

/-- In a window that was opened and worked with in any way, a new place, a new size and a new margin
move the corner on each axis to the nearest place that is legal for the new size and for what it
leaves of the margin. -/
theorem Reachable.placement_nearest (reachable : window.Reachable) :
    window.MovedLeast window.recenter ∧
      (∀ width height, window.MovedLeast (window.resize width height)) ∧
      ∀ lookahead, window.MovedLeast (window.setLookahead lookahead) := by
  have sound := reachable.framed.sound
  refine ⟨sound.movedLeast, fun width height => ?_, fun lookahead => ?_⟩
  · obtain ⟨world, columns, rows⟩ := (sound.withSize width height).movedLeast
    exact ⟨world, columns, rows⟩
  · obtain ⟨world, columns, rows⟩ := (sound.withMargin lookahead).movedLeast
    exact ⟨world, columns, rows⟩

/-- Karel is two steps from the corner and the window one. Cut to a single cell, the window follows by
one column, which is the only legal place. -/
theorem placement_nearest_corner :
    ((cornerWindow.after .move).after .move).Reachable ∧
      ((cornerWindow.after .move).after .move).MovedLeast
        (((cornerWindow.after .move).after .move).resize 1 1) ∧
      (((cornerWindow.after .move).after .move).resize 1 1).corner = ⟨2, 0⟩ := by
  have reachable := (reachable_cornerWindow.after .move).after .move
  exact ⟨reachable, reachable.placement_nearest.2.1 1 1, by decide +kernel⟩

end Window

end Karel
