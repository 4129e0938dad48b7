import Karel.Window
import Karel.Proofs.Window.Axis

/-!
# The words of an axis

A window computes with words. On an axis that is sound no sum and no difference of the rules wraps
around, and so they compute in words what `Axis` says in whole numbers: `toInt_axisStart` is the
place computed anew, and the lemmas on framed axes are the ones the scrolling step needs.
-/

namespace Karel

open Coordinate

/-- The axis that a window's words describe. -/
def Axis.ofWords (position start : Coordinate) (bound : Option Coordinate)
    (size lookahead : Coordinate) : Axis where
  position := position.toInt
  start := start.toInt
  size := size.toInt
  lookahead := lookahead.toInt
  bound := bound.map Int32.toInt

namespace Window

variable {position start size lookahead margin : Coordinate} {bound : Option Coordinate}

theorem toInt_size_sub_one (size_pos : 1 ≤ size.toInt) : (size - 1).toInt = size.toInt - 1 := by
  have upper := le_greatest size
  have one : (1 : Coordinate).toInt = 1 := rfl
  have exact := toInt_sub_of_bounds size 1
  simp only [least, greatest] at *
  omega

/-- What the size leaves of the margin. -/
theorem toInt_axisLookahead (size_pos : 1 ≤ size.toInt) :
    (axisLookahead margin size).toInt = min margin.toInt ((size.toInt - 1) / 2) := by
  have pred := toInt_size_sub_one size_pos
  rw [axisLookahead, toInt_min, toInt_half _ (by omega), pred]

/-- A coordinate is on an axis exactly if it lies between the ends of the plane. -/
theorem axisContains_iff : Bounds.axisContains bound position = true ↔
    Axis.first (bound.map Int32.toInt) ≤ position.toInt ∧
      ∀ last ∈ bound.map Int32.toInt, position.toInt < last := by
  cases bound with
  | none => simp [Bounds.axisContains, Axis.first, least_le]
  | some last =>
    simp [Bounds.axisContains, Axis.first, Int32.le_iff_toInt_le, Int32.lt_iff_toInt_lt]

section Sound

variable (sound : (Axis.ofWords position start bound size lookahead).Sound)
include sound

/-- The size and the margin of the axis, in the words that denote them. -/
theorem margins_of_sound :
    1 ≤ size.toInt ∧ 0 ≤ lookahead.toInt ∧ lookahead.toInt ≤ (size.toInt - 1) / 2 :=
  ⟨sound.size_pos, sound.lookahead_nonneg, sound.lookahead_le⟩

/-- The farthest distance from the start that is not in the margin after Karel. -/
theorem toInt_farthest : (size - 1 - lookahead).toInt = size.toInt - 1 - lookahead.toInt := by
  obtain ⟨size_pos, nonneg, small⟩ := margins_of_sound sound
  have upper := le_greatest size
  have pred := toInt_size_sub_one size_pos
  have exact := toInt_sub_of_bounds (size - 1) lookahead
  simp only [least, greatest] at *
  omega

theorem toInt_size_sub_lookahead : (size - lookahead).toInt = size.toInt - lookahead.toInt := by
  obtain ⟨size_pos, nonneg, small⟩ := margins_of_sound sound
  have upper := le_greatest size
  have exact := toInt_sub_of_bounds size lookahead
  simp only [least, greatest] at *
  omega

/-- The distance from the start at which the margin after Karel is reached. -/
theorem toInt_reach : (size - lookahead - 1).toInt = (size - lookahead).toInt - 1 := by
  obtain ⟨size_pos, nonneg, small⟩ := margins_of_sound sound
  have gap := toInt_size_sub_lookahead sound
  exact toInt_size_sub_one (by omega)

/-- The farthest start that shows nothing beyond the border. -/
theorem toInt_room {last : Coordinate} (bounded : bound = some last) :
    (last - size).toInt = last.toInt - size.toInt := by
  subst bounded
  have size_pos : 1 ≤ size.toInt := sound.size_pos
  have first : 0 ≤ position.toInt := sound.first_le_position
  have inside : position.toInt < last.toInt := sound.position_lt_bound _ rfl
  have lower := le_greatest size
  have upper := le_greatest last
  have exact := toInt_sub_of_bounds last size
  simp only [least, greatest] at *
  omega

/-- The place that is computed anew is the settled one. Stopping at an end of the range changes no
comparison, and no start but one below the least coordinate. -/
theorem toInt_axisStart : (axisStart position start bound size lookahead).toInt =
    (Axis.ofWords position start bound size lookahead).settled := by
  obtain ⟨size_pos, nonneg, small⟩ := margins_of_sound sound
  have sizes := le_greatest size
  have positions := le_greatest position
  have farthest := toInt_farthest sound
  have tooNear : (subClamped position start).toInt < lookahead.toInt ↔
      position.toInt - start.toInt < lookahead.toInt := by
    rw [toInt_subClamped]
    simp only [least, greatest] at *
    omega
  have tooFar : size.toInt - 1 - lookahead.toInt < (subClamped position start).toInt ↔
      size.toInt - 1 - lookahead.toInt < position.toInt - start.toInt := by
    rw [toInt_subClamped]
    simp only [least, greatest] at *
    omega
  have before : (subClamped position lookahead).toInt =
      max least (position.toInt - lookahead.toInt) := by
    rw [toInt_subClamped, Int.min_eq_left (by omega)]
  have after : (subClamped position (size - 1 - lookahead)).toInt =
      max least (position.toInt - (size.toInt - 1 - lookahead.toInt)) := by
    rw [toInt_subClamped, farthest, Int.min_eq_left (by omega)]
  have starts := least_le start
  cases bound with
  | none =>
    simp only [axisStart, Axis.settled, Axis.ofWords, Option.map_none, apply_ite Int32.toInt,
      Int32.lt_iff_toInt_lt, gt_iff_lt, farthest, tooNear, tooFar, before, after]
    split
    next => rfl
    next => split <;> omega
  | some last =>
    have zero : (0 : Coordinate).toInt = 0 := rfl
    simp only [axisStart, Axis.settled, Axis.ofWords, Option.map_some, toInt_max, toInt_min,
      apply_ite Int32.toInt, Int32.lt_iff_toInt_lt, gt_iff_lt, farthest, tooNear, tooFar, before,
      after, toInt_room sound rfl, zero, least]
    split
    next => omega
    next => split <;> omega

end Sound

section Framed

variable (framed : (Axis.ofWords position start bound size lookahead).Framed)
include framed

theorem toInt_relative : (position - start).toInt = position.toInt - start.toInt := by
  have lower : 0 ≤ position.toInt - start.toInt := framed.start_le_position
  have upper : position.toInt - start.toInt ≤ size.toInt - 1 := framed.position_le_end
  have limit := le_greatest size
  have exact := toInt_sub_of_bounds position start
  simp only [least, greatest] at *
  omega

theorem toInt_end {last : Coordinate} (bounded : bound = some last) :
    (start + size).toInt = start.toInt + size.toInt := by
  subst bounded
  have size_pos : 1 ≤ size.toInt := framed.size_pos
  have first : 0 ≤ start.toInt := framed.first_le_start
  have inside : start.toInt ≤ max (last.toInt - size.toInt) 0 := framed.start_le _ rfl
  have lower := le_greatest size
  have upper := le_greatest last
  have exact := toInt_add_of_bounds start size
  simp only [least, greatest] at *
  omega

/-- The border after the last coordinate is in view on the axis if it is in view in words. -/
theorem any_end_eq_isLastVisible :
    (bound.any fun last => decide (start + size ≥ last)) =
      (Axis.ofWords position start bound size lookahead).isLastVisible := by
  cases bound with
  | none => rfl
  | some last =>
    simp only [Option.any_some, Axis.isLastVisible, Axis.ofWords, Option.map_some, ge_iff_le,
      Int32.le_iff_toInt_le, toInt_end framed rfl]

/-- A step forward slides the window on the axis if the words say so. -/
theorem slidesForward_ofWords :
    (!(bound.any fun last => decide (start + size ≥ last)) &&
        decide (position - start ≥ size - lookahead - 1)) =
      (Axis.ofWords position start bound size lookahead).slidesForward := by
  have reached : (size - lookahead - 1).toInt = size.toInt - lookahead.toInt - 1 := by
    rw [toInt_reach framed.toSound, toInt_size_sub_lookahead framed.toSound]
  rw [any_end_eq_isLastVisible framed]
  simp only [Axis.slidesForward, Axis.ofWords, ge_iff_le, Int32.le_iff_toInt_le,
    toInt_relative framed, reached]

/-- A step backward slides the window on the axis if the words say so. -/
theorem slidesBackward_ofWords :
    (!(bound.isSome && decide (start ≤ 0)) && decide (position - start ≤ lookahead)) =
      (Axis.ofWords position start bound size lookahead).slidesBackward := by
  have visible : decide (start ≤ 0) = decide (start.toInt ≤ 0) :=
    decide_eq_decide.mpr Int32.le_iff_toInt_le
  have reached : decide (position - start ≤ lookahead) =
      decide (position.toInt - start.toInt ≤ lookahead.toInt) :=
    decide_eq_decide.mpr (by rw [Int32.le_iff_toInt_le, toInt_relative framed])
  rw [visible, reached, Axis.slidesBackward, Axis.isFirstVisible, Axis.ofWords, Option.isSome_map]

/-- The words of a step forward. The start of the view can not run into the end of the range, since
Karel is ahead of it. -/
theorem ofWords_forward {next : Coordinate} (ahead : next.toInt = position.toInt + 1) :
    .ofWords next (if (Axis.ofWords position start bound size lookahead).slidesForward
        then addClamped start 1 else start) bound size lookahead =
      (Axis.ofWords position start bound size lookahead).forward := by
  have behind : 0 ≤ position.toInt - start.toInt := framed.start_le_position
  have lower := least_le start
  have upper := le_greatest next
  have one : (1 : Coordinate).toInt = 1 := rfl
  have slid : (addClamped start 1).toInt = start.toInt + 1 := by
    rw [toInt_addClamped, one]
    simp only [least, greatest] at *
    omega
  rw [Axis.forward, Axis.ofWords, apply_ite Int32.toInt, slid, ahead]
  rfl

omit framed in
/-- The words of a step backward. -/
theorem ofWords_backward {next : Coordinate} (ahead : next.toInt = position.toInt - 1) :
    .ofWords next (if (Axis.ofWords position start bound size lookahead).slidesBackward
        then addClamped start (-1) else start) bound size lookahead =
      (Axis.ofWords position start bound size lookahead).backward := by
  have upper := le_greatest start
  have one : (-1 : Coordinate).toInt = -1 := rfl
  have slid : (addClamped start (-1)).toInt = max least (start.toInt - 1) := by
    rw [toInt_addClamped, one]
    simp only [least, greatest] at *
    omega
  rw [Axis.backward, Axis.ofWords, apply_ite Int32.toInt, slid, ahead]
  rfl

end Framed

end Window

end Karel
