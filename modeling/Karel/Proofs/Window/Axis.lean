import Karel.Proofs.Coordinates

/-!
# One axis of a window

A window is placed on both axes by the same rules, and what they do on one axis does not depend on
the other. An `Axis` is what the rules look at, in whole numbers. `Axis.Framed` is the invariant that
keeps Karel in sight; it allows a margin to be broken only where the plane ends. `Axis.settled` is
the place that is computed anew, `Axis.forward` and `Axis.backward` are Karel's steps, and all three
end in a framed axis.
-/

namespace Karel

/-- What places a window along one axis. -/
structure Axis where
  /-- Where Karel is. -/
  position : Int
  /-- The first coordinate in view. -/
  start : Int
  /-- How many coordinates are in view. -/
  size : Int
  /-- How many coordinates stay in view ahead of Karel. -/
  lookahead : Int
  /-- Where the plane ends, if it has borders. -/
  bound : Option Int

namespace Axis

/-- The least coordinate of the plane: zero at a border, and otherwise the least there is. -/
def first : Option Int → Int
  | some _ => 0
  | none => Coordinate.least

/-- Whether the border before the first coordinate is in view. -/
def isFirstVisible (axis : Axis) : Bool :=
  axis.bound.isSome && decide (axis.start ≤ 0)

/-- Whether the border after the last coordinate is in view. -/
def isLastVisible (axis : Axis) : Bool :=
  axis.bound.any fun bound => decide (axis.start + axis.size ≥ bound)

/-- There is something in view, there is room for Karel between the margins, and Karel stands inside
the borders. None of this depends on the place of the window. -/
structure Sound (axis : Axis) : Prop where
  size_pos : 1 ≤ axis.size
  lookahead_nonneg : 0 ≤ axis.lookahead
  lookahead_le : axis.lookahead ≤ (axis.size - 1) / 2
  first_le_position : first axis.bound ≤ axis.position
  position_lt_bound : ∀ bound ∈ axis.bound, axis.position < bound

/-- Karel is in view, and not in a margin unless the view ends where the plane does. The view shows
nothing beyond a border that it could avoid to show. -/
structure Framed (axis : Axis) : Prop extends axis.Sound where
  start_le_position : 0 ≤ axis.position - axis.start
  position_le_end : axis.position - axis.start ≤ axis.size - 1
  margin_before : axis.lookahead ≤ axis.position - axis.start ∨ axis.start = first axis.bound
  margin_after : axis.position - axis.start ≤ axis.size - 1 - axis.lookahead ∨
    ∃ bound ∈ axis.bound, bound ≤ axis.start + axis.size
  first_le_start : first axis.bound ≤ axis.start
  start_le : ∀ bound ∈ axis.bound, axis.start ≤ max (bound - axis.size) 0

/-- The start that is computed anew: as near as possible to the current one with Karel between the
margins, and then moved inside the borders. -/
def settled (axis : Axis) : Int :=
  let wish :=
    if axis.position - axis.start < axis.lookahead then axis.position - axis.lookahead
    else if axis.position - axis.start > axis.size - 1 - axis.lookahead then
      axis.position - (axis.size - 1 - axis.lookahead)
    else axis.start
  match axis.bound with
  | some bound => max 0 (min wish (max (bound - axis.size) 0))
  | none => max Coordinate.least wish

/-- The axis with the window placed anew. -/
def settle (axis : Axis) : Axis := { axis with start := axis.settled }

/-- Whether a step to the next coordinate slides the window along. -/
def slidesForward (axis : Axis) : Bool :=
  !axis.isLastVisible && decide (axis.position - axis.start ≥ axis.size - axis.lookahead - 1)

/-- Whether a step to the coordinate before slides the window along. -/
def slidesBackward (axis : Axis) : Bool :=
  !axis.isFirstVisible && decide (axis.position - axis.start ≤ axis.lookahead)

/-- The axis after Karel's step to the next coordinate. -/
def forward (axis : Axis) : Axis :=
  { axis with
    position := axis.position + 1
    start := if axis.slidesForward then axis.start + 1 else axis.start }

/-- The axis after Karel's step to the coordinate before. At the least coordinate there is the window
can not slide any further. -/
def backward (axis : Axis) : Axis :=
  { axis with
    position := axis.position - 1
    start := if axis.slidesBackward then max Coordinate.least (axis.start - 1) else axis.start }

variable {axis : Axis} {position start size lookahead bound : Int}

/-- A sound axis with borders, in inequalities. -/
theorem sound_some_iff :
    Sound ⟨position, start, size, lookahead, some bound⟩ ↔
      1 ≤ size ∧ 0 ≤ lookahead ∧ lookahead ≤ (size - 1) / 2 ∧ 0 ≤ position ∧ position < bound := by
  constructor
  · rintro ⟨size_pos, lookahead_nonneg, lookahead_le, first_le, position_lt⟩
    exact ⟨size_pos, lookahead_nonneg, lookahead_le, first_le, position_lt bound rfl⟩
  · rintro ⟨size_pos, lookahead_nonneg, lookahead_le, first_le, position_lt⟩
    exact ⟨size_pos, lookahead_nonneg, lookahead_le, first_le, by rintro _ ⟨⟩; exact position_lt⟩

theorem sound_none_iff :
    Sound ⟨position, start, size, lookahead, none⟩ ↔
      1 ≤ size ∧ 0 ≤ lookahead ∧ lookahead ≤ (size - 1) / 2 ∧ Coordinate.least ≤ position := by
  constructor
  · rintro ⟨size_pos, lookahead_nonneg, lookahead_le, first_le, _⟩
    exact ⟨size_pos, lookahead_nonneg, lookahead_le, first_le⟩
  · rintro ⟨size_pos, lookahead_nonneg, lookahead_le, first_le⟩
    exact ⟨size_pos, lookahead_nonneg, lookahead_le, first_le, nofun⟩

/-- A framed axis with borders, in inequalities. -/
theorem framed_some_iff :
    Framed ⟨position, start, size, lookahead, some bound⟩ ↔
      Sound ⟨position, start, size, lookahead, some bound⟩ ∧
      0 ≤ position - start ∧ position - start ≤ size - 1 ∧
      (lookahead ≤ position - start ∨ start = 0) ∧
      (position - start ≤ size - 1 - lookahead ∨ bound ≤ start + size) ∧
      0 ≤ start ∧ start ≤ max (bound - size) 0 := by
  constructor
  · rintro ⟨sound, start_le, position_le, before, after, first_le, last_le⟩
    exact ⟨sound, start_le, position_le, before, by simpa using after, first_le, last_le bound rfl⟩
  · rintro ⟨sound, start_le, position_le, before, after, first_le, last_le⟩
    exact ⟨sound, start_le, position_le, before, by simpa using after, first_le,
      by rintro _ ⟨⟩; exact last_le⟩

theorem framed_none_iff :
    Framed ⟨position, start, size, lookahead, none⟩ ↔
      Sound ⟨position, start, size, lookahead, none⟩ ∧
      0 ≤ position - start ∧ position - start ≤ size - 1 ∧
      (lookahead ≤ position - start ∨ start = Coordinate.least) ∧
      position - start ≤ size - 1 - lookahead ∧ Coordinate.least ≤ start := by
  constructor
  · rintro ⟨sound, start_le, position_le, before, after, first_le, _⟩
    exact ⟨sound, start_le, position_le, before, by simpa using after, first_le⟩
  · rintro ⟨sound, start_le, position_le, before, after, first_le⟩
    exact ⟨sound, start_le, position_le, before, .inl after, first_le, nofun⟩

/-- An axis is as sound with any other place of the window. -/
theorem Sound.withStart (sound : axis.Sound) (start : Int) : Sound { axis with start := start } :=
  ⟨sound.size_pos, sound.lookahead_nonneg, sound.lookahead_le, sound.first_le_position,
    sound.position_lt_bound⟩

/-- Wherever the window was, it frames Karel once it is placed anew. -/
theorem Sound.settle (sound : axis.Sound) : axis.settle.Framed := by
  obtain ⟨position, start, size, lookahead, bound⟩ := axis
  cases bound with
  | none =>
    simp only [Axis.settle, settled, framed_none_iff, sound_none_iff] at *
    split
    next near => omega
    next clear => split <;> omega
  | some bound =>
    simp only [Axis.settle, settled, framed_some_iff, sound_some_iff] at *
    split
    next near => omega
    next clear => split <;> omega

/-- A window that frames Karel is where it would be placed anew. -/
theorem Framed.settled_eq (framed : axis.Framed) : axis.settled = axis.start := by
  obtain ⟨position, start, size, lookahead, bound⟩ := axis
  cases bound with
  | none =>
    -- Karel can only be too near to a start that is the least coordinate, and the new one ends there.
    simp only [settled, framed_none_iff, sound_none_iff] at *
    split
    next near => omega
    next clear => split <;> omega
  | some bound =>
    -- A margin is only broken at a border in view, and the border moves the wish back to the start.
    simp only [settled, framed_some_iff, sound_some_iff] at *
    split
    next near => omega
    next clear => split <;> omega

theorem slidesForward_some_iff :
    slidesForward ⟨position, start, size, lookahead, some bound⟩ = true ↔
      start + size < bound ∧ size - lookahead - 1 ≤ position - start := by
  simp [slidesForward, isLastVisible]

theorem slidesForward_none_iff :
    slidesForward ⟨position, start, size, lookahead, none⟩ = true ↔
      size - lookahead - 1 ≤ position - start := by
  simp [slidesForward, isLastVisible]

theorem slidesBackward_some_iff :
    slidesBackward ⟨position, start, size, lookahead, some bound⟩ = true ↔
      0 < start ∧ position - start ≤ lookahead := by
  simp [slidesBackward, isFirstVisible]

theorem slidesBackward_none_iff :
    slidesBackward ⟨position, start, size, lookahead, none⟩ = true ↔
      position - start ≤ lookahead := by
  simp [slidesBackward, isFirstVisible]

/-- A step to the next coordinate keeps Karel framed: the window slides if Karel would enter the
margin, and at the border it need not. -/
theorem Framed.forward (framed : axis.Framed)
    (inside : ∀ bound ∈ axis.bound, axis.position + 1 < bound) : axis.forward.Framed := by
  obtain ⟨position, start, size, lookahead, bound⟩ := axis
  cases bound with
  | none =>
    simp only [Axis.forward, slidesForward_none_iff, framed_none_iff, sound_none_iff] at *
    split
    next slides => omega
    next stays => omega
  | some bound =>
    have before_border := inside bound rfl
    simp only [Axis.forward, slidesForward_some_iff, framed_some_iff, sound_some_iff] at *
    split
    -- The border is out of view, so Karel was not in the margin after it, only at its edge.
    next slides => omega
    next stays => omega

/-- A step to the coordinate before keeps Karel framed. -/
theorem Framed.backward (framed : axis.Framed) (inside : first axis.bound ≤ axis.position - 1) :
    axis.backward.Framed := by
  obtain ⟨position, start, size, lookahead, bound⟩ := axis
  cases bound with
  | none =>
    simp only [Axis.backward, first, slidesBackward_none_iff, framed_none_iff, sound_none_iff] at *
    split
    -- At the least coordinate the view stays and Karel comes nearer to its start.
    next slides => omega
    next stays => omega
  | some bound =>
    simp only [Axis.backward, first, slidesBackward_some_iff, framed_some_iff, sound_some_iff,
      Coordinate.least] at *
    split
    next slides => omega
    next stays => omega

end Axis

end Karel
