import Karel.Proofs.Session.Picture

/-!
# Places of a window and cells of the plane

A place counts from the top left cell of a window, and a cell counts from the origin of the plane.
`Window.Names` is how the two belong together, in whole numbers. Both ways of telling one by the
other are exact for the places of the window and one cell around it, which are the places `Near` it,
so each is the inverse of the other: an end of the plane lets both fail or none.
-/

namespace Karel

/-- The words are the whole numbers of a range. -/
theorem Coordinate.exists_toInt_eq_iff {value : Int} :
    (∃ word : Coordinate, word.toInt = value) ↔ least ≤ value ∧ value ≤ greatest := by
  constructor
  · rintro ⟨word, rfl⟩
    exact ⟨least_le word, le_greatest word⟩
  · rintro ⟨lower, upper⟩
    unfold least at lower
    unfold greatest at upper
    exact ⟨Int32.ofInt value, Int32.toInt_ofInt_of_le (by omega) (by omega)⟩

namespace Window

/-- A place of the window or one cell around it, in whole numbers. -/
structure Near (window : Window) (place : Point) : Prop where
  left : -1 ≤ place.x.toInt
  right : place.x.toInt ≤ window.width.toInt
  top : -1 ≤ place.y.toInt
  bottom : place.y.toInt ≤ window.height.toInt

/-- A place of the window names the cell of the plane that many columns and rows from the corner. -/
structure Names (window : Window) (place point : Point) : Prop where
  column : point.x.toInt = window.corner.x.toInt + place.x.toInt
  row : point.y.toInt = window.corner.y.toInt + place.y.toInt

/-- The columns and rows from the corner end on the plane. -/
structure OnPlane (window : Window) (place : Point) : Prop where
  left : Coordinate.least ≤ window.corner.x.toInt + place.x.toInt
  right : window.corner.x.toInt + place.x.toInt ≤ Coordinate.greatest
  top : Coordinate.least ≤ window.corner.y.toInt + place.y.toInt
  bottom : window.corner.y.toInt + place.y.toInt ≤ Coordinate.greatest

variable {window : Window} {place point : Point}

theorem isNear_iff : window.isNear place = true ↔ window.Near place := by
  have one : (-1 : Coordinate).toInt = -1 := rfl
  simp only [isNear, decide_eq_true_eq, Int32.le_iff_toInt_le, one]
  constructor
  · rintro ⟨left, right, top, bottom⟩
    exact ⟨left, right, top, bottom⟩
  · rintro ⟨left, right, top, bottom⟩
    exact ⟨left, right, top, bottom⟩

instance (window : Window) (place : Point) : Decidable (window.Near place) :=
  decidable_of_iff _ isNear_iff

theorem add?_eq_some_iff_names :
    window.corner.add? place = some point ↔ window.Names place point := by
  rw [Point.add?_eq_some_iff]
  exact ⟨fun sums => ⟨sums.1, sums.2⟩, fun names => ⟨names.column, names.row⟩⟩

theorem sub?_eq_some_iff_names :
    point.sub? window.corner = some place ↔ window.Names place point := by
  rw [Point.sub?_eq_some_iff]
  constructor
  · rintro ⟨columns, rows⟩
    exact ⟨by omega, by omega⟩
  · rintro ⟨columns, rows⟩
    exact ⟨by omega, by omega⟩

/-- A place names a cell exactly if it is on the plane. -/
theorem exists_names_iff : (∃ point, window.Names place point) ↔ window.OnPlane place := by
  constructor
  · rintro ⟨point, column, row⟩
    obtain ⟨left, right⟩ := Coordinate.exists_toInt_eq_iff.mp ⟨point.x, column⟩
    obtain ⟨top, bottom⟩ := Coordinate.exists_toInt_eq_iff.mp ⟨point.y, row⟩
    exact ⟨left, right, top, bottom⟩
  · rintro ⟨left, right, top, bottom⟩
    obtain ⟨x, column⟩ := Coordinate.exists_toInt_eq_iff.mpr ⟨left, right⟩
    obtain ⟨y, row⟩ := Coordinate.exists_toInt_eq_iff.mpr ⟨top, bottom⟩
    exact ⟨⟨x, y⟩, column, row⟩

/-- A cell is found exactly for the places near the window that name one. -/
theorem toAbsolute_eq_ok_iff :
    window.toAbsolute place = .ok point ↔ window.Near place ∧ window.Names place point := by
  rw [← isNear_iff, ← add?_eq_some_iff_names, toAbsolute]
  cases window.isNear place with
  | false => simp
  | true => cases window.corner.add? place <;> simp

/-- A place is found exactly for the cells that a place near the window names. -/
theorem toRelative_eq_ok_iff :
    window.toRelative point = .ok place ↔ window.Near place ∧ window.Names place point := by
  rw [← isNear_iff, ← sub?_eq_some_iff_names, toRelative]
  cases point.sub? window.corner with
  | none => simp
  | some found =>
    simp only [Option.some.injEq]
    constructor
    · intro told
      split at told
      next near =>
        cases told
        exact ⟨near, rfl⟩
      next => cases told
    · rintro ⟨near, rfl⟩
      rw [if_pos near]

/-- A place near the window shows the tile of the cell that it names. -/
theorem tileAt_of_names (near : window.Near place) (names : window.Names place point) :
    window.tileAt place = .ok (window.world.tile point) := by
  rw [tileAt, if_pos (isNear_iff.mpr near), add?_eq_some_iff_names.mpr names]

/-- Beyond the ends of the plane there is a wall. -/
theorem tileAt_of_not_onPlane (near : window.Near place) (beyond : ¬ window.OnPlane place) :
    window.tileAt place = .ok .wall := by
  rw [tileAt, if_pos (isNear_iff.mpr near)]
  cases found : window.corner.add? place with
  | none => rfl
  | some point => exact absurd (exists_names_iff.mp ⟨point, add?_eq_some_iff_names.mp found⟩) beyond

/-- Only a place that is not near the window shows no tile. -/
theorem tileAt_eq_error_iff {failure : OutOfView} :
    window.tileAt place = .error failure ↔
      ¬ window.Near place ∧ failure = window.outOfView place := by
  by_cases near : window.Near place
  · rw [tileAt, if_pos (isNear_iff.mpr near)]
    cases window.corner.add? place <;> simp [near]
  · rw [tileAt, if_neg (mt isNear_iff.mp near)]
    simp [near, eq_comm]

theorem Inside.near (inside : window.Inside place) : window.Near place := by
  obtain ⟨left, top, right, bottom⟩ := inside_iff.mp inside
  constructor <;> omega

/-- Karel's place names the cell on which Karel stands. -/
theorem Framed.names_robotPosition (framed : window.Framed) :
    window.Names window.robotPosition window.world.robot.position := by
  have columns : window.robotPosition.x.toInt = _ := toInt_relative framed.horizontal
  have rows : window.robotPosition.y.toInt = _ := toInt_relative framed.vertical
  constructor <;> omega

/-- Places and cells tell each other, as far as there are any. -/
structure Translates (window : Window) : Prop where
  /-- A cell is found for the places near the window that end on the plane. -/
  absolute_iff : ∀ place,
    (∃ point, window.toAbsolute place = .ok point) ↔ window.Near place ∧ window.OnPlane place
  /-- What is found one way leads back the other way. -/
  inverse : ∀ place point,
    window.toAbsolute place = .ok point ↔ window.toRelative point = .ok place
  /-- No tile is shown farther away than one cell. -/
  refused_iff : ∀ place, (∃ failure, window.tileAt place = .error failure) ↔ ¬ window.Near place
  tile : ∀ place point,
    window.toAbsolute place = .ok point → window.tileAt place = .ok (window.world.tile point)
  /-- A place near the window without a cell shows a wall. -/
  wall : ∀ place, window.Near place → (∀ point, window.toAbsolute place ≠ .ok point) →
    window.tileAt place = .ok .wall
  robot : window.toRelative window.world.robot.position = .ok window.robotPosition

/-- In every reachable window, the cell of a place and the place of a cell are inverse to each other,
the tiles shown are those of the cells, and Karel's cell has Karel's place. -/
theorem Reachable.translates (reachable : window.Reachable) : window.Translates where
  absolute_iff place := by
    rw [← exists_names_iff]
    simp only [toAbsolute_eq_ok_iff, exists_and_left]
  inverse place point := toAbsolute_eq_ok_iff.trans toRelative_eq_ok_iff.symm
  refused_iff place := by
    constructor
    · rintro ⟨failure, refused⟩
      exact (tileAt_eq_error_iff.mp refused).1
    · intro far
      exact ⟨_, tileAt_eq_error_iff.mpr ⟨far, rfl⟩⟩
  tile place point found := by
    obtain ⟨near, names⟩ := toAbsolute_eq_ok_iff.mp found
    exact tileAt_of_names near names
  wall place near missing := by
    refine tileAt_of_not_onPlane near fun onPlane => ?_
    obtain ⟨point, names⟩ := exists_names_iff.mpr onPlane
    exact missing point (toAbsolute_eq_ok_iff.mpr ⟨near, names⟩)
  robot := by
    have framed := reachable.framed
    exact toRelative_eq_ok_iff.mpr
      ⟨framed.inside_robotPosition.near, framed.names_robotPosition⟩

/-- A window at the end of the plane, where it shows places that have no cell. -/
def farWindow : Window :=
  onWorld ⟨⟨⟨2147483647, -2147483648⟩, .east, .unlimited⟩, .empty .unbounded⟩ ⟨3, 3, 1⟩

theorem reachable_farWindow : farWindow.Reachable :=
  .opened (World.place_eq_ok_iff.mpr ⟨by rw [Grid.get_empty]; decide, rfl⟩) ⟨3, 3, 1⟩

theorem translates_farWindow : farWindow.Reachable ∧ farWindow.Translates :=
  ⟨reachable_farWindow, reachable_farWindow.translates⟩

/-- The last column of the window lies beyond the plane. -/
example : farWindow.Near ⟨2, 0⟩ ∧
    farWindow.toAbsolute ⟨2, 0⟩ = .error (farWindow.outOfView ⟨2, 0⟩) ∧
    farWindow.tileAt ⟨2, 0⟩ = .ok .wall := ⟨by decide, rfl, rfl⟩

end Window

end Karel
