import Karel.Proofs.Session.Strokes
import Karel.Proofs.Window.Reachable

/-!
# What strokes leave on a screen

A picture is what a screen shows in each cell, and `Stroke.mark` is what a stroke does to it.
`Window.Depicts` says that a picture shows all that is in a window. A command only redraws some
places, and the others are as they were drawn before; `Window.depicts_redraw` says that this is
enough if the picture was out of date nowhere else.
-/

namespace Karel

open Console

/-- What a screen shows in each of its cells. -/
abbrev Console.Picture : Type := UInt16 → UInt16 → Option Glyph

namespace Console.Stroke

/-- What a stroke does to a picture. -/
def mark (picture : Picture) : Stroke → Picture
  | clear => fun _ _ => none
  | draw column row glyph => fun otherColumn otherRow =>
    if otherColumn = column ∧ otherRow = row then some glyph else picture otherColumn otherRow
  | message .. | present | alert => picture

/-- The cell that a stroke draws. -/
def cell? : Stroke → Option (UInt16 × UInt16)
  | draw column row _ => some (column, row)
  | clear | message .. | present | alert => none

end Console.Stroke

/-- The place of a window that is drawn in a cell of the screen. -/
def Point.ofCell (column row : UInt16) : Point := ⟨.ofNat column.toNat, .ofNat row.toNat⟩

namespace Coordinate

theorem toNat_toCell {coordinate : Coordinate} (nonneg : 0 ≤ coordinate.toInt)
    (small : coordinate.toInt ≤ 65535) : (coordinate.toCell.toNat : Int) = coordinate.toInt := by
  have natural := coordinate.toNat_toInt
  rw [toCell, UInt32.toNat_toUInt16, Int32.toNat_toUInt32_of_le (Int32.le_iff_toInt_le.mpr nonneg)]
  omega

theorem toInt_ofNat_cell (cell : UInt16) : (Int32.ofNat cell.toNat).toInt = cell.toNat := by
  have bound := cell.toNat_lt
  rw [Int32.toInt_ofNat_of_lt (by omega)]

end Coordinate

namespace Window

open Coordinate

variable {window : Window} {place : Point} {column row : UInt16} {picture : Picture}

/-- Whether a place counted from the top left cell of a window is in the window. -/
def Inside (window : Window) (place : Point) : Prop :=
  0 ≤ place.x ∧ 0 ≤ place.y ∧ place.x < window.width ∧ place.y < window.height

instance (window : Window) (place : Point) : Decidable (window.Inside place) :=
  inferInstanceAs (Decidable (_ ∧ _ ∧ _ ∧ _))

/-- Whether a window is drawn in a cell of the screen. -/
def Covers (window : Window) (column row : UInt16) : Prop :=
  (column.toNat : Int) < window.width.toInt ∧ (row.toNat : Int) < window.height.toInt

/-- Every place of the window has a cell of its own on a screen, and so have the lines below. -/
structure Addressable (window : Window) : Prop where
  width_le : window.width.toInt ≤ 65535
  height_le : window.height.toInt ≤ 65533

theorem inside_iff : window.Inside place ↔
    0 ≤ place.x.toInt ∧ 0 ≤ place.y.toInt ∧ place.x.toInt < window.width.toInt ∧
      place.y.toInt < window.height.toInt := by
  simp [Inside, Int32.le_iff_toInt_le, Int32.lt_iff_toInt_lt]

theorem inside_ofCell_iff : window.Inside (.ofCell column row) ↔ window.Covers column row := by
  rw [inside_iff, Point.ofCell, toInt_ofNat_cell, toInt_ofNat_cell, Covers]
  omega

/-- A place of the window is drawn in one cell. -/
theorem Inside.ofCell_eq_iff (inside : window.Inside place) (addressable : window.Addressable) :
    Point.ofCell column row = place ↔ column = place.x.toCell ∧ row = place.y.toCell := by
  obtain ⟨width_le, height_le⟩ := addressable
  obtain ⟨x, y⟩ := place
  obtain ⟨left, top, right, bottom⟩ : 0 ≤ x.toInt ∧ 0 ≤ y.toInt ∧ x.toInt < window.width.toInt ∧
    y.toInt < window.height.toInt := inside_iff.mp inside
  have columns : (x.toCell.toNat : Int) = x.toInt := toNat_toCell left (by omega)
  have rows : (y.toCell.toNat : Int) = y.toInt := toNat_toCell top (by omega)
  simp only [Point.ofCell, Point.mk.injEq, ← Int32.toInt_inj, toInt_ofNat_cell, ← UInt16.toNat_inj]
  omega

/-- The tile at a place of the window. Off the plane there is a wall. -/
def tileIn (window : Window) (place : Point) : Tile :=
  match window.corner.add? place with
  | some point => window.world.tile point
  | none => .wall

theorem Inside.tileAt_eq (inside : window.Inside place) :
    window.tileAt place = .ok (window.tileIn place) := by
  obtain ⟨left, top, right, bottom⟩ := inside_iff.mp inside
  have least : (-1 : Coordinate).toInt = -1 := rfl
  have near : window.isNear place = true := by
    simp only [isNear, decide_eq_true_eq, Int32.le_iff_toInt_le, least]
    omega
  unfold tileAt tileIn
  rw [if_pos near]
  cases window.corner.add? place <;> rfl

/-- The picture shows all that is in the window: Karel where it stands, and everywhere else the tile
of the world. -/
structure Depicts (window : Window) (picture : Picture) : Prop where
  karel : ∃ column row, window.Covers column row ∧ .ofCell column row = window.robotPosition ∧
    picture column row = some (.robot window.world.robot.facing window.world.beeperIsPresent)
  tiles : ∀ column row, window.Covers column row → .ofCell column row ≠ window.robotPosition →
    ∃ tile, window.tileAt (.ofCell column row) = .ok tile ∧ picture column row = some (.tile tile)

/-- The picture shows the tiles of the window, except at places that are stale. -/
def ShowsTiles (window : Window) (picture : Picture) (stale : Point → Prop) : Prop :=
  ∀ column row, window.Covers column row → ¬ stale (.ofCell column row) →
    picture column row = some (.tile (window.tileIn (.ofCell column row)))

theorem Depicts.showsTiles (depicts : window.Depicts picture) :
    window.ShowsTiles picture (· = window.robotPosition) := by
  intro column row covered other
  obtain ⟨tile, found, shown⟩ := depicts.tiles column row covered other
  rw [(inside_ofCell_iff.mpr covered).tileAt_eq] at found
  cases found
  exact shown

/-- Karel is seen in the window. -/
theorem Framed.inside_robotPosition (framed : window.Framed) :
    window.Inside window.robotPosition := by
  have left : 0 ≤ window.world.robot.position.x.toInt - window.corner.x.toInt :=
    framed.horizontal.start_le_position
  have right : window.world.robot.position.x.toInt - window.corner.x.toInt ≤
    window.width.toInt - 1 := framed.horizontal.position_le_end
  have top : 0 ≤ window.world.robot.position.y.toInt - window.corner.y.toInt :=
    framed.vertical.start_le_position
  have bottom : window.world.robot.position.y.toInt - window.corner.y.toInt ≤
    window.height.toInt - 1 := framed.vertical.position_le_end
  have columns : window.robotPosition.x.toInt = _ := toInt_relative framed.horizontal
  have rows : window.robotPosition.y.toInt = _ := toInt_relative framed.vertical
  rw [inside_iff]
  omega

theorem cellStrokes_of_inside (inside : window.Inside place) :
    Session.cellStrokes window place =
      [.draw place.x.toCell place.y.toCell (.tile (window.tileIn place))] := by
  refine (if_pos inside).trans ?_
  rw [inside.tileAt_eq]

theorem cellStrokes_of_not_inside (outside : ¬ window.Inside place) :
    Session.cellStrokes window place = [] :=
  if_neg outside

theorem mem_places (inside : window.Inside place) : place ∈ Session.places window := by
  obtain ⟨left, top, right, bottom⟩ := inside_iff.mp inside
  have zero : (0 : Coordinate).toInt = 0 := rfl
  have columns : (window.width - 1).toInt = window.width.toInt - 1 :=
    toInt_size_sub_one (by omega)
  have rows : (window.height - 1).toInt = window.height.toInt - 1 :=
    toInt_size_sub_one (by omega)
  rw [Session.places, List.mem_flatMap]
  refine ⟨place.y, mem_range_iff.mpr (by omega), List.mem_map.mpr ⟨place.x, ?_, rfl⟩⟩
  exact mem_range_iff.mpr (by omega)

section Strokes

variable (addressable : window.Addressable)
include addressable

/-- Drawing a place changes the picture in the cell of the place. -/
theorem Inside.mark_draw (inside : window.Inside place) (glyph : Glyph) :
    (Stroke.draw place.x.toCell place.y.toCell glyph).mark picture column row =
      if .ofCell column row = place then some glyph else picture column row := by
  simp only [Stroke.mark, inside.ofCell_eq_iff addressable]

theorem Inside.covers_toCell (inside : window.Inside place) :
    window.Covers place.x.toCell place.y.toCell := by
  have cell := (inside.ofCell_eq_iff addressable).mpr ⟨rfl, rfl⟩
  rwa [← inside_ofCell_iff, cell]

/-- Drawing tiles makes the picture right where they are, and changes it nowhere else. -/
theorem foldl_mark_cells (cells : List Point) (picture : Picture) :
    (cells.flatMap (Session.cellStrokes window)).foldl Stroke.mark picture column row =
      if window.Inside (.ofCell column row) ∧ .ofCell column row ∈ cells then
        some (.tile (window.tileIn (.ofCell column row)))
      else picture column row := by
  induction cells generalizing picture with
  | nil => simp
  | cons place rest inductionHypothesis =>
      rw [List.flatMap_cons, List.foldl_append, inductionHypothesis]
      by_cases inside : window.Inside place
      · rw [cellStrokes_of_inside inside, List.foldl_cons, List.foldl_nil,
          inside.mark_draw addressable]
        by_cases own : Point.ofCell column row = place
        · simp [own, inside]
        · simp [own]
      · rw [cellStrokes_of_not_inside inside, List.foldl_nil]
        by_cases own : Point.ofCell column row = place
        · simp [own, inside]
        · simp [own]

variable (framed : window.Framed)
include framed

/-- When Karel is drawn last, the picture is complete. -/
theorem depicts_mark_robot (shown : window.ShowsTiles picture (· = window.robotPosition)) :
    window.Depicts ((Session.robotStroke window).mark picture) := by
  have inside := framed.inside_robotPosition
  have drawn : ∀ column row, (Session.robotStroke window).mark picture column row =
      if Point.ofCell column row = window.robotPosition then
        some (.robot window.world.robot.facing window.world.beeperIsPresent)
      else picture column row :=
    fun _ _ => inside.mark_draw addressable _
  have cell := (inside.ofCell_eq_iff addressable).mpr ⟨rfl, rfl⟩
  refine ⟨⟨_, _, inside.covers_toCell addressable, cell, ?_⟩, ?_⟩
  · rw [drawn, if_pos cell]
  · intro column row covered other
    refine ⟨_, (inside_ofCell_iff.mpr covered).tileAt_eq, ?_⟩
    rw [drawn, if_neg other]
    exact shown column row covered other

/-- Places that are stale can be drawn before Karel is. -/
theorem depicts_mark_cells (cells : List Point)
    (shown : window.ShowsTiles picture fun place => place = window.robotPosition ∨ place ∈ cells) :
    window.Depicts ((cells.flatMap (Session.cellStrokes window) ++
      [Session.robotStroke window]).foldl Stroke.mark picture) := by
  rw [List.foldl_append]
  refine depicts_mark_robot addressable framed fun column row covered other => ?_
  rw [foldl_mark_cells addressable]
  have inside := inside_ofCell_iff.mpr covered
  by_cases drawn : Point.ofCell column row ∈ cells
  · rw [if_pos ⟨inside, drawn⟩]
  · rw [if_neg fun both => drawn both.2]
    exact shown column row covered (not_or.mpr ⟨other, drawn⟩)

/-- What a redraw presumes: outside the places that it draws, the picture is up to date. -/
def UpTo (window : Window) (picture : Picture) : Session.Redraw → Prop
  | .nothing => window.Depicts picture
  | .robot => window.ShowsTiles picture (· = window.robotPosition)
  | .moved => window.scrolled = false → window.ShowsTiles picture fun place =>
      place = window.robotPosition ∨
        place = window.robotPosition - window.world.robot.facing.step
  | .everything => True

/-- A redraw completes the picture. -/
theorem depicts_redraw {changes : Session.Redraw} (upTo : window.UpTo picture changes) :
    window.Depicts ((Session.redrawStrokes window changes).foldl Stroke.mark picture) := by
  have everything : window.Depicts ((Session.allStrokes window).foldl Stroke.mark picture) := by
    refine depicts_mark_cells addressable framed _ fun column row covered other => ?_
    exact absurd (mem_places (inside_ofCell_iff.mpr covered)) (not_or.mp other).2
  cases changes with
  | nothing => exact upTo
  | robot => exact depicts_mark_robot addressable framed upTo
  | moved =>
      unfold Session.redrawStrokes
      cases scrolled : window.scrolled with
      | true => exact everything
      | false =>
          have stale : window.ShowsTiles picture fun place => place = window.robotPosition ∨
              place ∈ [window.robotPosition - window.world.robot.facing.step] := by
            simpa only [List.mem_singleton] using upTo scrolled
          have single := depicts_mark_cells addressable framed _ stale
          rwa [List.flatMap_cons, List.flatMap_nil, List.append_nil] at single
  | everything => exact everything

/-- Karel and the tiles are drawn inside the window. -/
theorem covers_of_mem_cells (cells : List Point) {stroke : Stroke}
    (member : stroke ∈ cells.flatMap (Session.cellStrokes window) ++ [Session.robotStroke window])
    (drawn : stroke.cell? = some (column, row)) : window.Covers column row := by
  rcases List.mem_append.mp member with tile | robot
  · obtain ⟨place, _, tile⟩ := List.mem_flatMap.mp tile
    by_cases inside : window.Inside place
    · rw [cellStrokes_of_inside inside, List.mem_singleton] at tile
      rw [tile] at drawn
      cases drawn
      exact inside.covers_toCell addressable
    · rw [cellStrokes_of_not_inside inside] at tile
      cases tile
  · rw [List.mem_singleton.mp robot] at drawn
    cases drawn
    exact framed.inside_robotPosition.covers_toCell addressable

/-- A redraw draws nothing outside the window. -/
theorem covers_of_mem_redraw {changes : Session.Redraw} {stroke : Stroke}
    (member : stroke ∈ Session.redrawStrokes window changes)
    (drawn : stroke.cell? = some (column, row)) : window.Covers column row := by
  cases changes with
  | nothing => exact absurd member List.not_mem_nil
  | robot => exact covers_of_mem_cells addressable framed [] member drawn
  | moved =>
      simp only [Session.redrawStrokes] at member
      split at member
      next => exact covers_of_mem_cells addressable framed _ member drawn
      next =>
        refine covers_of_mem_cells addressable framed
          [window.robotPosition - window.world.robot.facing.step] ?_ drawn
        rwa [List.flatMap_cons, List.flatMap_nil, List.append_nil]
  | everything => exact covers_of_mem_cells addressable framed _ member drawn

end Strokes

end Window

end Karel
