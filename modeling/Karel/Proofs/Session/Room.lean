import Karel.Proofs.Session.Picture

/-!
# Room for a window

Below a window there are two lines, so a screen has room for a window if it has its columns, and its
rows and two more. `Window.Fits` says this in whole numbers. A session compares sizes in the words
that count the cells of a screen, where a long side of a window loses its high bits: `Window.Exceeds`
is this comparison, and it is the one of whole numbers for a window that has a cell for each of its
places. When a window is fitted to a screen, its sides are cut first and nothing is lost.
-/

namespace Karel

open Console

/-- What is left of a coordinate in the words of a screen. -/
theorem Coordinate.toNat_toCell_eq (coordinate : Coordinate) :
    (coordinate.toCell.toNat : Int) = coordinate.toInt % 65536 := by
  have whole : coordinate.toInt = (coordinate.toUInt32.toNat : Int).bmod 4294967296 :=
    BitVec.toInt_eq_toNat_bmod _
  have bound := coordinate.toUInt32.toNat_lt
  rw [Coordinate.toCell, UInt32.toNat_toUInt16, whole, Int.bmod_def]
  omega

/-- A screen on which no window has room. -/
def Console.ScreenSize.HasNoRoom (size : ScreenSize) : Prop := size.columns < 1 ∨ size.rows < 3

namespace Window

variable {window : Window} {size : ScreenSize}

/-- The window and the two lines below it have room on a screen. -/
structure Fits (window : Window) (size : ScreenSize) : Prop where
  width_le : window.width.toInt ≤ size.columns.toNat
  height_le : window.height.toInt + 2 ≤ size.rows.toNat

theorem fits_iff : window.Fits size ↔ window.width.toInt ≤ size.columns.toNat ∧
    window.height.toInt + 2 ≤ size.rows.toNat :=
  ⟨fun fits => ⟨fits.width_le, fits.height_le⟩, fun sides => ⟨sides.1, sides.2⟩⟩

instance (window : Window) (size : ScreenSize) : Decidable (window.Fits size) :=
  decidable_of_iff _ fits_iff.symm

theorem Fits.addressable (fits : window.Fits size) : window.Addressable := by
  obtain ⟨width_le, height_le⟩ := fits
  have columns := size.columns.toNat_lt
  have rows := size.rows.toNat_lt
  constructor <;> omega

/-- Whether a screen is too small for what is left, in the words of a screen, of the size of the
window with its two lines. -/
def Exceeds (window : Window) (size : ScreenSize) : Prop :=
  size.columns.toNat < window.width.toInt % 65536 ∨
    size.rows.toNat < (window.height.toInt + 2) % 65536

instance (window : Window) (size : ScreenSize) : Decidable (window.Exceeds size) :=
  inferInstanceAs (Decidable (_ ∨ _))

/-- Nothing is lost of the size of a window that has a cell for each of its places. -/
theorem Framed.exceeds_iff (framed : window.Framed) (addressable : window.Addressable) :
    window.Exceeds size ↔ ¬ window.Fits size := by
  obtain ⟨width_le, height_le⟩ := addressable
  have width_pos : 1 ≤ window.width.toInt := framed.horizontal.size_pos
  have height_pos : 1 ≤ window.height.toInt := framed.vertical.size_pos
  rw [fits_iff, Exceeds]
  omega

/-- Karel stands inside the borders. -/
theorem Framed.contains_position (framed : window.Framed) :
    window.world.grid.bounds.contains window.world.robot.position = true := by
  obtain ⟨horizontal, vertical⟩ := framed
  rw [Bounds.contains, Bool.and_eq_true]
  exact ⟨axisContains_iff.mpr ⟨horizontal.first_le_position, horizontal.position_lt_bound⟩,
    axisContains_iff.mpr ⟨vertical.first_le_position, vertical.position_lt_bound⟩⟩

/-- A window fits no screen without room for one. -/
theorem Framed.not_fits_of_hasNoRoom (framed : window.Framed) (noRoom : size.HasNoRoom) :
    ¬ window.Fits size := by
  have width_pos : 1 ≤ window.width.toInt := framed.horizontal.size_pos
  have height_pos : 1 ≤ window.height.toInt := framed.vertical.size_pos
  have one : (1 : UInt16).toNat = 1 := rfl
  have three : (3 : UInt16).toNat = 3 := rfl
  simp only [ScreenSize.HasNoRoom, UInt16.lt_iff_toNat_lt, one, three] at noRoom
  rw [fits_iff]
  omega

end Window

namespace Session

variable {σ : Type}

/-- A session asks for the size that is left in the words of a screen. -/
theorem toNat_neededSize (session : Session σ) :
    (session.neededSize.columns.toNat : Int) = session.window.width.toInt % 65536 ∧
      (session.neededSize.rows.toNat : Int) = (session.window.height.toInt + 2) % 65536 := by
  have width := session.window.width.toNat_toCell_eq
  have height := session.window.height.toNat_toCell_eq
  have two : (2 : UInt16).toNat = 2 := rfl
  simp only [neededSize, UInt16.toNat_add, two]
  omega

theorem exceeds_iff_lt_neededSize (session : Session σ) (size : ScreenSize) :
    session.window.Exceeds size ↔
      size.columns < session.neededSize.columns ∨ size.rows < session.neededSize.rows := by
  obtain ⟨columns, rows⟩ := session.toNat_neededSize
  rw [Window.Exceeds, UInt16.lt_iff_toNat_lt, UInt16.lt_iff_toNat_lt]
  omega

/-! ## Fitting a window to a screen -/

/-- The rows of a screen above the two lines. -/
theorem toInt_rows_sub_two (rows : UInt16) :
    (Int32.ofNat rows.toNat - 2).toInt = rows.toNat - 2 := by
  have small := rows.toNat_lt
  have two : (2 : Coordinate).toInt = 2 := rfl
  have exact := Coordinate.toInt_sub_of_bounds (.ofNat rows.toNat) 2
  simp only [Coordinate.toInt_ofNat_cell, two, Coordinate.least, Coordinate.greatest] at exact
  omega

theorem toInt_cutTo_le (length : Coordinate) (bound : Option Coordinate) :
    (cutTo length bound).toInt ≤ length.toInt := by
  cases bound with
  | none => exact Int.le_refl _
  | some size =>
      rw [cutTo, Coordinate.toInt_min]
      exact Int.min_le_left _ _

/-- An axis on which there is a cell leaves a length to be too small by itself. -/
theorem cutTo_lt_one {length cell : Coordinate} {size : Option Coordinate}
    (inside : Bounds.axisContains size cell = true) :
    cutTo length size < 1 ↔ length.toInt < 1 := by
  have zero : (0 : Coordinate).toInt = 0 := rfl
  have one : (1 : Coordinate).toInt = 1 := rfl
  cases size with
  | none => exact Int32.lt_iff_toInt_lt
  | some size =>
      simp only [Bounds.axisContains, Bool.and_eq_true, decide_eq_true_eq,
        Int32.lt_iff_toInt_lt, Int32.le_iff_toInt_le] at inside
      simp only [cutTo, Int32.lt_iff_toInt_lt, Coordinate.toInt_min]
      omega

/-- A screen has room for a window if it has a column, and a row besides the two for the lines. -/
theorem hasNoRoom_iff (size : ScreenSize) {bounds : Bounds} {cell : Point}
    (inside : bounds.contains cell = true) :
    (cutTo (.ofNat size.columns.toNat) bounds.width < 1 ∨
      cutTo (.ofNat size.rows.toNat - 2) bounds.height < 1) ↔
      (size.columns < 1 ∨ size.rows < 3) := by
  rw [Bounds.contains, Bool.and_eq_true] at inside
  rw [cutTo_lt_one inside.1, cutTo_lt_one inside.2, Coordinate.toInt_ofNat_cell,
    toInt_rows_sub_two, UInt16.lt_iff_toNat_lt, UInt16.lt_iff_toNat_lt]
  have one : (1 : UInt16).toNat = 1 := rfl
  have three : (3 : UInt16).toNat = 3 := rfl
  omega

/-- A window that is cut to the size of a screen fits it, if anything is left of the window. -/
theorem fits_resize (window : Window) (size : ScreenSize) (bounds : Bounds)
    (wide : ¬ cutTo (.ofNat size.columns.toNat) bounds.width < 1)
    (high : ¬ cutTo (.ofNat size.rows.toNat - 2) bounds.height < 1) :
    (window.resize (cutTo (.ofNat size.columns.toNat) bounds.width)
      (cutTo (.ofNat size.rows.toNat - 2) bounds.height)).Fits size := by
  have one : (1 : Coordinate).toInt = 1 := rfl
  have columns_le := toInt_cutTo_le (.ofNat size.columns.toNat) bounds.width
  have rows_le := toInt_cutTo_le (.ofNat size.rows.toNat - 2) bounds.height
  rw [Int32.lt_iff_toInt_lt, one, Int.not_lt] at wide high
  rw [Coordinate.toInt_ofNat_cell] at columns_le
  rw [toInt_rows_sub_two] at rows_le
  constructor
  · change (max _ (1 : Coordinate)).toInt ≤ _
    rw [Coordinate.toInt_max, one]
    omega
  · change (max _ (1 : Coordinate)).toInt + 2 ≤ _
    rw [Coordinate.toInt_max, one]
    omega

end Session

end Karel
