import Karel.Proofs.Session.Canvas
import Karel.Proofs.Session.Quiet

/-!
# Sheets

A sheet is a screen in memory. It shows in each of its cells what was drawn there last, and has a
list of keys to give. One of its cells may be broken: it can not be drawn, and the sheet keeps that
this was tried. A sheet is a canvas, and a whole one without a `q` among its keys is quiet.
-/

namespace Karel.Console

/-- A screen in memory, with the keys to come. -/
structure Sheet where
  size : ScreenSize
  cells : Picture
  keys : List Key
  /-- The cell that can not be drawn. -/
  broken : Option (UInt16 × UInt16)
  /-- The cell that was to be drawn and could not. -/
  refused : Option (UInt16 × UInt16)

namespace Sheet

/-- The empty sheet of a size, with the keys to come and perhaps a broken cell. -/
def blank (size : ScreenSize) (keys : List Key) (broken : Option (UInt16 × UInt16)) : Sheet :=
  ⟨size, fun _ _ => none, keys, broken, none⟩

/-- Makes a stroke that does not touch a broken cell. -/
def mark (sheet : Sheet) (stroke : Stroke) : Sheet :=
  { sheet with cells := stroke.mark sheet.cells }

/-- Draws a cell, unless it is broken. -/
def draw (column row : UInt16) (glyph : Glyph) : Act Sheet DisplayFault Unit :=
  .ofFunction fun sheet =>
    if sheet.broken = some (column, row) then
      (.error (.device "broken cell"), { sheet with refused := some (column, row) })
    else
      (.ok (), sheet.mark (.draw column row glyph))

instance : Screen Sheet where
  size := .ask Sheet.size
  clear := .update fun sheet => sheet.mark .clear
  draw := draw
  message _ _ _ := pure ()
  present := pure ()
  nextKey _ := .ofFunction fun sheet =>
    (.ok sheet.keys.head?, { sheet with keys := sheet.keys.tail })

/-- A sheet shows what was drawn last in each cell, and refuses no cell but a broken one. -/
def canvas : Canvas Sheet where
  picture := cells
  refused := refused
  size _ := ⟨rfl, rfl⟩
  nextKey _ _ := ⟨rfl, rfl⟩
  stroke stroke sheet := by
    cases stroke with
    | clear => exact ⟨rfl, rfl⟩
    | draw column row glyph =>
        change (draw column row glyph).Ensures sheet _ _
        unfold Act.Ensures
        rw [draw, Act.apply_ofFunction]
        by_cases broken : sheet.broken = some (column, row)
        · rw [if_pos broken]
          exact ⟨_, rfl, rfl⟩
        · rw [if_neg broken]
          exact ⟨rfl, rfl⟩
    | message row text style => exact ⟨rfl, rfl⟩
    | present => exact ⟨rfl, rfl⟩
    | alert => exact ⟨rfl, rfl⟩

/-- A sheet without a broken cell is quiet if no key to come quits. -/
theorem quiet : Quiet fun sheet : Sheet => .character 'q' ∉ sheet.keys ∧ sheet.broken = none where
  size _ calm := calm
  stroke stroke sheet calm := by
    cases stroke with
    | draw column row glyph =>
        change (draw column row glyph).Ensures sheet _ _
        unfold Act.Ensures
        rw [draw, Act.apply_ofFunction, if_neg (by rw [calm.2]; exact nofun)]
        exact calm
    | clear | message _ _ _ | present | alert => exact calm
  nextKey limit sheet calm := by
    obtain ⟨size, cells, keys, broken, refused⟩ := sheet
    cases keys with
    | nil => exact ⟨nofun, calm⟩
    | cons key rest =>
        have others := not_or.mp (List.mem_cons.not.mp calm.1)
        exact ⟨fun pressed => others.1 (Option.some.inj pressed).symm, others.2, calm.2⟩

end Sheet

end Karel.Console
