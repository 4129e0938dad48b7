import Karel.Act
import Karel.Direction
import Karel.Tile

/-!
# Screens

What a session needs of a screen: a grid of character cells with lines for messages, and keys. Rows
and columns are counted from zero at the top left. `Screen` is the interface; every operation may
fail, and may change the screen even then.
-/

namespace Karel.Console

/-- What is drawn in one cell. -/
inductive Glyph
  | tile (content : Tile)
  | robot (facing : Direction) (onBeeper : Bool)
deriving DecidableEq

/-- The character of a glyph. -/
def Glyph.character : Glyph → Char
  | tile content => content.glyph
  | robot facing _ => facing.glyph

/-- How a message is meant. -/
inductive MessageStyle
  | status
  | error
  | complete
deriving DecidableEq

/-- A key press. -/
inductive Key
  | up
  | down
  | left
  | right
  | character (character : Char)
  /-- Not a key of the keyboard: the screen has changed its size. -/
  | resize
  | help
deriving DecidableEq

/-- The number of columns and rows of a screen. -/
structure ScreenSize where
  columns : UInt16
  rows : UInt16
deriving DecidableEq

/-- Why a screen can not be used. -/
inductive DisplayFault
  /-- The first size is smaller than the second, which is needed. -/
  | tooSmall (size needed : ScreenSize)
  /-- The device fails for a reason of its own. -/
  | device (reason : String)
deriving DecidableEq

/-- The wording of a fault. -/
def DisplayFault.message : DisplayFault → String
  | tooSmall size needed =>
    s!"screen too small ({size.columns.toNat}, {size.rows.toNat})" ++
      s!" for a view of ({needed.columns.toNat}, {needed.rows.toNat})"
  | device reason => s!"terminal failure: {reason}"

/-- A device that shows cells and messages and reads keys. -/
class Screen (σ : Type) where
  /-- The size the screen has now. -/
  size : Act σ DisplayFault ScreenSize
  /-- Empties all cells and lines. -/
  clear : Act σ DisplayFault Unit
  /-- Draws one cell, at a column and a row. -/
  draw : UInt16 → UInt16 → Glyph → Act σ DisplayFault Unit
  /-- Replaces the text of a row. -/
  message : UInt16 → String → MessageStyle → Act σ DisplayFault Unit
  /-- Shows all that was drawn. -/
  present : Act σ DisplayFault Unit
  /-- Waits for a key. With a number of nanoseconds it waits no longer than that. There may be no
  key in the end. -/
  nextKey : Option Nat → Act σ DisplayFault (Option Key)
  /-- Draws attention to an error. A screen need not be able to. -/
  alert : Act σ DisplayFault Unit := pure ()

end Karel.Console
