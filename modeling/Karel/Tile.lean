import Karel.Beepers

/-!
# Tiles

What one cell of the plane holds. Walls and treasures stand in Karel's way; a pile of beepers and
the empty cell do not. A tile is written in three ways: as one character of a picture (`glyph`), as
a word of a table (`token`), and by its name in messages (`name`).
-/

namespace Karel

/-- The content of one cell. -/
inductive Tile
  | empty
  | wall
  | beepers (pile : Pile)
  | treasure
deriving DecidableEq

namespace Tile

/-- The cell with so many beepers on it. -/
def ofCount (count : BeeperCount) : Tile :=
  match Pile.ofCount? count with
  | some pile => beepers pile
  | none => empty

/-- Whether Karel can not pass. -/
def isBlocking : Tile → Bool
  | wall | treasure => true
  | empty | beepers _ => false

/-- Whether there are beepers to pick. -/
def hasBeepers : Tile → Bool
  | beepers _ => true
  | empty | wall | treasure => false

/-- The number of beepers on the cell. -/
def count : Tile → BeeperCount
  | beepers pile => pile.count
  | empty | wall | treasure => 0

/-- The cell after one beeper was put on it; Karel stands there, so nothing is in the way. -/
def withBeeper : Tile → Tile
  | beepers pile => beepers pile.grow
  | empty | wall | treasure => beepers .single

/-- The character that shows the tile: a digit for up to nine beepers and a plus sign for more. -/
def glyph : Tile → Char
  | empty => '.'
  | wall => '#'
  | treasure => '$'
  | beepers pile => if pile.count < 10 then Nat.digitChar pile.count.toNat else '+'

/-- The word that stands for the tile; it gives the number of beepers in full. -/
def token : Tile → String
  | beepers pile => toString pile.count.toNat
  | tile => String.singleton tile.glyph

/-- The name of the tile in messages. -/
def name : Tile → String
  | empty => "Empty"
  | wall => "Wall"
  | treasure => "Treasure"
  | beepers pile => s!"Beeper({pile.count.toNat})"

end Tile

end Karel
