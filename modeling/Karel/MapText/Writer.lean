import Karel.MapText.Style
import Karel.World

/-!
# Writing maps

A table is cut down to the smallest rectangle that holds Karel and every tile, so its positions are
relative to that rectangle. A picture always shows the whole world, and can not be written if
something in the world has no place in it.
-/

namespace Karel.MapText

/-- What a picture can not show. -/
inductive PictureLimit
  | countedBag
  | tileUnderRobot (tile : Tile)
  | largePile (count : BeeperCount) (point : Point)
deriving DecidableEq

/-- The wording of what a picture can not show. -/
def PictureLimit.message : PictureLimit → String
  | countedBag => "simple maps give Karel unlimited beepers"
  | tileUnderRobot tile => s!"{tile.name} under Karel"
  | largePile count point => s!"{count.toNat} beepers at {point.text}"

/-- Why a world can not be written. -/
inductive WriteFault
  | unbounded
  | notInPicture (limit : PictureLimit)
deriving DecidableEq

/-- The wording of a fault. -/
def WriteFault.message : WriteFault → String
  | unbounded => "can not save an unbounded map"
  | notInPicture limit => s!"map can not be written in simple form: {limit.message}"

/-- The written form of a bag in a header. -/
def bagField : Bag → String
  | .unlimited => "N"
  | .counted count => toString count.toNat

/-- The header line of a table. -/
def header (robot : Robot) : String :=
  s!"KAREL {robot.position.x.toInt} {robot.position.y.toInt} " ++
    s!"{robot.facing.glyph} {bagField robot.bag}"

/-- Writes a world with borders as a table. -/
def writeTable (world : World) : Except WriteFault String :=
  match world.grid.bounds.size? with
  | none => .error .unbounded
  | some _ =>
    let extent := world.grid.extent world.robot.position
    let row (y : Coordinate) : String :=
      " ".intercalate
        ((Coordinate.range extent.least.x extent.greatest.x).map fun x => (world.tile ⟨x, y⟩).token)
    let rows := (Coordinate.range extent.least.y extent.greatest.y).map row
    let robot := { world.robot with position := world.robot.position - extent.least }
    .ok (String.join ((header robot :: rows).map (· ++ "\n")))

/-- What a picture can not show of one stored tile. -/
def pictureLimit? (world : World) (point : Point) (tile : Tile) : Option PictureLimit :=
  if point = world.robot.position then some (.tileUnderRobot tile)
  else if tile.count > 9 then some (.largePile tile.count point)
  else none

/-- The character of a cell in a picture. -/
def pictureGlyph (world : World) (point : Point) : Char :=
  if point = world.robot.position then world.robot.facing.glyph else (world.tile point).glyph

/-- Writes a world with borders as a picture. Of what can not be shown, the bag is reported first,
and then the first cell in reading order. -/
def writePicture (world : World) : Except WriteFault String :=
  match world.grid.bounds.size? with
  | none => .error .unbounded
  | some (width, height) =>
    if world.robot.bag ≠ .unlimited then
      .error (.notInPicture .countedBag)
    else
      match world.grid.toList.findSome? fun (point, tile) => pictureLimit? world point tile with
      | some limit => .error (.notInPicture limit)
      | none =>
        let row (y : Coordinate) : String :=
          String.ofList ((Coordinate.range 0 (width - 1)).map fun x => pictureGlyph world ⟨x, y⟩)
        .ok (String.join ((Coordinate.range 0 (height - 1)).map fun y => row y ++ "\n"))

end Karel.MapText
