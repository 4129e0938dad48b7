import Karel.Robot
import Karel.Session.Settings

/-!
# Options

What can be asked for on the command line. Every option may be left out; the methods say what then
holds and how options combine.
-/

namespace Karel.CommandLine

/-- The options of one call. -/
structure Options where
  /-- The size of the world, without end where there is none. With a map they replace its size. -/
  columns : Option Coordinate := none
  rows : Option Coordinate := none
  /-- Whether the map goes on beyond its rectangle. Without a map these mean nothing. -/
  endlessColumns : Bool := false
  endlessRows : Bool := false
  direction : Option Direction := none
  /-- The numbers given for Karel's position. -/
  position : Option (List Coordinate) := none
  beepers : Option BeeperCount := none
  speed : Float := 3
  quiet : Bool := false
  verbose : Bool := false
  logFile : Option String := none
  lookahead : Coordinate := 1
  output : Option String := none
  /-- Whether the map is a table whatever its file is called. -/
  tableMap : Bool := false
  map : Option String := none
  program : Option String := none
  /-- How often steps were asked for. -/
  stepLevel : UInt8 := 0

namespace Options

/-- The settings of the session. -/
def settings (options : Options) : SessionSettings where
  speed := SessionSettings.effectiveSpeed (some options.speed)
  verbosity :=
    if options.quiet then .quiet else if options.verbose then .detailed else .normal
  output := options.output
  stepMode := .ofCount options.stepLevel.toNat

/-- The robot that takes the place of the one in the map, if a position or a direction was given.
What was not given is as at the origin of an empty world. A position needs exactly two numbers. -/
def robot (options : Options) : Option Robot :=
  if options.position.isNone && options.direction.isNone then
    none
  else
    let position : Point := match options.position with
      | some [x, y] => ⟨x, y⟩
      | _ => .origin
    some ⟨position, options.direction.getD .east, .unlimited⟩

/-- The paths of all files that are read or written. -/
def paths (options : Options) : List String :=
  [options.map, options.program, options.output, options.logFile].filterMap id

end Options

end Karel.CommandLine
