import Karel.CommandLine.Options
import Karel.Language.Source
import Karel.MapText.Reader
import Karel.Records

/-!
# Setting up

Before anything is shown, the world is made and the program is read. With a map, the options for its
size, Karel and the bag take the place of what the map says, in this order; without a map they
describe an empty world.
-/

namespace Karel.CommandLine

/-- Why a call ends before or without a proper session. -/
inductive SetupFault
  | unreadable (path : String) (fault : StorageFault)
  | map (fault : MapText.Fault)
  | placement (refusal : Refusal)
  | source (path : String) (fault : Language.SourceFault)
  | logFile (path : String) (fault : StorageFault)
  | screen (fault : Console.DisplayFault)
deriving DecidableEq

/-- The wording of a fault. -/
def SetupFault.message : SetupFault → String
  | unreadable path fault => s!"Failed reading {path}: {fault.message}"
  | map fault => s!"Failed setting up the map:\n{fault.message}"
  | placement refusal => s!"Failed setting up the map:\n{refusal.message}"
  | source path fault => s!"Failed parsing {path}:\n{fault.message}"
  | logFile path fault => s!"Failed opening log file {path}: {fault.message}"
  | screen fault => s!"Probably a problem with the terminal:\n{fault.message}"

/-- Something done while setting up. -/
abbrev Preparation (α : Type) : Type := Act Records SetupFault α

namespace Options

/-- The style of the map in a file. Files whose names end in `.km2` are tables. -/
def mapStyle (options : Options) (path : String) : MapText.Style :=
  if options.tableMap then .table else .ofPath path

/-- The borders of a world made from a map of the given size. -/
def boundsOfMap (options : Options) (width height : Coordinate) : Bounds where
  width := if options.endlessColumns then none else some (options.columns.getD width)
  height := if options.endlessRows then none else some (options.rows.getD height)

/-- The world with the bag that was asked for. -/
def fillBag (options : Options) (world : World) : World :=
  match options.beepers with
  | some count => world.setBag (.counted count)
  | none => world

/-- Puts Karel on a grid. -/
def placed (robot : Robot) (grid : Grid) : Preparation World :=
  match World.place robot grid with
  | .ok world => pure world
  | .error refusal => throw (.placement refusal)

/-- Reads a file. -/
def fileText (path : String) : Preparation String := do
  match ← Act.ask fun records => records.storage.read path with
  | .ok text => pure text
  | .error fault => throw (.unreadable path fault)

/-- Makes the world from a map file. -/
def worldOfMap (options : Options) (path : String) : Preparation World := do
  let text ← fileText path
  match MapText.read (options.mapStyle path) options.robot text with
  | .error fault => throw (.map fault)
  | .ok scene =>
    Act.update (Records.note (.loadedMap path scene.width scene.height))
    placed scene.robot (scene.grid.setBounds (options.boundsOfMap scene.width scene.height))

/-- Makes the world that was asked for. -/
def world (options : Options) : Preparation World := do
  let world ← match options.map with
    | some path => options.worldOfMap path
    | none => placed (options.robot.getD .initial) (.empty ⟨options.columns, options.rows⟩)
  pure (options.fillBag world)

/-- Reads the program that was asked for, if there is one. -/
def readProgram {σ ε : Type} (options : Options) (vocabulary : Vocabulary σ ε) :
    Preparation (Option Program) :=
  match options.program with
  | none => pure none
  | some path => do
    let text ← fileText path
    match Language.read vocabulary text with
    | .error fault => throw (.source path fault)
    | .ok program =>
      Act.update (Records.note (.parsedProgram program.procedures.size program.main))
      pure (some program)

/-- Makes the world and reads the program. -/
def prepare {σ ε : Type} (options : Options) (vocabulary : Vocabulary σ ε) :
    Preparation (World × Option Program) := do
  let world ← options.world
  let program ← options.readProgram vocabulary
  pure (world, program)

end Options

end Karel.CommandLine
