import Karel.CommandLine.Reader
import Karel.CommandLine.Setup
import Karel.Proofs.MapText.OwnRobot

/-!
# The world that options ask for

Karel, the borders and the bag can each be asked for, and what was not asked for is as the map says,
or as in an empty world. `Options.Describes` says it of one world for all options together, with a
map and without. `Options.world_combines` is that this world is made exactly if the map can be read
and Karel can stand in it, and which fault there is if not. The two ways in which a world is made
differ in one respect: without a map an endless axis is endless only if no size was asked for.
-/

namespace Karel

/-- Karel stands where nothing can be entered: beyond a border, on a wall or on a treasure. -/
def World.Obstructed (world : World) : Prop :=
  world.grid.bounds.contains world.robot.position = false ∨
    world.grid.bounds.contains world.robot.position = true ∧
      (world.grid.stored[world.robot.position]? = some .wall ∨
        world.grid.stored[world.robot.position]? = some .treasure)

theorem World.obstructed_iff {world : World} :
    world.Obstructed ↔ world.tileHere.isBlocking = true := by
  unfold Obstructed tileHere tile Grid.get
  cases world.grid.bounds.contains world.robot.position with
  | false => simp [Tile.isBlocking]
  | true =>
      cases world.grid.stored[world.robot.position]? with
      | none => simp [Tile.isBlocking]
      | some tile => cases tile <;> simp [Tile.isBlocking]

namespace CommandLine

/-- The size of an axis: none if it is to be endless, else the one that was asked for, else that of
the map. -/
def axisSize (endless : Bool) (asked ofMap : Option Coordinate) : Option Coordinate :=
  if endless then none else asked <|> ofMap

theorem axisSize_none (asked : Option Coordinate) : axisSize false asked none = asked := by
  cases asked <;> rfl

theorem axisSize_some (endless : Bool) (asked : Option Coordinate) (size : Coordinate) :
    axisSize endless asked (some size) = if endless then none else some (asked.getD size) := by
  cases asked <;> rfl

namespace Options

/-- The map that the options name, read in its style, if they name one. -/
inductive Finds (options : Options) (storage : Storage) : Option MapText.Scene → Prop
  | nothing (unnamed : options.map = none) : Finds options storage none
  | scene {path text scene} (named : options.map = some path)
      (found : storage.read path = .ok text)
      (accepted : MapText.read (options.mapStyle path) options.robot text = .ok scene) :
      Finds options storage (some scene)

/-- Whether Karel's place is asked for. -/
def placesKarel (options : Options) : Bool := options.position.isSome || options.direction.isSome

/-- The position that is asked for, given by exactly two numbers. -/
def askedPosition (options : Options) : Option Point :=
  match options.position with
  | some [x, y] => some ⟨x, y⟩
  | _ => none

/-- The world is the one that the options ask for, with a map or without. -/
structure Describes (options : Options) (map : Option MapText.Scene) (world : World) : Prop where
  width : world.grid.bounds.width =
    axisSize (options.endlessColumns && map.isSome) options.columns (map.map (·.width))
  height : world.grid.bounds.height =
    axisSize (options.endlessRows && map.isSome) options.rows (map.map (·.height))
  tiles : ∀ point tile, world.grid.stored[point]? = some tile ↔
    world.grid.bounds.contains point = true ∧
      ∃ scene, map = some scene ∧ scene.grid.stored[point]? = some tile
  position : world.robot.position =
    if options.placesKarel then options.askedPosition.getD .origin
    else (map.map (·.robot.position)).getD .origin
  facing : world.robot.facing =
    if options.placesKarel then options.direction.getD .east
    else (map.map (·.robot.facing)).getD .east
  bag : world.robot.bag =
    match options.beepers with
    | some count => .counted count
    | none =>
      if options.placesKarel then .unlimited else (map.map (·.robot.bag)).getD .unlimited

/-- What goes wrong with the options: the map can not be found or read, or Karel can not stand in the
world that they describe. -/
inductive Fails (options : Options) (storage : Storage) : SetupFault → Prop
  | unreadable {path fault} (named : options.map = some path)
      (missing : storage.read path = .error fault) : Fails options storage (.unreadable path fault)
  | map {path text fault} (named : options.map = some path) (found : storage.read path = .ok text)
      (refused : MapText.read (options.mapStyle path) options.robot text = .error fault) :
      Fails options storage (.map fault)
  | placement {map world} (finds : options.Finds storage map)
      (describes : options.Describes map world) (obstructed : world.Obstructed) :
      Fails options storage (.placement (.noStandingOn world.robot.position world.tileHere))

variable {options : Options} {storage : Storage} {map : Option MapText.Scene} {world other : World}

theorem robot_eq (options : Options) : options.robot =
    if options.placesKarel then
      some ⟨options.askedPosition.getD .origin, options.direction.getD .east, .unlimited⟩
    else none := by
  unfold robot placesKarel askedPosition
  cases options.position with
  | none => cases options.direction <;> rfl
  | some numbers =>
      match numbers with
      | [] | [_] | [_, _] | _ :: _ :: _ :: _ => rfl

/-- There is only one world that the options describe. -/
theorem Describes.unique (describes : options.Describes map world)
    (same : options.Describes map other) : world = other := by
  obtain ⟨⟨position, facing, bag⟩, ⟨⟨width, height⟩, stored⟩⟩ := world
  obtain ⟨⟨otherPosition, otherFacing, otherBag⟩, ⟨⟨otherWidth, otherHeight⟩, otherStored⟩⟩ := other
  obtain rfl : position = otherPosition := describes.position.trans same.position.symm
  obtain rfl : facing = otherFacing := describes.facing.trans same.facing.symm
  obtain rfl : bag = otherBag := describes.bag.trans same.bag.symm
  obtain rfl : width = otherWidth := describes.width.trans same.width.symm
  obtain rfl : height = otherHeight := describes.height.trans same.height.symm
  obtain rfl : stored = otherStored :=
    Std.ExtTreeMap.ext_getElem? fun {point} => Option.ext fun tile =>
      (describes.tiles point tile).trans (same.tiles point tile).symm
  rfl

/-- The robot that is put on the grid, before the bag is filled. -/
def placedRobot (options : Options) : Option MapText.Scene → Robot
  | none => options.robot.getD .initial
  | some scene => scene.robot

/-- The grid that the robot is put on. -/
def placedGrid (options : Options) : Option MapText.Scene → Grid
  | none => .empty ⟨options.columns, options.rows⟩
  | some scene => scene.grid.setBounds (options.boundsOfMap scene.width scene.height)

/-- With a robot of their own the options put that one on every map. -/
theorem Finds.placedRobot_eq (finds : options.Finds storage map) :
    options.placedRobot map =
      if options.placesKarel then
        ⟨options.askedPosition.getD .origin, options.direction.getD .east, .unlimited⟩
      else (map.map (·.robot)).getD .initial := by
  have asked := options.robot_eq
  cases finds with
  | nothing =>
      unfold placedRobot
      rw [asked]
      cases options.placesKarel <;> rfl
  | scene named found accepted =>
      cases own : options.placesKarel with
      | false => rfl
      | true =>
          rw [own, if_pos rfl] at asked
          rw [asked] at accepted
          exact MapText.robot_of_read accepted

theorem grid_fillBag (options : Options) (world : World) :
    (options.fillBag world).grid = world.grid := by
  unfold fillBag
  cases options.beepers <;> rfl

/-- Only the bag of the robot is another. -/
theorem robot_fillBag (options : Options) (world : World) :
    (options.fillBag world).robot = { world.robot with
      bag := (options.beepers.map .counted).getD world.robot.bag } := by
  unfold fillBag
  cases options.beepers <;> rfl

/-- Where the map has no say, an axis is as long as was asked. -/
theorem bounds_placedGrid (options : Options) (map : Option MapText.Scene) :
    (options.placedGrid map).bounds =
      ⟨axisSize (options.endlessColumns && map.isSome) options.columns (map.map (·.width)),
        axisSize (options.endlessRows && map.isSome) options.rows (map.map (·.height))⟩ := by
  cases map with
  | none => simp only [Option.isSome_none, Bool.and_false, Option.map_none, axisSize_none]; rfl
  | some scene => simp only [Option.isSome_some, Bool.and_true, Option.map_some, axisSize_some]; rfl

/-- The grid has the tiles of the map that are inside its borders. -/
theorem stored_placedGrid (options : Options) (map : Option MapText.Scene) (point : Point)
    (tile : Tile) : (options.placedGrid map).stored[point]? = some tile ↔
      (options.placedGrid map).bounds.contains point = true ∧
        ∃ scene, map = some scene ∧ scene.grid.stored[point]? = some tile := by
  cases map with
  | none => simp [placedGrid, Grid.empty]
  | some scene =>
      simp only [placedGrid, Grid.setBounds, Std.ExtTreeMap.getElem?_filter',
        Option.filter_eq_some_iff, Option.some.injEq, exists_eq_left']
      exact and_comm

theorem Finds.describes (finds : options.Finds storage map) :
    options.Describes map (options.fillBag ⟨options.placedRobot map, options.placedGrid map⟩) := by
  have bounds := options.bounds_placedGrid map
  have robot := finds.placedRobot_eq
  refine ⟨?_, ?_, ?_, ?_, ?_, ?_⟩
  · rw [grid_fillBag, bounds]
  · rw [grid_fillBag, bounds]
  · rw [grid_fillBag]
    exact options.stored_placedGrid map
  all_goals
    rw [robot_fillBag, robot]
    cases options.placesKarel <;> cases map <;> cases options.beepers <;> rfl

/-! ## Making the world -/

theorem Finds.unique {found : Option MapText.Scene} (finds : options.Finds storage map)
    (same : options.Finds storage found) : map = found := by
  cases finds with
  | nothing unnamed =>
      cases same with
      | nothing => rfl
      | scene named => rw [unnamed] at named; cases named
  | scene named read accepted =>
      cases same with
      | nothing unnamed => rw [named] at unnamed; cases unnamed
      | scene again reads accepts =>
          rw [named] at again
          cases again
          rw [read] at reads
          cases reads
          rw [accepted] at accepts
          cases accepts
          rfl

/-- Karel is put on the grid, and then the bag is filled. -/
theorem Finds.apply_world {records : Records} (finds : options.Finds records.storage map) :
    (options.world.apply records).1 =
      match World.place (options.placedRobot map) (options.placedGrid map) with
      | .ok world => .ok (options.fillBag world)
      | .error refusal => .error (.placement refusal) := by
  unfold Options.world
  cases finds with
  | nothing unnamed =>
      simp only [unnamed, placed, placedRobot, placedGrid]
      rw [Act.apply_bind]
      cases World.place (options.robot.getD .initial) (.empty ⟨options.columns, options.rows⟩) <;>
        rfl
  | @scene path text scene named found accepted =>
      simp only [named, worldOfMap, fileText, placed, placedRobot, placedGrid]
      simp only [Act.apply_bind, Act.apply_ask, found, Act.apply_pure, accepted, Act.apply_update]
      cases World.place scene.robot
        (scene.grid.setBounds (options.boundsOfMap scene.width scene.height)) <;> rfl

theorem apply_world_of_unreadable {records : Records} {path : String} {fault : StorageFault}
    (named : options.map = some path) (missing : records.storage.read path = .error fault) :
    (options.world.apply records).1 = .error (.unreadable path fault) := by
  simp only [Options.world, named, worldOfMap, fileText, Act.apply_bind, Act.apply_ask, missing,
    Act.apply_throw]

theorem apply_world_of_refused {records : Records} {path text : String} {fault : MapText.Fault}
    (named : options.map = some path) (found : records.storage.read path = .ok text)
    (refused : MapText.read (options.mapStyle path) options.robot text = .error fault) :
    (options.world.apply records).1 = .error (.map fault) := by
  simp only [Options.world, named, worldOfMap, fileText, Act.apply_bind, Act.apply_ask, found,
    Act.apply_pure, refused, Act.apply_throw]

/-- Karel can be put on the grid exactly if nothing obstructs the world that is described. -/
theorem obstructed_fillBag (robot : Robot) (grid : Grid) :
    (options.fillBag ⟨robot, grid⟩).Obstructed ↔ (grid.get robot.position).isBlocking = true := by
  rw [World.obstructed_iff, World.tileHere, World.tile, grid_fillBag, robot_fillBag]

/-- The world that is described is made if nothing obstructs it. -/
theorem apply_world_of_describes {records : Records} (finds : options.Finds records.storage map)
    (describes : options.Describes map world) (free : ¬ world.Obstructed) :
    (options.world.apply records).1 = .ok world := by
  obtain rfl := describes.unique finds.describes
  rw [obstructed_fillBag, Bool.not_eq_true] at free
  rw [finds.apply_world, World.place_eq_ok_iff.mpr ⟨free, rfl⟩]

theorem Fails.apply_world {records : Records} {fault : SetupFault}
    (fails : options.Fails records.storage fault) :
    (options.world.apply records).1 = .error fault := by
  cases fails with
  | unreadable named missing => exact apply_world_of_unreadable named missing
  | map named found refused => exact apply_world_of_refused named found refused
  | placement finds describes obstructed =>
      obtain rfl := describes.unique finds.describes
      rw [obstructed_fillBag] at obstructed
      rw [finds.apply_world, World.tileHere, World.tile, grid_fillBag, robot_fillBag, World.place,
        if_pos obstructed]

/-- Either something goes wrong, or the options describe a world in which Karel can stand. -/
theorem fails_or_describes (options : Options) (storage : Storage) :
    (∃ fault, options.Fails storage fault) ∨
      ∃ map world, options.Finds storage map ∧ options.Describes map world ∧ ¬ world.Obstructed := by
  have placed : ∀ {map}, options.Finds storage map → (∃ fault, options.Fails storage fault) ∨
      ∃ map world, options.Finds storage map ∧ options.Describes map world ∧
        ¬ world.Obstructed := fun {map} finds => by
    by_cases obstructed :
        (options.fillBag ⟨options.placedRobot map, options.placedGrid map⟩).Obstructed
    · exact .inl ⟨_, .placement finds finds.describes obstructed⟩
    · exact .inr ⟨map, _, finds, finds.describes, obstructed⟩
  cases named : options.map with
  | none => exact placed (.nothing named)
  | some path =>
      cases found : storage.read path with
      | error fault => exact .inl ⟨_, .unreadable named found⟩
      | ok text =>
          cases read : MapText.read (options.mapStyle path) options.robot text with
          | error fault => exact .inl ⟨_, .map named found read⟩
          | ok scene => exact placed (.scene named found read)

/-- Without a map, an axis that is to be endless and to have a size has that size. -/
theorem axisSize_heeded_iff (endless : Bool) (asked : Option Coordinate) :
    axisSize false asked none = axisSize endless asked none ↔
      ¬ (endless = true ∧ asked.isSome = true) := by
  cases endless <;> cases asked <;> simp [axisSize]

/-- The options make a world exactly if the map that they name can be found and read and Karel can
stand in the world that they describe, and it is that world. If not, they fail as is said. The
borders of the world are those that were asked for or those of the map, with one exception: without a
map, an axis that is to be endless and to have a size has that size. -/
theorem world_combines (options : Options) (records : Records) :
    (∀ world, (options.world.apply records).1 = .ok world ↔
      ∃ map, options.Finds records.storage map ∧ options.Describes map world ∧
        ¬ world.Obstructed) ∧
    (∀ fault, (options.world.apply records).1 = .error fault ↔
      options.Fails records.storage fault) ∧
    ∀ map world, options.Describes map world →
      (world.grid.bounds = ⟨axisSize options.endlessColumns options.columns (map.map (·.width)),
          axisSize options.endlessRows options.rows (map.map (·.height))⟩ ↔
        ¬ (map = none ∧ (options.endlessColumns = true ∧ options.columns.isSome = true ∨
          options.endlessRows = true ∧ options.rows.isSome = true))) := by
  refine ⟨fun world => ⟨fun made => ?_, ?_⟩, fun fault => ⟨fun failed => ?_, Fails.apply_world⟩,
    fun map world describes => ?_⟩
  · rcases fails_or_describes options records.storage with
      ⟨fault, fails⟩ | ⟨map, other, finds, rest⟩
    · rw [fails.apply_world] at made
      cases made
    · rw [apply_world_of_describes finds rest.1 rest.2] at made
      cases made
      exact ⟨map, finds, rest⟩
  · rintro ⟨map, finds, describes, free⟩
    exact apply_world_of_describes finds describes free
  · rcases fails_or_describes options records.storage with
      ⟨other, fails⟩ | ⟨map, world, finds, rest⟩
    · rw [fails.apply_world] at failed
      cases failed
      exact fails
    · rw [apply_world_of_describes finds rest.1 rest.2] at failed
      cases failed
  · have bounds : world.grid.bounds = ⟨_, _⟩ :=
      (Bounds.mk.injEq _ _ _ _).mpr ⟨describes.width, describes.height⟩
    rw [bounds, Bounds.mk.injEq]
    cases map with
    | some scene => simp
    | none =>
        simp only [Option.isSome_none, Bool.and_false, Option.map_none, axisSize_heeded_iff,
          true_and, not_or]

/-- Endless columns are asked for, and the world has five. -/
theorem endless_columns_unheeded :
    ∃ options world, CommandLine.read ["-X", "-x", "5"] = .ok options ∧ options.map = none ∧
      options.endlessColumns = true ∧ (options.world.apply (.ofStorage .empty)).1 = .ok world ∧
        world.grid.bounds.width = some 5 :=
  ⟨{ columns := some 5, endlessColumns := true }, ⟨.initial, .empty ⟨some 5, none⟩⟩, rfl, rfl, rfl,
    rfl, rfl⟩

end Options

end CommandLine

end Karel
