import Karel.Proofs.Language.Charts
import Karel.Proofs.Language.Words
import Karel.Proofs.World.Reachable
import Mathlib.Data.List.Chain

/-!
# What programs change

A statement takes Karel to a neighbouring cell at most, and changes no tile but that of the cell
Karel stands on, and never into or from something that stands in the way: `World.Treads`. So all that
a program changes in a world are the beepers on its path. `World.KeptToPath` says this of the chart
of a run, and `Reachable.run_keptToPath` that every run keeps to it.
-/

namespace Karel

/-- The other cell is the same or a step away. -/
def Point.Near (point other : Point) : Prop :=
  other = point ∨ ∃ direction : Direction, point.add? direction.step = some other

namespace World

variable {first world next last : World} {chart : Chart World}

/-- What a statement may do to a world. -/
structure Treads (world next : World) : Prop where
  sound : next.Sound
  near : world.robot.position.Near next.robot.position
  bounds : next.grid.bounds = world.grid.bounds
  elsewhere : ∀ point, point ≠ world.robot.position → next.tile point = world.tile point
  obstacles : ∀ point obstacle, obstacle.isBlocking = true →
    (next.tile point = obstacle ↔ world.tile point = obstacle)

/-- Karel stays on its cell, and the tiles are as they were. -/
theorem Sound.treads_stay (sound : world.Sound) {robot : Robot}
    (stays : robot.position = world.robot.position) : world.Treads ⟨robot, world.grid⟩ where
  sound := by
    refine ⟨?_, sound.grid⟩
    unfold tileHere World.tile
    rw [stays]
    exact sound.passable
  near := .inl stays
  bounds := rfl
  elsewhere _ _ := rfl
  obstacles _ _ _ := .rfl

/-- Karel stays on its cell and leaves something there that it can stand on. -/
theorem Sound.treads_setHere (sound : world.Sound) {robot : Robot} {tile : Tile}
    (stays : robot.position = world.robot.position) (passable : tile.isBlocking = false) :
    world.Treads ⟨robot, world.grid.set world.robot.position tile⟩ := by
  refine ⟨sound.setHere stays passable, .inl stays, Grid.bounds_set _ _ _,
    fun _ => tile_set, ?_⟩
  intro point obstacle blocking
  by_cases here : point = world.robot.position
  · -- Nothing stands in the way on Karel's cell, neither before nor after.
    have set := sound.tileHere_set stays tile
    unfold tileHere at set
    rw [stays] at set
    rw [here, set]
    refine iff_of_false ?_ ?_
    · rintro rfl
      exact absurd (blocking.symm.trans passable) (by simp)
    · rintro rfl
      exact absurd (blocking.symm.trans sound.passable) (by simp)
  · rw [tile_set here]

theorem Sound.treads_move (sound : world.Sound) (moved : world.move = .ok next) :
    world.Treads next := by
  obtain ⟨front, ahead, passable, rfl⟩ := move_eq_ok_iff.mp moved
  exact ⟨⟨passable, sound.grid⟩, .inr ⟨_, ahead⟩, rfl, fun _ _ => rfl, fun _ _ _ => .rfl⟩

theorem Sound.treads_pick (sound : world.Sound) (picked : world.pick = .ok next) :
    world.Treads next := by
  obtain ⟨pile, -, rfl⟩ := pick_eq_ok_iff.mp picked
  exact sound.treads_setHere rfl (isBlocking_ofCount _)

theorem Sound.treads_put (sound : world.Sound) (given : world.put = .ok next) :
    world.Treads next := by
  obtain ⟨bag, -, rfl⟩ := put_eq_ok_iff.mp given
  exact sound.treads_setHere rfl (isBlocking_withBeeper _)

/-- Whatever Karel is told treads so, or is refused and changes nothing. Every question is answered and
changes nothing. -/
theorem drivable_treads : Drivable.Corresponds
    (fun action (_ : Act World Refusal Unit) => ∀ world : World, action.Ensures world
      (fun _ next => world.Sound → world.Treads next) fun _ last => last = world)
    fun check (_ : Act World Refusal Bool) => ∀ world : World, check.Ensures world
      (fun _ next => next = world) fun _ _ => False where
  skip _ := .pure fun sound => sound.treads_stay rfl
  move _ := .change fun _ moved sound => sound.treads_move moved
  turnLeft _ := .update fun sound => sound.treads_stay rfl
  turnRight _ := .update fun sound => sound.treads_stay rfl
  pick _ := .change fun _ picked sound => sound.treads_pick picked
  put _ := .change fun _ given sound => sound.treads_put given
  frontIsBlocked _ := .ask rfl
  frontIsTreasure _ := .ask rfl
  beeperIsPresent _ := .ask rfl
  isFacing _ _ := .ask rfl

/-- So does every statement. -/
theorem execute_treads (program : Program) (statement : Statement) (world : World) :
    (program.execute .standard statement).Ensures world
      (fun _ next => world.Sound → world.Treads next) fun failure last => last = world ∧
        ∀ cause, failure = .act cause → Program.Refuses .standard statement world cause :=
  Program.execute_ensures drivable_treads.of_condition (fun _ sound => sound.treads_stay rfl)
    drivable_treads.of_command statement world

/-! ## Whole runs -/

/-- The worlds of a run, from the first to the last. -/
def worlds (chart : Chart World) (last : World) : List World := chart.map Prod.snd ++ [last]

/-- All that changed from the first world to the last are beepers on Karel's path, which goes from one
cell to the next and over nothing that stands in the way. -/
structure KeptToPath (first : World) (chart : Chart World) (last : World) : Prop where
  bounds : last.grid.bounds = first.grid.bounds
  walls : ∀ point, last.tile point = .wall ↔ first.tile point = .wall
  treasures : ∀ point, last.tile point = .treasure ↔ first.tile point = .treasure
  changed : ∀ point, last.tile point ≠ first.tile point →
    ∃ entry ∈ chart, entry.2.robot.position = point
  starts : (worlds chart last).head? = some first
  path : (worlds chart last).IsChain fun world next =>
    world.robot.position.Near next.robot.position
  passable : ∀ world ∈ worlds chart last, world.tileHere.isBlocking = false

theorem Sound.keptToPath (sound : first.Sound) : first.KeptToPath [] first where
  bounds := rfl
  walls _ := .rfl
  treasures _ := .rfl
  changed _ other := absurd rfl other
  starts := rfl
  path := .singleton first
  passable _ member := (List.mem_singleton.mp member) ▸ sound.passable

theorem worlds_concat (chart : Chart World) (step : Step) (world last : World) :
    worlds (chart ++ [(step, world)]) last = worlds chart world ++ [last] := by
  simp [worlds]

/-- One more statement keeps to the path. -/
theorem KeptToPath.concat (kept : first.KeptToPath chart world) (treads : world.Treads next)
    (step : Step) : first.KeptToPath (chart ++ [(step, world)]) next where
  bounds := treads.bounds.trans kept.bounds
  walls point := (treads.obstacles point .wall rfl).trans (kept.walls point)
  treasures point := (treads.obstacles point .treasure rfl).trans (kept.treasures point)
  changed point other := by
    by_cases here : point = world.robot.position
    · exact ⟨(step, world), List.mem_append_right _ List.mem_cons_self, here.symm⟩
    · rw [treads.elsewhere point here] at other
      obtain ⟨entry, member, visited⟩ := kept.changed point other
      exact ⟨entry, List.mem_append_left _ member, visited⟩
  starts := by
    rw [worlds_concat, List.head?_append, kept.starts, Option.some_or]
  path := by
    rw [worlds_concat]
    refine kept.path.append (.singleton next) ?_
    simp only [worlds, List.getLast?_concat, List.head?_cons, Option.mem_some_iff]
    rintro _ rfl _ rfl
    exact treads.near
  passable := by
    rw [worlds_concat]
    intro other member
    rcases List.mem_append.mp member with earlier | final
    · exact kept.passable other earlier
    · exact (List.mem_singleton.mp final) ▸ treads.sound.passable

/-- Statements executed one after the other keep to the path, and leave a sound world. -/
theorem Sound.course_keptToPath (sound : first.Sound) {program : Program}
    (course : program.Course .standard first chart last) :
    first.KeptToPath chart last ∧ last.Sound := by
  induction course with
  | start => exact ⟨sound.keptToPath, sound⟩
  | snoc _ executed inductionHypothesis =>
      obtain ⟨kept, sound⟩ := inductionHypothesis
      have treads := (execute_treads program _ _).of_ok executed sound
      exact ⟨kept.concat treads _, treads.sound⟩

/-- A run that was stopped also kept to the path: its last statement changed nothing. -/
theorem Sound.stopped_keptToPath (sound : first.Sound) {program : Program}
    {onlooker : Onlooker World Refusal} {failure : RunFailure Refusal}
    (stopped : program.Stopped .standard onlooker first failure chart last) :
    first.KeptToPath chart last := by
  cases stopped with
  | unstarted _ => exact sound.keptToPath
  | watched course _ =>
      obtain ⟨kept, sound⟩ := sound.course_keptToPath course
      exact kept.concat (sound.treads_stay rfl) _
  | failed course executed =>
      obtain ⟨kept, sound⟩ := sound.course_keptToPath course
      obtain ⟨rfl, -⟩ := (execute_treads program _ _).of_error executed
      exact kept.concat (sound.treads_stay rfl) _

/-- Whatever a run comes to, it kept to the path. -/
theorem Sound.charted_keptToPath (sound : first.Sound) (program : Program)
    (onlooker : Onlooker World Refusal) (steps : Nat) :
    first.KeptToPath ((program.charted .standard onlooker steps).apply (first, [])).2.2
      ((program.charted .standard onlooker steps).apply (first, [])).2.1 := by
  have ensured := program.run_charted .standard onlooker steps first
  rcases ran : (program.charted .standard onlooker steps).apply (first, [])
    with ⟨failure | left, last, chart⟩
  · exact sound.stopped_keptToPath (ensured.of_error ran)
  · exact (sound.course_keptToPath (ensured.of_ok ran)).1

/-- From every world that can come about, every run of a program of whatever length changes nothing
but the beepers on Karel's path, whether it goes on, comes to its end, fails or is stopped by somebody
who looks on. No wall, no treasure and no border is moved, each changed cell is one where Karel was
when a statement was shown, Karel goes at most one step between two statements and is never on
anything that stands in the way. This holds of the chart that is shown to an onlooker, and if an
observer only looks at the world of the moment, there is such a chart. -/
theorem Reachable.run_keptToPath (reachable : first.Reachable) (program : Program) (steps : Nat) :
    (∀ onlooker : Onlooker World Refusal,
      first.KeptToPath ((program.charted .standard onlooker steps).apply (first, [])).2.2
        ((program.charted .standard onlooker steps).apply (first, [])).2.1) ∧
    ∀ observe : Step → Act World Refusal Unit,
      (∀ step world, ((observe step).apply world).2 = world) →
      ∃ chart, first.KeptToPath chart ((program.run .standard observe steps).apply first).2 := by
  have sound := reachable.sound
  refine ⟨fun onlooker => sound.charted_keptToPath program onlooker steps, ?_⟩
  intro observe looks
  rw [Program.run_eq_charted looks]
  exact ⟨_, sound.charted_keptToPath program _ steps⟩

/-- Karel at one end of a lane, with a treasure on the third of its four cells. -/
def laneWorld : World where
  robot := .initial
  grid := (Grid.empty (.finite 4 1)).set ⟨2, 0⟩ .treasure

/-- Puts beepers along the way, for ever. -/
def sowing : Program where
  main := some "sow"
  procedures := .ofList [("sow", ["put", "move", "sow"].map Statement.invoke)]

/-- Sowing along the lane stops in front of the treasure. -/
theorem sowing_lane : ((sowing.charted .standard (fun _ => .ok ()) 9).apply (laneWorld, [])).1 =
    .error (.act (.blocked ⟨1, 0⟩ .east .treasure)) := by
  decide +kernel

/-- Sowing along the lane keeps to the path until it is stopped. Statement by statement, these are
Karel's column and the beepers on the first two cells. -/
theorem run_keptToPath_lane :
    laneWorld.Reachable ∧
    (∃ last chart,
      (sowing.charted .standard (fun _ => .ok ()) 9).apply (laneWorld, []) =
        (.error (.act (.blocked ⟨1, 0⟩ .east .treasure)), last, chart) ∧
      (worlds chart last).map (fun world =>
        (world.robot.position.x, (world.tile ⟨0, 0⟩).count, (world.tile ⟨1, 0⟩).count)) =
        [(0, 0, 0), (0, 1, 0), (1, 1, 0), (1, 1, 0), (1, 1, 1), (1, 1, 1)] ∧
      laneWorld.KeptToPath chart last) ∧
    ∃ chart, laneWorld.KeptToPath chart
      ((sowing.run .standard (fun _ => pure ()) 9).apply laneWorld).2 := by
  have reachable : laneWorld.Reachable :=
    .placed ((Grid.Built.empty _).set _ _) (place_eq_ok_iff.mpr ⟨by decide, rfl⟩)
  obtain ⟨charted, run⟩ := reachable.run_keptToPath sowing 9
  refine ⟨reachable, ⟨_, _, ?_, ?_, charted fun _ => .ok ()⟩, run (fun _ => pure ()) fun _ _ => rfl⟩
  · exact Prod.ext sowing_lane (Eq.refl (Prod.snd _))
  · decide +kernel

end World

end Karel
