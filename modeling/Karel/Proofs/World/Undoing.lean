import Karel.Proofs.World.Beepers

/-!
# What is done can be undone

Karel takes a step back by turning around, stepping and turning around again, and picking and putting
undo each other while no count is at its end. The way back is free because Karel stood there, and the
grid comes back whole because a sound grid stores nothing but its tiles: `Grid.Sound.set_get` writes
back the tile that a cell had and finds the same entries as before. `Reachable.undone` says this of
each act and of whole sequences of errands, which are undone backwards.
-/

namespace Karel

/-- The step to the cell in front is taken back by the step the other way. -/
theorem Point.add?_opposite {point front : Point} {direction : Direction}
    (ahead : point.add? direction.step = some front) :
    front.add? direction.opposite.step = some point := by
  obtain ⟨columns, rows⟩ := Point.add?_eq_some_iff.mp ahead
  have back : direction.opposite.step.x.toInt = -direction.step.x.toInt ∧
      direction.opposite.step.y.toInt = -direction.step.y.toInt := by
    cases direction <;> decide
  exact Point.add?_eq_some_iff.mpr ⟨by omega, by omega⟩

namespace Grid

variable {grid : Grid}

/-- Writing back the tile that a cell had gives back the grid. -/
theorem Sound.set_get (sound : grid.Sound) (point : Point) (tile : Tile) :
    (grid.set point tile).set point (grid.get point) = grid := by
  refine ((sound.set point tile).set point _).ext sound ?_ fun other => ?_
  · rw [bounds_set, bounds_set]
  · rw [get_set, bounds_set, get_set]
    by_cases own : grid.bounds.contains other = true ∧ point = other
    · rw [if_pos own, own.2]
    · rw [if_neg own, if_neg own]

end Grid

/-! ## Counts -/

/-- A count that grows is not at its end. -/
theorem BeeperCount.lt_of_toNat_more {count : BeeperCount}
    (grows : count.more.toNat = count.toNat + 1) : count.toNat < 4294967295 := by
  rw [toNat_more] at grows
  omega

theorem BeeperCount.more_sub_one {count : BeeperCount} (room : count.toNat < 4294967295) :
    count.more - 1 = count := by
  have grown := toNat_more_of_lt room
  have taken := toNat_sub_one count.more_ne_zero
  exact UInt32.toNat_inj.mp (by omega)

theorem BeeperCount.more_of_sub_one {count : BeeperCount} (some : count ≠ 0) :
    (count - 1).more = count := by
  have taken := toNat_sub_one some
  have bound := count.toNat_lt
  have grown : (count - 1).more.toNat = (count - 1).toNat + 1 := toNat_more_of_lt (by omega)
  exact UInt32.toNat_inj.mp (by omega)

/-- The beeper that a bag gained can be taken out again. -/
theorem Bag.spend?_gain {bag : Bag}
    (room : ∀ count, bag = .counted count → count.toNat < 4294967295) :
    bag.gain.spend? = some bag := by
  cases bag with
  | unlimited => rfl
  | counted count =>
      rw [gain, spend?, if_neg count.more_ne_zero, BeeperCount.more_sub_one (room count rfl)]

/-- The beeper that was taken out of a bag can be put into it again. -/
theorem Bag.gain_of_spend? {bag left : Bag} (spent : bag.spend? = some left) : left.gain = bag := by
  cases bag with
  | unlimited =>
      cases spent
      rfl
  | counted count =>
      rw [spend?] at spent
      split at spent
      next => cases spent
      next some =>
        cases spent
        rw [gain, BeeperCount.more_of_sub_one some]

namespace Tile

variable {tile : Tile}

/-- A tile that Karel can stand on is known by its beepers. -/
theorem ofCount_count (passable : tile.isBlocking = false) : ofCount tile.count = tile := by
  cases tile with
  | empty => rfl
  | beepers pile => simp [ofCount, count, Pile.ofCount?, pile.count_ne_zero]
  | wall | treasure => cases passable

/-- Where a beeper is put there is a pile. -/
theorem exists_withBeeper (tile : Tile) :
    ∃ pile, tile.withBeeper = .beepers pile ∧ pile.count = tile.count.more := by
  cases tile <;> exact ⟨_, rfl, rfl⟩

/-- Putting a beeper where one was picked gives back the pile. -/
theorem withBeeper_picked (pile : Pile) : (ofCount (pile.count - 1)).withBeeper = .beepers pile := by
  obtain ⟨grown, found, count⟩ := exists_withBeeper (ofCount (pile.count - 1))
  rw [count_ofCount, BeeperCount.more_of_sub_one pile.count_ne_zero] at count
  obtain ⟨_, _⟩ := grown
  cases count
  exact found

end Tile

namespace World

variable {world next last : World}

/-- A world in which Karel's own cell was changed and changed back is the same world. -/
theorem Sound.restored (sound : world.Sound) (tile : Tile) :
    ⟨world.robot, (world.grid.set world.robot.position tile).set world.robot.position world.tileHere⟩ =
      world :=
  congrArg (World.mk world.robot) (sound.grid.set_get world.robot.position tile)

/-- After a step and a turn around, the next step leads back. -/
theorem Sound.move_back (sound : world.Sound) (moved : world.move = .ok next) :
    next.turnLeft.turnLeft.move = .ok world.turnLeft.turnLeft := by
  obtain ⟨front, ahead, -, rfl⟩ := move_eq_ok_iff.mp moved
  exact move_eq_ok_iff.mpr ⟨world.robot.position, Point.add?_opposite ahead, sound.passable, rfl⟩

theorem turnLeft_four (world : World) : world.turnLeft.turnLeft.turnLeft.turnLeft = world := by
  have around : world.robot.facing.left.left.left.left = world.robot.facing :=
    Direction.opposite_opposite _
  simp only [turnLeft, Robot.turnLeft, around]

theorem turnLeft_turnRight (world : World) : world.turnLeft.turnRight = world := by
  simp only [turnLeft, turnRight, Robot.turnLeft, Robot.turnRight, Direction.left_right]

theorem turnRight_turnLeft (world : World) : world.turnRight.turnLeft = world := by
  simp only [turnLeft, turnRight, Robot.turnLeft, Robot.turnRight, Direction.right_left]

/-- The beeper that was put can be picked, and then all is as it was. -/
theorem Sound.pick_of_put (sound : world.Sound) (given : world.put = .ok next)
    (room : world.tileHere.count.toNat < 4294967295) : next.pick = .ok world := by
  obtain ⟨bag, spent, rfl⟩ := put_eq_ok_iff.mp given
  obtain ⟨pile, grown, count⟩ := world.tileHere.exists_withBeeper
  refine pick_eq_ok_iff.mpr ⟨pile, (sound.tileHere_set rfl _).trans grown, ?_⟩
  rw [count, BeeperCount.more_sub_one room, Tile.ofCount_count sound.passable, Robot.gainBeeper,
    Bag.gain_of_spend? spent]
  exact (sound.restored _).symm

/-- The beeper that was picked can be put, and then all is as it was. -/
theorem Sound.put_of_pick (sound : world.Sound) (picked : world.pick = .ok next)
    (room : ∀ count, world.robot.bag = .counted count → count.toNat < 4294967295) :
    next.put = .ok world := by
  obtain ⟨pile, standing, rfl⟩ := pick_eq_ok_iff.mp picked
  refine put_eq_ok_iff.mpr ⟨world.robot.bag, Bag.spend?_gain room, ?_⟩
  have here : tileHere ⟨world.robot.gainBeeper, _⟩ = .ofCount (pile.count - 1) :=
    sound.tileHere_set rfl _
  rw [here, Tile.withBeeper_picked, ← standing]
  exact (sound.restored _).symm

/-! ## Sequences of errands -/

/-- Errands one after the other, up to the first that is refused. -/
def perform : List Errand → Act World Refusal Unit
  | [] => pure ()
  | errand :: rest => do
    errand.act
    perform rest

/-- What undoes an errand. A question leaves nothing to undo. -/
def Errand.undoing : Errand → List Errand
  | move => [turnLeft, turnLeft, move, turnLeft, turnLeft]
  | turnLeft => [turnRight]
  | turnRight => [turnLeft]
  | pick => [put]
  | put => [pick]
  | frontIsBlocked | frontIsTreasure | beeperIsPresent | isFacing _ => []

/-- The rest of a sequence goes on where its first errand leads. -/
theorem apply_perform_cons {errand : Errand} (rest : List Errand)
    (done : errand.act.apply world = (.ok (), next)) :
    (perform (errand :: rest)).apply world = (perform rest).apply next := by
  rw [perform, Act.apply_bind, done]

theorem perform_append (errands others : List Errand) :
    perform (errands ++ others) = (do perform errands; perform others) := by
  induction errands with
  | nil => rfl
  | cons errand rest inductionHypothesis =>
      rw [List.cons_append, perform, perform, inductionHypothesis, bind_assoc]

/-- Every errand keeps a world sound, be it done or refused. -/
theorem Sound.errand (sound : world.Sound) (errand : Errand) :
    (errand.act.apply world).2.Sound := by
  cases errand with
  | move => exact sound.after .move
  | turnLeft => exact sound.after .turnLeft
  | turnRight => exact sound.after .turnRight
  | pick => exact sound.after .pick
  | put => exact sound.after .put
  | frontIsBlocked | frontIsTreasure | beeperIsPresent | isFacing _ => exact sound

/-- Turning around, stepping and turning around again undoes a step. -/
theorem Sound.perform_back (sound : world.Sound) (moved : world.move = .ok next) :
    (perform [.turnLeft, .turnLeft, .move, .turnLeft, .turnLeft]).apply next = (.ok (), world) := by
  have turns : ∀ (start : World) (rest : List Errand),
      (perform (.turnLeft :: .turnLeft :: rest)).apply start =
        (perform rest).apply start.turnLeft.turnLeft := fun _ _ => rfl
  have back : Errand.move.act.apply next.turnLeft.turnLeft = (.ok (), world.turnLeft.turnLeft) :=
    Act.apply_change_eq_ok_iff.mpr (sound.move_back moved)
  rw [turns, apply_perform_cons _ back, turns, turnLeft_four]
  rfl

/-- In a roomy world, the beepers on which one is put are not at their end. -/
theorem Roomy.count_lt (roomy : world.Roomy) (given : world.put = .ok next) :
    world.tileHere.count.toNat < 4294967295 := by
  obtain ⟨left, spent, -⟩ := put_eq_ok_iff.mp given
  have holding : world.robot.bag.hasBeeper = true := by
    cases bag : world.robot.bag with
    | unlimited => rfl
    | counted count =>
        have some : count ≠ 0 := by
          rintro rfl
          rw [bag] at spent
          cases spent
        exact decide_eq_true (UInt32.pos_iff_ne_zero.mpr some)
  cases here : world.tileHere with
  | beepers pile => exact BeeperCount.lt_of_toNat_more (roomy.pile pile here holding)
  | empty | wall | treasure => decide

/-- An errand that is one act undoes what that act undoes. -/
theorem apply_perform_singleton {errand : Errand} (done : errand.act.apply world = (.ok (), next)) :
    (perform [errand]).apply world = (.ok (), next) :=
  apply_perform_cons [] done

/-- The errands that undo an errand succeed after it and give back the world before it. -/
theorem Sound.errand_undone (sound : world.Sound) (roomy : world.Roomy) {errand : Errand}
    (done : errand.act.apply world = (.ok (), next)) :
    (perform errand.undoing).apply next = (.ok (), world) := by
  cases errand with
  | move => exact sound.perform_back (Act.apply_change_eq_ok_iff.mp done)
  | turnLeft =>
      cases done
      exact apply_perform_singleton (congrArg (Prod.mk _) world.turnLeft_turnRight)
  | turnRight =>
      cases done
      exact apply_perform_singleton (congrArg (Prod.mk _) world.turnRight_turnLeft)
  | pick =>
      have picked := Act.apply_change_eq_ok_iff.mp done
      have room : ∀ count, world.robot.bag = .counted count → count.toNat < 4294967295 := by
        obtain ⟨pile, here, -⟩ := pick_eq_ok_iff.mp picked
        exact fun count bag => BeeperCount.lt_of_toNat_more (roomy.bag pile count here bag)
      exact apply_perform_singleton (Act.apply_change_eq_ok_iff.mpr (sound.put_of_pick picked room))
  | put =>
      have given := Act.apply_change_eq_ok_iff.mp done
      have taken := sound.pick_of_put given (roomy.count_lt given)
      exact apply_perform_singleton (Act.apply_change_eq_ok_iff.mpr taken)
  | frontIsBlocked | frontIsTreasure | beeperIsPresent | isFacing _ =>
      cases done
      rfl

/-- A sequence of errands is undone backwards, from the last to the first. The induction is on the
sequence, and every errand on the way leaves the world sound. -/
theorem Sound.perform_undone (sound : world.Sound) {errands : List Errand}
    (roomy : ∀ earlier, earlier <+: errands → (world.afterErrands earlier).Roomy)
    (done : (perform errands).apply world = (.ok (), last)) :
    (perform (errands.reverse.flatMap Errand.undoing)).apply last = (.ok (), world) := by
  induction errands generalizing world with
  | nil =>
      cases done
      rfl
  | cons errand rest inductionHypothesis =>
      obtain ⟨_, middle, first, others⟩ := Act.apply_bind_eq_ok_iff.mp done
      obtain rfl : (errand.act.apply world).2 = middle := congrArg Prod.snd first
      have back := inductionHypothesis (sound.errand errand) (fun earlier start =>
        roomy (errand :: earlier) (List.cons_prefix_cons.mpr ⟨rfl, start⟩)) others
      rw [List.reverse_cons, List.flatMap_append, List.flatMap_singleton, perform_append]
      exact Act.apply_bind_eq_ok_iff.mpr
        ⟨(), _, back, sound.errand_undone (roomy [] List.nil_prefix) first⟩

/-- Every successful step of Karel in a world that can come about can be undone, and then Karel, every
tile and everything stored are as they were. A step is undone by turning around, stepping and turning
around again, putting by picking if the cell had room for one more beeper, and picking by putting if the
bag had. Errands that all succeeded one after the other are undone backwards if there was room at
every point. -/
theorem Reachable.undone (reachable : world.Reachable) :
    (∀ next, world.move = .ok next →
      (perform [.turnLeft, .turnLeft, .move, .turnLeft, .turnLeft]).apply next = (.ok (), world)) ∧
    (∀ next, world.put = .ok next → world.tileHere.count.toNat < 4294967295 →
      next.pick = .ok world) ∧
    (∀ next, world.pick = .ok next →
      (∀ count, world.robot.bag = .counted count → count.toNat < 4294967295) →
      next.put = .ok world) ∧
    ∀ errands last, (perform errands).apply world = (.ok (), last) →
      (∀ earlier, earlier <+: errands → (world.afterErrands earlier).Roomy) →
      (perform (errands.reverse.flatMap Errand.undoing)).apply last = (.ok (), world) := by
  have sound := reachable.sound
  refine ⟨fun _ => sound.perform_back, fun _ => sound.pick_of_put, fun _ => sound.put_of_pick, ?_⟩
  intro errands last done roomy
  exact sound.perform_undone roomy done

/-- Karel one step before the edge of the plane. The beepers under it and the one in its bag are as many
as can be counted. -/
def brinkWorld : World where
  robot := ⟨⟨2147483646, 0⟩, .east, .counted 1⟩
  grid := (Grid.empty .unbounded).set ⟨2147483646, 0⟩ (.ofCount 4294967294)

/-- On the brink, Karel comes back from the last cell, takes back its last beeper from a pile that can
not grow any more, and puts back the one that it picked. It also undoes all of a longer way. -/
theorem undone_brink :
    brinkWorld.Reachable ∧
    (∃ next, brinkWorld.move = .ok next ∧ next.robot.front? = none ∧
      (perform [.turnLeft, .turnLeft, .move, .turnLeft, .turnLeft]).apply next =
        (.ok (), brinkWorld)) ∧
    (∃ next, brinkWorld.put = .ok next ∧ next.tileHere.count = 4294967295 ∧
      next.pick = .ok brinkWorld) ∧
    (∃ next, brinkWorld.pick = .ok next ∧ next.put = .ok brinkWorld) ∧
    ∃ last, (perform [.put, .isFacing .east, .move, .turnRight]).apply brinkWorld = (.ok (), last) ∧
      (perform [.turnLeft, .turnLeft, .turnLeft, .move, .turnLeft, .turnLeft, .pick]).apply last =
        (.ok (), brinkWorld) := by
  have reachable : brinkWorld.Reachable :=
    .placed ((Grid.Built.empty _).set _ _) (place_eq_ok_iff.mpr ⟨by decide, rfl⟩)
  have whole : (1 : BeeperCount).toNat + brinkWorld.grid.beepers ≤ 4294967295 := by decide
  have roomy := fun errands => ((reachable.beepers_conserved rfl whole).1 errands).2
  obtain ⟨stepped, given, picked, performed⟩ := reachable.undone
  have back := performed [.put, .isFacing .east, .move, .turnRight] _ rfl fun _ _ => roomy _
  refine ⟨reachable, ⟨_, rfl, by decide, stepped _ rfl⟩, ⟨_, rfl, by decide, given _ rfl (by decide)⟩,
    ⟨_, rfl, picked _ rfl ?_⟩, _, rfl, back⟩
  intro count bag
  cases bag
  decide

end World

end Karel
