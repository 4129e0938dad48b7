import Karel.Proofs.Language.Invariant
import Karel.Proofs.World.Reachable
import Mathlib.Algebra.GroupWithZero.Nat
import Mathlib.Data.List.Perm.Basic

/-!
# Beepers are neither made nor lost

Karel picks beepers into its bag and puts them out of it, so if the bag can be counted, the beepers in
it and those on all cells stay the same in number. This holds as long as no count has to stop at its
end, and none has to if all beepers together are one count: a pile that grows and a bag that is not
empty are two parts of that number, and so are a bag that gains and the pile it gains from.
-/

namespace Karel

namespace Grid

variable {grid : Grid} {point : Point} {tile : Tile}

/-- The beepers on all cells. -/
def beepers (grid : Grid) : Nat := (grid.toList.map fun entry => entry.2.count.toNat).sum

/-- What is stored is the tile of one cell and what is stored of all others. -/
theorem toList_perm (found : grid.stored[point]? = some tile) :
    grid.stored.toList.Perm ((point, tile) :: (grid.stored.erase point).toList) := by
  have distinct : ∀ stored : Std.ExtTreeMap Point Tile Point.readingOrder, stored.toList.Nodup := by
    refine fun stored => stored.distinct_keys_toList.imp ?_
    rintro entry _ different rfl
    exact different Std.ReflCmp.compare_self
  refine (List.perm_ext_iff_of_nodup (distinct _)
    (List.nodup_cons.mpr ⟨fun member => ?_, distinct _⟩)).mpr fun entry => ?_
  · rw [Std.ExtTreeMap.mem_toList_iff_getElem?_eq_some,
      Std.ExtTreeMap.getElem?_erase_self] at member
    cases member
  · obtain ⟨other, content⟩ := entry
    rw [List.mem_cons, Std.ExtTreeMap.mem_toList_iff_getElem?_eq_some,
      Std.ExtTreeMap.mem_toList_iff_getElem?_eq_some, Std.ExtTreeMap.getElem?_erase, Prod.mk.injEq]
    by_cases same : point = other
    · subst same
      simp [found, eq_comm]
    · simp [same, Ne.symm same]

/-- The beepers on all cells are those on one cell and those on the other cells. -/
theorem beepers_eq (inside : grid.bounds.contains point = true) :
    grid.beepers = (grid.get point).count.toNat +
      ((grid.stored.erase point).toList.map fun entry => entry.2.count.toNat).sum := by
  unfold beepers toList get
  rw [if_pos inside]
  cases found : grid.stored[point]? with
  | none =>
      have same : grid.stored.erase point = grid.stored := by
        refine Std.ExtTreeMap.ext_getElem? fun other => ?_
        rw [Std.ExtTreeMap.getElem?_erase]
        split
        next equal => rw [← Std.LawfulEqCmp.eq_of_compare equal, found]
        next => rfl
      rw [same]
      exact (Nat.zero_add _).symm
  | some tile => exact ((toList_perm found).map _).sum_nat

/-- Exchanging the tile of a cell exchanges its beepers. -/
theorem beepers_set (inside : grid.bounds.contains point = true) (tile : Tile) :
    (grid.set point tile).beepers + (grid.get point).count.toNat =
      grid.beepers + tile.count.toNat := by
  have others : (grid.set point tile).stored.erase point = grid.stored.erase point := by
    refine Std.ExtTreeMap.ext_getElem? fun other => ?_
    by_cases same : Point.readingOrder point other = .eq
    · simp [same]
    · by_cases blank : tile = .empty <;> simp [set, blank, inside, same,
        Std.ExtTreeMap.getElem?_erase, Std.ExtTreeMap.getElem?_insert]
  have written : (grid.set point tile).get point = tile := by
    rw [get_set, if_pos ⟨inside, rfl⟩]
  have outside := beepers_eq ((bounds_set grid point tile).symm ▸ inside)
  rw [others, written] at outside
  rw [outside, beepers_eq inside]
  omega

end Grid

namespace Tile

theorem count_ofCount (count : BeeperCount) : (ofCount count).count = count := by
  unfold ofCount Pile.ofCount?
  split
  next found =>
    split at found
    next => cases found; rfl
    next => cases found
  next found =>
    split at found
    next => cases found
    next zero => exact (not_not.mp zero).symm

/-- A cell on which a beeper is put has one more of them, unless there are too many to count. -/
theorem count_withBeeper (tile : Tile) : tile.withBeeper.count = tile.count.more := by
  cases tile <;> rfl

end Tile

/-- A count that is not at its end grows by one. -/
theorem BeeperCount.toNat_more_of_lt {count : BeeperCount} (room : count.toNat < 4294967295) :
    count.more.toNat = count.toNat + 1 := by
  rw [toNat_more]
  omega

theorem BeeperCount.toNat_sub_one {count : BeeperCount} (some : count ≠ 0) :
    (count - 1).toNat + 1 = count.toNat := by
  have positive : 0 < count.toNat := Nat.pos_of_ne_zero fun zero => some (UInt32.toNat_inj.mp zero)
  have one : (1 : BeeperCount) ≤ count := UInt32.le_iff_toNat_le.mpr positive
  rw [UInt32.toNat_sub_of_le _ _ one, UInt32.toNat_one]
  omega

namespace World

variable {world next : World} {total : Nat}

/-- The bag can be counted, and so many beepers are in it and on all cells together. -/
def Counts (world : World) (total : Nat) : Prop :=
  ∃ count, world.robot.bag = .counted count ∧ count.toNat + world.grid.beepers = total

/-- A sound world with so many beepers. -/
structure Balanced (total : Nat) (world : World) : Prop where
  sound : world.Sound
  counted : world.Counts total

/-- No count is at its end when it has to grow: neither the bag while Karel stands on beepers, nor the
pile under Karel while there are beepers in the bag. -/
structure Roomy (world : World) : Prop where
  bag : ∀ pile count, world.tileHere = .beepers pile → world.robot.bag = .counted count →
    count.more.toNat = count.toNat + 1
  pile : ∀ pile, world.tileHere = .beepers pile → world.robot.bag.hasBeeper = true →
    pile.grow.count.toNat = pile.count.toNat + 1

/-- The beepers under Karel are among those on all cells. -/
theorem Sound.count_here_le (sound : world.Sound) :
    world.tileHere.count.toNat ≤ world.grid.beepers := by
  rw [Grid.beepers_eq sound.contains_position]
  exact Nat.le_add_right _ _

theorem pile_pos (pile : Pile) : 0 < pile.count.toNat :=
  Nat.pos_of_ne_zero fun zero => pile.count_ne_zero (UInt32.toNat_inj.mp zero)

/-- If all beepers together are one count, no part of them is at the end when it has to grow. -/
theorem Balanced.roomy (balanced : Balanced total world) (fits : total ≤ 4294967295) :
    world.Roomy := by
  obtain ⟨sound, held, bag, sum⟩ := balanced
  have here := sound.count_here_le
  refine ⟨fun pile count standing carried => ?_, fun pile standing carrying => ?_⟩
  · rw [bag, Bag.counted.injEq] at carried
    rw [standing] at here
    have some : 0 < (Tile.beepers pile).count.toNat := pile_pos pile
    subst carried
    exact BeeperCount.toNat_more_of_lt (by omega)
  · rw [bag, Bag.hasBeeper, decide_eq_true_eq, UInt32.lt_iff_toNat_lt, UInt32.toNat_zero]
      at carrying
    rw [standing] at here
    have same : (Tile.beepers pile).count.toNat = pile.count.toNat := rfl
    exact BeeperCount.toNat_more_of_lt (by omega)

/-- A step leaves every beeper where it is. -/
theorem Balanced.move (balanced : Balanced total world) (moved : world.move = .ok next) :
    Balanced total next := by
  obtain ⟨front, -, passable, rfl⟩ := move_eq_ok_iff.mp moved
  exact ⟨⟨passable, balanced.sound.grid⟩, balanced.counted⟩

/-- A picked beeper goes from Karel's cell into the bag. -/
theorem Balanced.pick (balanced : Balanced total world) (fits : total ≤ 4294967295)
    (picked : world.pick = .ok next) : Balanced total next := by
  have roomy := balanced.roomy fits
  obtain ⟨sound, count, bag, sum⟩ := balanced
  obtain ⟨pile, standing, rfl⟩ := pick_eq_ok_iff.mp picked
  refine ⟨sound.setHere rfl (isBlocking_ofCount _), count.more, ?_, ?_⟩
  · show world.robot.bag.gain = .counted count.more
    rw [bag]
    rfl
  · have exchanged := Grid.beepers_set sound.contains_position (.ofCount (pile.count - 1))
    have here : (world.grid.get world.robot.position).count = pile.count := congrArg _ standing
    have gained := roomy.bag pile count standing bag
    have left := BeeperCount.toNat_sub_one pile.count_ne_zero
    rw [here, Tile.count_ofCount] at exchanged
    dsimp only
    omega

/-- A beeper that is put goes from the bag to Karel's cell. -/
theorem Balanced.put (balanced : Balanced total world) (fits : total ≤ 4294967295)
    (given : world.put = .ok next) : Balanced total next := by
  obtain ⟨sound, count, bag, sum⟩ := balanced
  obtain ⟨left, spent, rfl⟩ := put_eq_ok_iff.mp given
  rw [bag, Bag.spend?] at spent
  split at spent
  next => cases spent
  next some =>
    cases spent
    refine ⟨sound.setHere rfl (isBlocking_withBeeper _), count - 1, rfl, ?_⟩
    have exchanged := Grid.beepers_set sound.contains_position world.tileHere.withBeeper
    have here : world.grid.get world.robot.position = world.tileHere := rfl
    have under := sound.count_here_le
    have taken := BeeperCount.toNat_sub_one some
    rw [here, Tile.count_withBeeper, BeeperCount.toNat_more_of_lt (by omega)] at exchanged
    dsimp only
    omega

/-- Everything that Karel can be told or asked keeps a world balanced, be it done or refused. -/
theorem drivable_preserves_balanced (fits : total ≤ 4294967295) : Drivable.Corresponds
    (fun action (_ : Act World Refusal Unit) =>
      action.Preserves (Balanced total) fun _ => Balanced total)
    fun check (_ : Act World Refusal Bool) =>
      check.Preserves (Balanced total) fun _ => Balanced total where
  skip := .pure ()
  move := .change fun _ _ => Balanced.move
  turnLeft := .update fun _ ⟨sound, counted⟩ => ⟨⟨sound.passable, sound.grid⟩, counted⟩
  turnRight := .update fun _ ⟨sound, counted⟩ => ⟨⟨sound.passable, sound.grid⟩, counted⟩
  pick := .change fun _ _ balanced => balanced.pick fits
  put := .change fun _ _ balanced => balanced.put fits
  frontIsBlocked := .ask _
  frontIsTreasure := .ask _
  beeperIsPresent := .ask _
  isFacing _ := .ask _

/-- Something that Karel can be told or asked. -/
inductive Errand
  | move
  | turnLeft
  | turnRight
  | pick
  | put
  | frontIsBlocked
  | frontIsTreasure
  | beeperIsPresent
  | isFacing (direction : Direction)

/-- The act that an errand is, without the answer that it may give. -/
def Errand.act : Errand → Act World Refusal Unit
  | move => Drivable.move
  | turnLeft => Drivable.turnLeft
  | turnRight => Drivable.turnRight
  | pick => Drivable.pick
  | put => Drivable.put
  | frontIsBlocked => do let _ ← Drivable.frontIsBlocked
  | frontIsTreasure => do let _ ← Drivable.frontIsTreasure
  | beeperIsPresent => do let _ ← Drivable.beeperIsPresent
  | isFacing direction => do let _ ← Drivable.isFacing direction

/-- The world that a sequence of errands leaves behind, be each of them done or refused. -/
def afterErrands (world : World) (errands : List Errand) : World :=
  errands.foldl (fun world errand => (errand.act.apply world).2) world

theorem Errand.preserves_balanced (fits : total ≤ 4294967295) (errand : Errand) :
    errand.act.Preserves (Balanced total) fun _ => Balanced total := by
  have acts := drivable_preserves_balanced fits
  cases errand with
  | move => exact acts.move
  | turnLeft => exact acts.turnLeft
  | turnRight => exact acts.turnRight
  | pick => exact acts.pick
  | put => exact acts.put
  | frontIsBlocked => exact .bind acts.frontIsBlocked fun _ => .pure ()
  | frontIsTreasure => exact .bind acts.frontIsTreasure fun _ => .pure ()
  | beeperIsPresent => exact .bind acts.beeperIsPresent fun _ => .pure ()
  | isFacing direction => exact .bind (acts.isFacing direction) fun _ => .pure ()

theorem Balanced.afterErrands (balanced : Balanced total world) (fits : total ≤ 4294967295)
    (errands : List Errand) : Balanced total (world.afterErrands errands) := by
  induction errands generalizing world with
  | nil => exact balanced
  | cons errand rest inductionHypothesis =>
      exact inductionHypothesis ((errand.preserves_balanced fits).after balanced)

/-- The machine of programs touches the world through the usual words alone. -/
theorem Balanced.run (balanced : Balanced total world) (fits : total ≤ 4294967295)
    (program : Program) {observe : Step → Act World Refusal Unit}
    (looks : ∀ step world, ((observe step).apply world).2 = world) (steps : Nat) :
    Balanced total ((program.run .standard observe steps).apply world).2 := by
  have words : (.standard : Vocabulary World Refusal).Judged (Act.preservation (Balanced total))
      fun _ => Balanced total :=
    Vocabulary.standard_judged (drivable_preserves_balanced fits)
  have shows : ∀ step, (observe step).Preserves (Balanced total) fun _ => Balanced total :=
    fun step => .of_after fun world balanced => (looks step world).symm ▸ balanced
  have kept := program.run_preserves words shows steps
  rcases ran : (program.run .standard observe steps).apply world with ⟨failure | left, next⟩
  · cases (kept world balanced).of_error ran with
    | fault holds => exact holds
    | act holds => exact holds
  · exact (kept world balanced).of_ok ran

/-- If Karel's bag can be counted and all beepers together are no more than one count can be, their
number never changes, whatever Karel is told and asked and whether it succeeds or is refused, and also
at every point of every run of a program. No count is ever at its end when it has to grow. -/
theorem Reachable.beepers_conserved (reachable : world.Reachable) {count : BeeperCount}
    (bag : world.robot.bag = .counted count)
    (fits : count.toNat + world.grid.beepers ≤ 4294967295) :
    (∀ errands : List Errand,
      (world.afterErrands errands).Counts (count.toNat + world.grid.beepers) ∧
        (world.afterErrands errands).Roomy) ∧
    ∀ (program : Program) (observe : Step → Act World Refusal Unit),
      (∀ step state, ((observe step).apply state).2 = state) → ∀ steps : Nat,
        ((program.run .standard observe steps).apply world).2.Counts
            (count.toNat + world.grid.beepers) ∧
          ((program.run .standard observe steps).apply world).2.Roomy := by
  have balanced : Balanced (count.toNat + world.grid.beepers) world :=
    ⟨reachable.sound, count, bag, rfl⟩
  constructor
  · intro errands
    have last := balanced.afterErrands fits errands
    exact ⟨last.counted, last.roomy fits⟩
  · intro program observe looks steps
    have last := balanced.run fits program looks steps
    exact ⟨last.counted, last.roomy fits⟩

/-- Karel on a single beeper, with as many beepers in its bag as there can be besides. -/
def fullWorld : World where
  robot := { Robot.initial with bag := .counted 4294967294 }
  grid := (Grid.empty (.finite 2 1)).set .origin (.ofCount 1)

/-- Karel picks the beeper, finds no other, moves on and puts one, and all that time the beepers are as
many as can be counted. So they are in all runs of programs that start there. -/
theorem beepers_conserved_full :
    fullWorld.Reachable ∧ fullWorld.robot.bag = .counted 4294967294 ∧
      (4294967294 : BeeperCount).toNat + fullWorld.grid.beepers = 4294967295 ∧
      (fullWorld.afterErrands [.pick, .pick, .beeperIsPresent, .move, .put]).robot.bag =
        .counted 4294967294 ∧
      (fullWorld.afterErrands [.pick, .pick, .beeperIsPresent, .move, .put]).Counts 4294967295 ∧
      ∀ (program : Program) (steps : Nat), ((program.run .standard (fun _ => pure ()) steps).apply
        fullWorld).2.Counts 4294967295 := by
  have reachable : fullWorld.Reachable :=
    .placed ((Grid.Built.empty _).set _ _) (place_eq_ok_iff.mpr ⟨rfl, rfl⟩)
  have whole : (4294967294 : BeeperCount).toNat + fullWorld.grid.beepers = 4294967295 := by decide
  have conserved := reachable.beepers_conserved rfl (Nat.le_of_eq whole)
  rw [whole] at conserved
  refine ⟨reachable, rfl, whole, by decide, (conserved.1 _).1, fun program steps => ?_⟩
  exact (conserved.2 program (fun _ => pure ()) (fun _ _ => rfl) steps).1

end World

end Karel
