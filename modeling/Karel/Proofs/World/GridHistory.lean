import Karel.Proofs.World.Reachable
import Mathlib.Data.List.Induction
import Mathlib.Data.Set.Card

/-!
# What a grid remembers

A grid only stores the cells that are not empty, and forgets what a change of the borders leaves
out. What it shows of a cell depends on its whole history, and `Remembers` says how: it is the last
tile that was written while the cell was inside the borders of that time, unless a later change of
the borders left the cell out. The history is told without storing anything;
`Event.stored_afterAll_iff` is that the two agree after every event, and `afterEdits_tells` is what
follows for grids that come about by lists of tiles, writes and changes of the borders in any order.
-/

namespace Karel.Grid

/-- What happens to a grid. -/
inductive Event
  /-- It is made anew, without tiles. -/
  | made (bounds : Bounds)
  | wrote (point : Point) (tile : Tile)
  | bounded (bounds : Bounds)

namespace Event

/-- The borders that an event sets. -/
def bounds? : Event → Option Bounds
  | made bounds => some bounds
  | wrote _ _ => none
  | bounded bounds => some bounds

/-- Whether what is on a cell outlasts an event that does not write there. -/
def Spares (point : Point) : Event → Prop
  | made _ => False
  | wrote _ _ => True
  | bounded bounds => bounds.contains point = true

end Event

/-- The borders after a history. There are none at its start. -/
def lastBounds (history : List Event) : Bounds :=
  (history.filterMap Event.bounds?).getLast?.getD .unbounded

/-- The tile is the last one that was written to the cell while that was inside the borders, and no
later event left the cell out. -/
inductive Remembers (history : List Event) (point : Point) (tile : Tile) : Prop
  | written (before after : List Event) (split : history = before ++ .wrote point tile :: after)
      (inside : (lastBounds before).contains point = true)
      (last : ∀ middle other rest, after = middle ++ .wrote point other :: rest →
        (lastBounds (before ++ .wrote point tile :: middle)).contains point = false)
      (kept : ∀ event ∈ after, event.Spares point)

/-- What a grid tells of its history: the cells beyond the borders are walls, the others show the
tiles that are remembered of them or are empty, and those that are not empty are stored, each
once. -/
structure Tells (history : List Event) (grid : Grid) : Prop where
  bounds : grid.bounds = lastBounds history
  beyond : ∀ point, (lastBounds history).contains point = false → grid.get point = .wall
  remembered : ∀ point tile, Remembers history point tile → grid.get point = tile
  forgotten : ∀ point, (lastBounds history).contains point = true →
    (∀ tile, ¬ Remembers history point tile) → grid.get point = .empty
  once : (grid.toList.map Prod.fst).Nodup
  listed : ∀ point tile, (point, tile) ∈ grid.toList ↔
    (lastBounds history).contains point = true ∧ grid.get point = tile ∧ tile ≠ .empty
  counted : {point | (lastBounds history).contains point = true ∧
    grid.get point ≠ .empty}.encard = grid.size

/-- What can be done with a grid. A list of tiles makes a new one. -/
inductive Edit
  | make (bounds : Bounds) (tiles : List (Point × Tile))
  | write (point : Point) (tile : Tile)
  | bound (bounds : Bounds)

/-- The grid that an edit leaves. -/
def edited (grid : Grid) : Edit → Grid
  | .make bounds tiles => .ofList bounds tiles
  | .write point tile => grid.set point tile
  | .bound bounds => grid.setBounds bounds

/-- The grid that edits leave. -/
def afterEdits (edits : List Edit) : Grid := edits.foldl edited (.empty .unbounded)

/-- The edits that write tiles, in the order of a list. -/
def writes (tiles : List (Point × Tile)) : List Edit :=
  tiles.map fun entry => .write entry.1 entry.2

/-- What happens in an edit. A list of tiles is written tile by tile. -/
def Edit.events : Edit → List Event
  | make bounds tiles => .made bounds :: tiles.map fun entry => .wrote entry.1 entry.2
  | write point tile => [.wrote point tile]
  | bound bounds => [.bounded bounds]

/-- What happens in the course of edits. -/
def history (edits : List Edit) : List Event := edits.flatMap Edit.events

/-! ## One more event -/

variable {before : List Event} {event : Event} {point : Point} {tile : Tile} {bounds : Bounds}

@[simp]
theorem lastBounds_concat_made :
    lastBounds (before ++ [.made bounds]) = bounds := by
  simp [lastBounds, Event.bounds?]

@[simp]
theorem lastBounds_concat_bounded :
    lastBounds (before ++ [.bounded bounds]) = bounds := by
  simp [lastBounds, Event.bounds?]

@[simp]
theorem lastBounds_concat_wrote :
    lastBounds (before ++ [.wrote point tile]) = lastBounds before := by
  simp [lastBounds, Event.bounds?]

theorem not_remembers_nil : ¬ Remembers [] point tile := by
  rintro ⟨before, after, split, -⟩
  cases before <;> cases split

/-- After one more event a tile is remembered because it was written just now, or it was remembered
before and the event neither leaves the cell out nor writes on it. -/
theorem remembers_concat_iff :
    Remembers (before ++ [event]) point tile ↔
      (event = .wrote point tile ∧ (lastBounds before).contains point = true) ∨
        Remembers before point tile ∧ event.Spares point ∧
          ∀ other, event = .wrote point other → (lastBounds before).contains point = false := by
  constructor
  · rintro ⟨front, after, split, inside, last, kept⟩
    rcases after.eq_nil_or_concat with rfl | ⟨after, final, rfl⟩
    · obtain ⟨rfl, rfl⟩ := List.append_singleton_inj.mp split
      exact .inl ⟨rfl, inside⟩
    · rw [List.concat_eq_append, ← List.cons_append, ← List.append_assoc,
        List.append_singleton_inj] at split
      rw [List.concat_eq_append] at last kept
      obtain ⟨rfl, rfl⟩ := split
      refine .inr ⟨⟨front, after, rfl, inside, ?_, ?_⟩, kept _ (by simp), ?_⟩
      · rintro middle other rest rfl
        exact last middle other (rest ++ [event]) (by simp)
      · exact fun earlier member => kept earlier (List.mem_append_left _ member)
      · rintro other rfl
        exact last after other [] rfl
  · rintro (⟨rfl, inside⟩ | ⟨⟨front, after, rfl, inside, last, kept⟩, spared, silent⟩)
    · exact ⟨before, [], rfl, inside, by simp, by simp⟩
    · refine ⟨front, after ++ [event], by simp, inside, ?_, ?_⟩
      · intro middle other rest split
        rcases rest.eq_nil_or_concat with rfl | ⟨rest, final, rfl⟩
        · obtain ⟨rfl, rfl⟩ := List.append_singleton_inj.mp split
          exact silent other rfl
        · rw [List.concat_eq_append, ← List.cons_append, ← List.append_assoc,
            List.append_singleton_inj] at split
          exact last middle other rest split.1
      · exact List.forall_mem_append.mpr ⟨kept, List.forall_mem_singleton.mpr spared⟩

/-- What is remembered is inside the borders. -/
theorem Remembers.inside {history : List Event} (remembers : Remembers history point tile) :
    (lastBounds history).contains point = true := by
  induction history using List.reverseRecOn with
  | nil => exact (not_remembers_nil remembers).elim
  | append_singleton before event inductionHypothesis =>
      rcases remembers_concat_iff.mp remembers with ⟨rfl, inside⟩ | ⟨earlier, spared, -⟩
      · rwa [lastBounds_concat_wrote]
      · cases event with
        | made bounds => exact spared.elim
        | wrote other written =>
            rw [lastBounds_concat_wrote]
            exact inductionHypothesis earlier
        | bounded bounds => rwa [lastBounds_concat_bounded]

/-- One tile of a cell is remembered. -/
theorem Remembers.unique {history : List Event} {other : Tile}
    (remembers : Remembers history point tile) (same : Remembers history point other) :
    tile = other := by
  induction history using List.reverseRecOn with
  | nil => exact (not_remembers_nil remembers).elim
  | append_singleton before event inductionHypothesis =>
      rcases remembers_concat_iff.mp remembers with ⟨rfl, inside⟩ | ⟨earlier, -, silent⟩ <;>
        rcases remembers_concat_iff.mp same with ⟨written, within⟩ | ⟨otherwise, -, unwritten⟩
      · cases written
        rfl
      · rw [unwritten tile rfl] at inside
        cases inside
      · rw [silent other written] at within
        cases within
      · exact inductionHypothesis earlier otherwise

/-! ## What is stored -/

/-- The grid after an event. -/
def Event.after (grid : Grid) : Event → Grid
  | made bounds => .empty bounds
  | wrote point tile => grid.set point tile
  | bounded bounds => grid.setBounds bounds

/-- The grid after a history. -/
def Event.afterAll (history : List Event) : Grid :=
  history.foldl Event.after (.empty .unbounded)

theorem Event.afterAll_concat (history : List Event) (event : Event) :
    afterAll (history ++ [event]) = event.after (afterAll history) := by
  rw [afterAll, List.foldl_append]
  rfl

theorem Event.bounds_afterAll (history : List Event) :
    (afterAll history).bounds = lastBounds history := by
  induction history using List.reverseRecOn with
  | nil => rfl
  | append_singleton before event inductionHypothesis =>
      rw [afterAll_concat]
      cases event with
      | made bounds => exact lastBounds_concat_made.symm
      | wrote point tile =>
          rw [lastBounds_concat_wrote, ← inductionHypothesis]
          exact bounds_set _ point tile
      | bounded bounds => exact lastBounds_concat_bounded.symm

theorem Event.built_afterAll (history : List Event) : Built (afterAll history) := by
  induction history using List.reverseRecOn with
  | nil => exact .empty .unbounded
  | append_singleton before event inductionHypothesis =>
      rw [afterAll_concat]
      cases event with
      | made bounds => exact .empty bounds
      | wrote point tile => exact inductionHypothesis.set point tile
      | bounded bounds => exact inductionHypothesis.setBounds bounds

/-- What is stored is what is remembered and not empty. The induction is on the history from its
end: every event changes both in the same way. -/
theorem Event.stored_afterAll_iff {history : List Event} :
    (afterAll history).stored[point]? = some tile ↔
      tile ≠ .empty ∧ Remembers history point tile := by
  induction history using List.reverseRecOn with
  | nil => simp [afterAll, empty, not_remembers_nil]
  | append_singleton before event inductionHypothesis =>
      rw [afterAll_concat, remembers_concat_iff]
      cases event with
      | made bounds => simp [after, empty, Spares]
      | bounded bounds =>
          simp only [after, setBounds, Std.ExtTreeMap.getElem?_filter', Option.filter_eq_some_iff,
            inductionHypothesis, Spares]
          simp [and_assoc]
      | wrote target written =>
          have built := built_afterAll before
          have earlier := built.sound.stored_iff.symm.trans inductionHypothesis
          rw [bounds_afterAll] at earlier
          simp only [after, Spares, wrote.injEq, true_and]
          rw [(built.set target written).sound.stored_iff, bounds_set, get_set, bounds_afterAll]
          by_cases own : (lastBounds before).contains point = true ∧ target = point
          · simp [own]
          · rw [if_neg own, earlier]
            refine and_congr_right fun _ => ⟨fun remembers => .inr ⟨remembers, ?_⟩, ?_⟩
            · rintro _ ⟨same, -⟩
              exact absurd ⟨remembers.inside, same⟩ own
            · rintro (⟨⟨same, -⟩, inside⟩ | ⟨remembers, -⟩)
              · exact absurd ⟨inside, same⟩ own
              · exact remembers

/-- What a cell inside the borders shows is what is remembered of it. -/
theorem Event.get_afterAll {history : List Event} (remembers : Remembers history point tile) :
    (afterAll history).get point = tile := by
  rw [get, bounds_afterAll, if_pos remembers.inside]
  by_cases blank : tile = .empty
  · cases found : (afterAll history).stored[point]? with
    | none => exact blank.symm
    | some other => exact ((stored_afterAll_iff.mp found).2.unique remembers)
  · rw [stored_afterAll_iff.mpr ⟨blank, remembers⟩]
    rfl

/-- A cell of which nothing is remembered is empty. -/
theorem Event.get_afterAll_of_forgotten {history : List Event}
    (inside : (lastBounds history).contains point = true)
    (forgotten : ∀ tile, ¬ Remembers history point tile) :
    (afterAll history).get point = .empty := by
  rw [get, bounds_afterAll, if_pos inside]
  cases found : (afterAll history).stored[point]? with
  | none => rfl
  | some other => exact absurd (stored_afterAll_iff.mp found).2 (forgotten other)

/-! ## What is listed -/

theorem nodup_toList (grid : Grid) : (grid.toList.map Prod.fst).Nodup := by
  refine List.pairwise_map.mpr (grid.stored.distinct_keys_toList.imp ?_)
  intro entry other different same
  exact different (same ▸ Std.ReflCmp.compare_self)

theorem Sound.mem_toList_iff {grid : Grid} (sound : grid.Sound) :
    (point, tile) ∈ grid.toList ↔
      grid.bounds.contains point = true ∧ grid.get point = tile ∧ tile ≠ .empty := by
  rw [toList, Std.ExtTreeMap.mem_toList_iff_getElem?_eq_some, sound.stored_iff]
  tauto

/-- The number of stored tiles is that of the cells that are not empty. -/
theorem Sound.encard_eq_size {grid : Grid} (sound : grid.Sound) :
    {point | grid.bounds.contains point = true ∧ grid.get point ≠ .empty}.encard = grid.size := by
  have cells : {point | grid.bounds.contains point = true ∧ grid.get point ≠ .empty} =
      ((grid.toList.map Prod.fst).toFinset : Set Point) := by
    ext point
    simp [sound.mem_toList_iff]
  rw [cells, Set.encard_coe_eq_coe_finsetCard, List.toFinset_card_of_nodup grid.nodup_toList,
    List.length_map, toList, Std.ExtTreeMap.length_toList, size]

/-- A grid tells of the events that it comes from. -/
theorem Event.tells_afterAll (history : List Event) : Tells history (afterAll history) := by
  have sound := (built_afterAll history).sound
  have bounds := bounds_afterAll history
  refine ⟨bounds, fun point outside => ?_, fun _ _ => get_afterAll,
    fun _ => get_afterAll_of_forgotten, nodup_toList _, fun point tile => ?_, ?_⟩
  · rw [get, bounds, outside]
    rfl
  · rw [sound.mem_toList_iff, bounds]
  · rw [← bounds]
    exact sound.encard_eq_size

/-! ## Edits -/

variable {grid : Grid} {tiles others : List (Point × Tile)}

theorem foldl_after_events (grid : Grid) (edit : Edit) :
    edit.events.foldl Event.after grid = grid.edited edit := by
  cases edit with
  | make bounds tiles => simp [Edit.events, edited, ofList, Event.after, List.foldl_map]
  | write point tile => rfl
  | bound bounds => rfl

theorem afterEdits_eq (edits : List Edit) : afterEdits edits = Event.afterAll (history edits) := by
  simp [afterEdits, Event.afterAll, history, List.foldl_flatMap, foldl_after_events]

/-- Writes to two cells can be exchanged. -/
theorem Sound.set_comm (sound : grid.Sound) {target other : Point} (apart : target ≠ other)
    (tile written : Tile) :
    (grid.set target tile).set other written = (grid.set other written).set target tile := by
  refine ((sound.set _ _).set _ _).ext ((sound.set _ _).set _ _) (by simp) fun point => ?_
  simp only [get_set, bounds_set]
  by_cases first : target = point
  · subst first
    simp [Ne.symm apart]
  · simp [first]

/-- The order of writes to different cells does not matter. -/
theorem Sound.foldl_set_perm (sound : grid.Sound) (permuted : tiles.Perm others)
    (apart : (tiles.map Prod.fst).Nodup) :
    tiles.foldl (fun grid entry => grid.set entry.1 entry.2) grid =
      others.foldl (fun grid entry => grid.set entry.1 entry.2) grid := by
  induction permuted generalizing grid with
  | nil => rfl
  | cons entry _ inductionHypothesis =>
      exact inductionHypothesis (sound.set _ _) (List.nodup_cons.mp apart).2
  | swap first second rest =>
      have different : second.1 ≠ first.1 := by
        intro same
        simp [same] at apart
      simp only [List.foldl_cons, sound.set_comm different]
  | trans first _ firstHypothesis secondHypothesis =>
      rw [firstHypothesis sound apart,
        secondHypothesis sound ((first.map Prod.fst).nodup_iff.mp apart)]

theorem afterEdits_append (edits more : List Edit) :
    afterEdits (edits ++ more) = more.foldl edited (afterEdits edits) :=
  List.foldl_append

/-- Whatever is done with grids, the one that is left tells of its history. Cells that one change of
the borders leaves out are empty when a later one takes them in again, and the order in which tiles
are written to different cells does not matter. -/
theorem afterEdits_tells (edits : List Edit) :
    Tells (history edits) (afterEdits edits) ∧
    (∀ smaller larger point, smaller.contains point = false → larger.contains point = true →
      (afterEdits (edits ++ [.bound smaller, .bound larger])).get point = .empty) ∧
    ∀ tiles others, tiles.Perm others → (tiles.map Prod.fst).Nodup →
      afterEdits (edits ++ writes tiles) = afterEdits (edits ++ writes others) ∧
      ∀ bounds, afterEdits (edits ++ [.make bounds tiles]) =
        afterEdits (edits ++ [.make bounds others]) := by
  have tells : ∀ edits, Tells (history edits) (afterEdits edits) := fun edits =>
    afterEdits_eq edits ▸ Event.tells_afterAll (history edits)
  refine ⟨tells edits, fun smaller larger point outside inside => ?_,
    fun tiles others permuted apart => ⟨?_, fun bounds => ?_⟩⟩
  · have told : history (edits ++ [.bound smaller, .bound larger]) =
        (history edits ++ [.bounded smaller]) ++ [.bounded larger] := by
      simp [history, Edit.events]
    refine (tells _).forgotten point (by rwa [told, lastBounds_concat_bounded]) fun tile => ?_
    rw [told, remembers_concat_iff]
    rintro (⟨written, -⟩ | ⟨earlier, -⟩)
    · cases written
    · have within := earlier.inside
      rw [lastBounds_concat_bounded, outside] at within
      cases within
  · have sound := (afterEdits_eq edits ▸ Event.built_afterAll (history edits)).sound
    simp only [afterEdits_append, writes, List.foldl_map]
    exact sound.foldl_set_perm permuted apart
  · simp only [afterEdits_append]
    exact (sound_empty bounds).foldl_set_perm permuted apart

/-- Two tiles of a list, and one that is written beyond the borders. -/
def gardenEdits : List Edit :=
  [.make (.finite 3 3) [(⟨0, 0⟩, .wall), (⟨2, 2⟩, .ofCount 4)], .write ⟨3, 1⟩ .treasure]

/-- The pile in the corner is found, and it does not come back once it was cut off. -/
theorem afterEdits_tells_garden :
    Remembers (history gardenEdits) ⟨2, 2⟩ (.ofCount 4) ∧
    (afterEdits gardenEdits).get ⟨2, 2⟩ = .ofCount 4 ∧
    (Bounds.finite 2 2).contains ⟨2, 2⟩ = false ∧ Bounds.unbounded.contains ⟨2, 2⟩ = true ∧
    (afterEdits (gardenEdits ++ [.bound (.finite 2 2), .bound .unbounded])).get ⟨2, 2⟩ = .empty := by
  have remembers : Remembers (history gardenEdits) ⟨2, 2⟩ (.ofCount 4) :=
    (Event.stored_afterAll_iff.mp (by decide +kernel)).2
  obtain ⟨tells, cut, -⟩ := afterEdits_tells gardenEdits
  exact ⟨remembers, tells.remembered _ _ remembers, rfl, rfl, cut _ _ _ rfl rfl⟩

end Karel.Grid
