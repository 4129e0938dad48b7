import Karel.Proofs.MapText.PictureGrammar

/-!
# A robot of the caller's own

A caller may bring a robot that takes the place of the one in the map. Then arrows do not place
Karel, so a picture can have any number of them, and a second one is not a fault. `Eased` compares
the two readings of a picture after any of its cells: they have found the same tiles, or they were
both refused for the same reason, or a second arrow refused the one while the other goes on from
there. `read_own_robot` is what this means for whole maps in both styles.
-/

namespace Karel.MapText

/-- Whether a fault lies behind a cell, in reading order: in a later line, or in a later column of
the same line. -/
def Fault.IsAfter (line column : Nat) : Fault → Prop
  | ragged later _ _ => line < later
  | invalidToken later other _ => line < later ∨ line = later ∧ column < other
  | empty | header _ _ | duplicateRobot _ _ _ | missingRobot => False

/-- What a scene shows of the rows of a text, whoever Karel is: it has their size, and each
character tells the tile of its cell, which is empty under an arrow. This holds as far as
coordinates can count the rows and the columns. -/
structure ShowsGround (text : String) (scene : Scene) : Prop where
  height : scene.height = .ofNat (contentRows text).length
  width : ∀ line ∈ contentRows text, scene.width = .ofNat line.length
  bounds : scene.grid.bounds = .finite scene.width scene.height
  cells : Measurable text ↔ scene.height.toInt = (contentRows text).length ∧
    (∀ line ∈ contentRows text, scene.width.toInt = line.length) ∧
    ∀ column row character, cellAt? (contentRows text) column row = some character →
      scene.grid.get ⟨.ofNat column, .ofNat row⟩ = characterTile character

/-- How what is read with arrows that place Karel stands to what is read with arrows that do not. -/
inductive Eased : Except Fault Draft → Except Fault Draft → Prop
  | read {draft other} (tiles : other.tiles = draft.tiles) : Eased (.ok draft) (.ok other)
  | refused {fault} (some : fault ≠ .missingRobot)
      (single : ∀ line column first, fault ≠ .duplicateRobot line column first) :
      Eased (.error fault) (.error fault)
  | passed {line column first other} :
      Eased (.error (.duplicateRobot line column first)) (.ok other)
  | later {line column first fault} (after : fault.IsAfter line column) :
      Eased (.error (.duplicateRobot line column first)) (.error fault)

variable {style : Style} {arrowsPlace : Bool} {number row column width : Nat}
  {cells : List (List Char)} {lines : List NumberedLine} {draft other : Draft} {fault : Fault}
  {scene : Scene} {robot : Robot} {text : String}

/-! ## Where faults lie -/

theorem Fault.IsAfter.of_lt {line : Nat} (after : fault.IsAfter line column) (less : number < line)
    (place : Nat) : fault.IsAfter number place := by
  cases fault with
  | ragged later => exact Nat.lt_trans less after
  | invalidToken later =>
      rcases after with after | ⟨rfl, -⟩
      · exact .inl (Nat.lt_trans less after)
      · exact .inl less
  | empty | header | duplicateRobot | missingRobot => exact after

/-- What is wrong with the cells from a column on lies behind the columns before it. -/
theorem isAfter_of_readCells
    (refused : readCells style false number row column cells draft = .error fault) :
    fault.IsAfter number column := by
  obtain ⟨front, token, back, middle, -, -, unknown | ⟨-, places, -⟩⟩ :=
    readCells_eq_error_iff.mp refused
  · exact .inr ⟨rfl, by omega⟩
  · cases places

/-- What is wrong with later lines lies behind all cells of a line. -/
theorem isAfter_of_readRows (below : ∀ line ∈ lines, number < line.number)
    (refused : readRows style false width row lines draft = .error fault) (place : Nat) :
    fault.IsAfter number place := by
  obtain ⟨before, bad, after, middle, rfl, -, uneven | ⟨-, cells⟩⟩ :=
    readRows_eq_error_iff.mp refused
  · exact below bad (by simp)
  · exact (isAfter_of_readCells cells).of_lt (below bad (by simp)) place

/-- A second arrow is found in the line that is read. -/
theorem line_of_readCells {line place : Nat} {first : Point}
    (refused : readCells style arrowsPlace number row column cells draft =
      .error (.duplicateRobot line place first)) : line = number := by
  obtain ⟨front, token, back, middle, -, -, fails⟩ := readCells_eq_error_iff.mp refused
  cases fails
  rfl

/-- The lines with content are in the order of their numbers. -/
theorem pairwise_contentLines (text : List Char) :
    (contentLines text).Pairwise fun line later => line.number < later.number := by
  have numbered : ((Text.lines text).zipIdx 1).Pairwise fun line later => line.2 < later.2 := by
    rw [← List.pairwise_map (f := Prod.snd), List.zipIdx_map_snd]
    exact List.pairwise_lt_range'
  refine numbered.filterMap _ ?_
  rintro ⟨line, number⟩ ⟨other, later⟩ less kept keptLine keptLater laterLine
  dsimp only at keptLine laterLine
  split at keptLine
  next => cases keptLine
  next =>
    split at laterLine
    next => cases laterLine
    next =>
      cases keptLine
      cases laterLine
      exact less

/-! ## The two readings -/

/-- The two readings of the cells of a row. The induction is on the cells; only the tiles have to be
the same before, since the one reading has the first arrow in its draft and the other has not. -/
theorem readCells_eased (tiles : other.tiles = draft.tiles) :
    Eased (readCells style true number row column cells draft)
      (readCells style false number row column cells other) := by
  induction cells generalizing column draft other with
  | nil => exact .read tiles
  | cons token rest inductionHypothesis =>
      unfold readCells
      cases style.mark? token with
      | none => exact .refused (by simp) (by simp)
      | some mark =>
          dsimp only
          cases mark with
          | tile content =>
              cases content with
              | empty => exact inductionHypothesis tiles
              | wall | treasure | beepers =>
                  exact inductionHypothesis (congrArg (List.cons _) tiles)
          | robot facing =>
              cases placed : draft.placed with
              | none =>
                  simp only [Draft.enter, placed, Bool.false_eq_true, if_true, if_false]
                  exact inductionHypothesis tiles
              | some first =>
                  simp only [Draft.enter, placed, Bool.false_eq_true, if_true, if_false]
                  cases onward : readCells style false number row (column + 1) rest other with
                  | ok last => exact .passed
                  | error fault => exact .later (isAfter_of_readCells onward)

/-- The two readings of rows. -/
theorem readRows_eased (sorted : lines.Pairwise fun line later => line.number < later.number)
    (tiles : other.tiles = draft.tiles) :
    Eased (readRows style true width row lines draft)
      (readRows style false width row lines other) := by
  induction lines generalizing row draft other with
  | nil => exact .read tiles
  | cons line rest inductionHypothesis =>
      obtain ⟨below, sorted⟩ := List.pairwise_cons.mp sorted
      unfold readRows
      dsimp only
      split
      next => exact .refused (by simp) (by simp)
      next =>
        have eased : Eased (readCells style true line.number row 0 (style.cells line.content) draft)
            (readCells style false line.number row 0 (style.cells line.content) other) :=
          readCells_eased tiles
        generalize strict : readCells style true _ _ _ _ _ = placing at eased ⊢
        generalize readCells style false _ _ _ _ _ = free at eased ⊢
        cases eased with
        | read tiles => exact inductionHypothesis sorted tiles
        | refused some single => exact .refused some single
        | @passed found column first last =>
            obtain rfl := line_of_readCells strict
            dsimp only
            cases onward : readRows style false width (row + 1) rest last with
            | ok last => exact .passed
            | error fault => exact .later (isAfter_of_readRows below onward column)
        | later after => exact .later after

/-! ## Pictures -/

/-- What is read of a picture with a robot of the caller's own is what its characters show. -/
theorem eq_pictured_of_readBody
    (accepted : readBody .picture (some robot) false lines = .ok scene) :
    lines ≠ [] ∧ ∃ width rows, (∀ marks ∈ rows, marks.length = width) ∧
      List.Forall₂ (fun marks line => Depicts marks line.content) rows lines ∧
        scene = pictured width rows robot := by
  unfold readBody at accepted
  split at accepted
  next => cases accepted
  next first rest =>
    dsimp only at accepted
    split at accepted
    next => cases accepted
    next draft body =>
      obtain ⟨rows, depicts, even, gains⟩ := readRows_eq_ok_iff.mp body
      have tiles := gains.tiles.trans (List.append_nil _)
      cases accepted
      refine ⟨List.cons_ne_nil _ _, _, rows, even, depicts, ?_⟩
      rw [tiles, ← depicts.length_eq]
      rfl

/-- The characters of a picture tell the tiles of its cells, whoever Karel is. -/
theorem showsGround_of_read (accepted : read .picture (some robot) text = .ok scene) :
    scene.robot = robot ∧ ShowsGround text scene := by
  obtain ⟨some, width, rows, even, depicts, rfl⟩ := eq_pictured_of_readBody accepted
  have shows : ShowsMarks rows (contentRows text) := by
    rw [← map_trimmed_contentLines]
    exact List.forall₂_map_right_iff.mpr depicts
  have evens := (forall_length_eq_iff shows).mp even
  have height : (pictured width rows robot).height = .ofNat (contentRows text).length :=
    congrArg Int32.ofNat shows.length_eq
  have sides : ∀ line ∈ contentRows text, (pictured width rows robot).width = .ofNat line.length :=
    fun line member => congrArg Int32.ofNat (evens line member).symm
  have high_iff := height ▸ Coordinate.toInt_ofNat_iff
  have wide_iff : ∀ line ∈ contentRows text,
      (pictured width rows robot).width.toInt = line.length ↔ line.length ≤ Coordinate.greatest :=
    fun line member => sides line member ▸ Coordinate.toInt_ofNat_iff
  refine ⟨rfl, height, sides, Grid.bounds_ofList _ _, ?_, ?_⟩
  · rintro ⟨high, wide⟩
    refine ⟨high_iff.mpr high, fun line member => (wide_iff line member).mpr (wide line member), ?_⟩
    obtain ⟨line, member⟩ : ∃ line, line ∈ contentRows text := by
      rw [← map_trimmed_contentLines]
      exact List.exists_mem_of_ne_nil _ (by simpa using some)
    exact fun _ _ _ => get_pictured shows evens (evens line member ▸ wide line member) high
  · rintro ⟨high, wide, -⟩
    exact ⟨high_iff.mp high, fun line member => (wide_iff line member).mp (wide line member)⟩

/-! ## Both styles -/

/-- A robot of the caller's own and the one of the header lead to the same faults, and to scenes
that differ in the robot only. -/
theorem readBody_robot (robot other : Robot) :
    readBody style (some robot) arrowsPlace lines =
      (readBody style (some other) arrowsPlace lines).map fun scene =>
        { scene with robot := robot } := by
  unfold readBody
  cases lines with
  | nil => rfl
  | cons first rest =>
      dsimp only
      cases readRows style arrowsPlace (style.cells first.content).length 0 (first :: rest) {} <;>
        rfl

/-- A robot of the caller's own is the one of the scene. -/
theorem robot_of_read (accepted : read style (some robot) text = .ok scene) :
    scene.robot = robot := by
  have own : ∀ {arrowsPlace lines}, readBody style (some robot) arrowsPlace lines = .ok scene →
      scene.robot = robot := by
    intro arrowsPlace lines body
    have same : readBody style (some robot) arrowsPlace lines = _ := readBody_robot robot robot
    rw [body] at same
    exact congrArg (·.robot) (Except.ok.inj same)
  unfold read at accepted
  cases style with
  | picture => exact own accepted
  | table =>
      dsimp only at accepted
      split at accepted
      next => cases accepted
      next =>
        split at accepted
        next => cases accepted
        next => exact own accepted

/-- Where no arrow places Karel, there is no second one, and with a robot of its own no map lacks
one. -/
theorem single_of_readBody
    (refused : readBody style (some robot) false lines = .error fault) :
    fault ≠ .missingRobot ∧ ∀ line column first, fault ≠ .duplicateRobot line column first := by
  rcases readBody_eq_error_iff.mp refused with ⟨-, rfl⟩ | fails | ⟨-, -, -, -, none, -⟩
  · exact ⟨by simp, by simp⟩
  · cases fails with
    | ragged => exact ⟨by simp, by simp⟩
    | cell _ _ _ _ fails =>
        cases fails with
        | token => exact ⟨by simp, by simp⟩
        | arrow _ places => cases places
  · cases none

/-- How what is read of a map without a robot of the caller's own stands to what is read with it. -/
inductive Overridden (style : Style) (text : String) (robot : Robot) :
    Except Fault Scene → Except Fault Scene → Prop
  | read {scene : Scene} : Overridden style text robot (.ok scene) (.ok { scene with robot := robot })
  | missing {scene : Scene} (picture : style = .picture) (own : scene.robot = robot)
      (shows : ShowsGround text scene) :
      Overridden style text robot (.error .missingRobot) (.ok scene)
  | passed {line column : Nat} {first : Point} {scene : Scene} (picture : style = .picture)
      (own : scene.robot = robot) (shows : ShowsGround text scene) :
      Overridden style text robot (.error (.duplicateRobot line column first)) (.ok scene)
  | later {line column : Nat} {first : Point} {fault : Fault} (picture : style = .picture)
      (after : fault.IsAfter line column) :
      Overridden style text robot (.error (.duplicateRobot line column first)) (.error fault)
  | refused {fault : Fault} (some : fault ≠ .missingRobot)
      (single : ∀ line column first, fault ≠ .duplicateRobot line column first) :
      Overridden style text robot (.error fault) (.error fault)

theorem overridden_picture (text : String) (robot : Robot) :
    Overridden .picture text robot (read .picture none text) (read .picture (some robot) text) := by
  have told : ∀ scene, read .picture (some robot) text = .ok scene →
      scene.robot = robot ∧ ShowsGround text scene := fun scene => showsGround_of_read
  have sorted := pairwise_contentLines text.toList
  change ∀ scene, readBody .picture (some robot) false (contentLines text.toList) = .ok scene → _
    at told
  show Overridden .picture text robot (readBody .picture none true (contentLines text.toList))
    (readBody .picture (some robot) false (contentLines text.toList))
  generalize contentLines text.toList = lines at told sorted ⊢
  cases lines with
  | nil => exact .refused (by simp) (by simp)
  | cons first rest =>
      have eased : Eased
          (readRows .picture true (Style.picture.cells first.content).length 0 (first :: rest) {})
          (readRows .picture false (Style.picture.cells first.content).length 0 (first :: rest) {}) :=
        readRows_eased sorted rfl
      unfold readBody at told ⊢
      dsimp only at told ⊢
      generalize readRows .picture true _ _ _ _ = placing at eased ⊢
      generalize readRows .picture false _ _ _ _ = free at eased told ⊢
      cases eased with
      | @read draft other tiles =>
          obtain ⟨placed, found⟩ := draft
          obtain rfl : other.tiles = found := tiles
          cases placed with
          | none =>
              obtain ⟨own, shows⟩ := told _ rfl
              exact .missing rfl own shows
          | some shown => exact @Overridden.read _ _ _ ⟨shown, _, _, _⟩
      | refused some single => exact .refused some single
      | passed =>
          obtain ⟨own, shows⟩ := told _ rfl
          exact .passed rfl own shows
      | later after => exact .later rfl after

theorem overridden_table (text : String) (robot : Robot) :
    Overridden .table text robot (read .table none text) (read .table (some robot) text) := by
  unfold read
  cases contentLines text.toList with
  | nil => exact .refused (by simp) (by simp)
  | cons header rows =>
      dsimp only
      cases readHeader header.content with
      | error reason => exact .refused (by simp) (by simp)
      | ok told =>
          show Overridden .table text robot (readBody .table (some told) false rows)
            (readBody .table (some robot) false rows)
          rw [readBody_robot robot told]
          cases body : readBody .table (some told) false rows with
          | ok scene => exact .read
          | error fault =>
              obtain ⟨some, single⟩ := single_of_readBody body
              exact .refused some single

/-- A robot of the caller's own takes the place of the one in the map and changes nothing else. What
is read of the map is the same but for the robot, and so is any fault, unless it is that arrows
place Karel not at all or twice: then the tiles are read all the same, or a fault is found behind
the second arrow. -/
theorem read_own_robot (style : Style) (text : String) (robot : Robot) :
    Overridden style text robot (read style none text) (read style (some robot) text) := by
  cases style with
  | picture => exact overridden_picture text robot
  | table => exact overridden_table text robot

/-- The second arrow of a picture hides a bad character behind it, and one that places nobody does
not. -/
example (robot : Robot) :
    read .picture none ".>\n\n<x" = .error (.duplicateRobot 3 1 ⟨1, 0⟩) ∧
      read .picture (some robot) ".>\n\n<x" = .error (.invalidToken 3 2 "x") :=
  ⟨rfl, rfl⟩

end Karel.MapText
