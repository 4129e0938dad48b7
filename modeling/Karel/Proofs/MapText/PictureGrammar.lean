import Karel.Proofs.MapText.Faults
import Karel.Proofs.MapText.PictureRoundTrip

/-!
# The grammar of pictures

Which texts are pictures, and what a picture tells, said of the characters of the text. A text is a
picture if its rows have one length, have no other characters than those of tiles and arrows, and show
one arrow in all. Of any other text the first fault is found, which is `PictureFault`.
-/

namespace Karel.MapText

/-! ## Characters -/

/-- The tips of arrows. -/
def arrowCharacters : List Char := ['>', '^', '<', 'v']

/-- The characters that the rows of a picture can have. -/
def pictureCharacters : List Char := ".0123456789#$".toList ++ arrowCharacters

/-- The tile that a character of a picture stands for. There is none under Karel. -/
def characterTile (character : Char) : Tile :=
  if character = '#' then .wall
  else if character = '$' then .treasure
  else if character.isDigit then .ofCount (.ofNat (character.toNat - '0'.toNat))
  else .empty

variable {character : Char} {mark : Mark} {facing : Direction}

theorem mem_arrowCharacters_iff :
    character ∈ arrowCharacters ↔ ∃ facing : Direction, character = facing.glyph := by
  constructor
  · intro arrow
    simp only [arrowCharacters, List.mem_cons, List.not_mem_nil, or_false] at arrow
    rcases arrow with rfl | rfl | rfl | rfl
    · exact ⟨.east, rfl⟩
    · exact ⟨.north, rfl⟩
    · exact ⟨.west, rfl⟩
    · exact ⟨.south, rfl⟩
  · rintro ⟨facing, rfl⟩
    cases facing <;> decide

/-- The characters of a picture show marks with the tiles that they stand for. -/
theorem mark_of_mem_pictureCharacters : ∀ character ∈ pictureCharacters,
    ∃ mark, pictureMark? [character] = some mark ∧ mark.ground = characterTile character := by
  have shown : pictureCharacters.all (fun character => decide
      ((pictureMark? [character]).map Mark.ground = some (characterTile character))) = true := by
    decide
  intro character member
  have marked := of_decide_eq_true (List.all_eq_true.mp shown character member)
  obtain ⟨mark, found, ground⟩ := Option.map_eq_some_iff.mp marked
  exact ⟨mark, found, ground⟩

theorem glyph_mem_pictureCharacters (drawable : mark.Drawable) :
    mark.glyph ∈ pictureCharacters := by
  cases mark with
  | robot facing => cases facing <;> decide
  | tile content =>
      cases content with
      | empty | wall | treasure => decide
      | beepers pile =>
          have digits : ∀ value < 10, Nat.digitChar value ∈ pictureCharacters := by decide
          have small : pile.count.toNat < 10 := Nat.lt_succ_of_le drawable
          have shown : (Mark.tile (.beepers pile)).glyph = Nat.digitChar pile.count.toNat :=
            if_pos (UInt32.lt_iff_toNat_lt.mpr small)
          exact shown ▸ digits _ small

/-- No other character shows a mark. -/
theorem exists_mark_iff :
    (∃ mark, pictureMark? [character] = some mark) ↔ character ∈ pictureCharacters := by
  constructor
  · rintro ⟨mark, shown⟩
    obtain ⟨drawable, glyph⟩ := pictureMark?_eq_some_iff.mp shown
    have member := glyph_mem_pictureCharacters drawable
    rw [glyph, pointed] at member
    split at member
    next zero => exact zero ▸ by decide
    next => exact member
  · intro member
    obtain ⟨mark, shown, -⟩ := mark_of_mem_pictureCharacters character member
    exact ⟨mark, shown⟩

theorem pictureMark?_eq_none_iff :
    pictureMark? [character] = none ↔ character ∉ pictureCharacters := by
  rw [← exists_mark_iff, not_exists, Option.eq_none_iff_forall_ne_some]

theorem ground_eq (shown : pictureMark? [character] = some mark) :
    mark.ground = characterTile character := by
  obtain ⟨other, found, ground⟩ := mark_of_mem_pictureCharacters character
    (exists_mark_iff.mp ⟨mark, shown⟩)
  rw [shown] at found
  exact Option.some.inj found ▸ ground

theorem pictureMark?_eq_robot_iff :
    pictureMark? [character] = some (.robot facing) ↔ character = facing.glyph := by
  rw [pictureMark?, ← Direction.ofGlyph?_eq_some_iff]
  cases Direction.ofGlyph? character <;> simp

/-- Arrows, and no other characters, show Karel. -/
theorem mem_arrowCharacters_of_mark (shown : pictureMark? [character] = some mark) :
    character ∈ arrowCharacters ↔ ∃ facing, mark = .robot facing := by
  rw [mem_arrowCharacters_iff]
  constructor
  · rintro ⟨facing, arrow⟩
    rw [pictureMark?_eq_robot_iff.mpr arrow] at shown
    exact ⟨facing, (Option.some.inj shown).symm⟩
  · rintro ⟨facing, rfl⟩
    exact ⟨facing, pictureMark?_eq_robot_iff.mp shown⟩

/-! ## Rows of characters -/

/-- Rows that can be the start of a picture: no other characters than those of pictures, and no second
arrow. -/
structure Legible (rows : List (List Char)) : Prop where
  spelled : ∀ row ∈ rows, ∀ character ∈ row, character ∈ pictureCharacters
  arrows : rows.flatten.countP (· ∈ arrowCharacters) ≤ 1

/-- Whether rows of characters show these marks. -/
def ShowsMarks (rows : List (List Mark)) (shown : List (List Char)) : Prop :=
  List.Forall₂ (List.Forall₂ fun mark character => pictureMark? [character] = some mark) rows shown

variable {marks : List Mark} {rows : List (List Mark)} {line : List Char}
  {shown : List (List Char)} {row column width : Nat} {robot : Robot}

/-- Characters of pictures, and no others, show marks. -/
theorem exists_showsMarks_iff : (∃ rows, ShowsMarks rows shown) ↔
    ∀ line ∈ shown, ∀ character ∈ line, character ∈ pictureCharacters := by
  unfold ShowsMarks
  simp only [exists_forall₂_iff, exists_mark_iff]

/-- The arrows among characters are counted by those among their marks. -/
theorem length_rowArrows
    (shown : List.Forall₂ (fun mark character => pictureMark? [character] = some mark) marks line) :
    (rowArrows row column marks).length = line.countP (· ∈ arrowCharacters) := by
  induction shown generalizing column with
  | nil => rfl
  | @cons mark character marks line first _ inductionHypothesis =>
      rw [rowArrows_cons, List.length_append, inductionHypothesis, List.countP_cons, Nat.add_comm]
      have arrow := mem_arrowCharacters_of_mark first
      cases mark with
      | robot facing => simp [arrow, rowArrows, Mark.robotAt?]
      | tile content => simp [arrow, rowArrows, Mark.robotAt?]

theorem length_arrowsFrom (row : Nat) (shows : ShowsMarks rows shown) :
    (arrowsFrom row rows).length = shown.flatten.countP (· ∈ arrowCharacters) := by
  induction shows generalizing row with
  | nil => rfl
  | cons first _ inductionHypothesis =>
      rw [arrowsFrom_cons, List.length_append, inductionHypothesis, length_rowArrows first,
        List.flatten_cons, List.countP_append]

/-- The arrows of rows, with their places. -/
theorem mem_arrowsFrom_iff : robot ∈ arrowsFrom 0 rows ↔ ∃ column row,
    cellAt? rows column row = some (.robot robot.facing) ∧
      robot.position = ⟨.ofNat column, .ofNat row⟩ ∧ robot.bag = .unlimited := by
  simp only [arrowsFrom, rowArrows, List.mem_flatMap, List.mem_filterMap, Prod.exists,
    List.mem_zipIdx_iff_getElem?, cellAt?, Option.bind_eq_some_iff, Mark.robotAt?_eq_some_iff]
  constructor
  · rintro ⟨marks, row, below, mark, column, there, rfl, position⟩
    exact ⟨column, row, ⟨marks, below, there⟩, position⟩
  · rintro ⟨column, row, ⟨marks, below, there⟩, position⟩
    exact ⟨marks, row, below, _, column, there, rfl, position⟩

/-- The robots that rows show stand where their characters have arrows. -/
theorem ShowsMarks.mem_arrowsFrom_iff (shows : ShowsMarks rows shown) :
    robot ∈ arrowsFrom 0 rows ↔ ∃ column row,
      cellAt? shown column row = some robot.facing.glyph ∧
        robot.position = ⟨.ofNat column, .ofNat row⟩ ∧ robot.bag = .unlimited := by
  have same : ∀ column row, cellAt? rows column row = some (.robot robot.facing) ↔
      cellAt? shown column row = some robot.facing.glyph := by
    intro column row
    have entry := cellAt?_rel shows column row
    generalize cellAt? rows column row = mark at entry ⊢
    generalize cellAt? shown column row = character at entry ⊢
    cases entry with
    | none => simp
    | @some mark character shown =>
        rw [Option.some.injEq, Option.some.injEq, ← pictureMark?_eq_robot_iff, shown,
          Option.some.injEq]
  simp only [MapText.mem_arrowsFrom_iff, same]

/-! ## Reading up to a place -/

variable {draft : Draft} {lines : List NumberedLine}

theorem entries_append {tiles others : List (List Tile)} :
    entries row (tiles ++ others) = entries row tiles ++ entries (row + tiles.length) others := by
  simp [entries, List.zipIdx_append]

theorem arrowsFrom_append {others : List (List Mark)} :
    arrowsFrom row (rows ++ others) =
      arrowsFrom row rows ++ arrowsFrom (row + rows.length) others := by
  simp [arrowsFrom, List.zipIdx_append]

/-- The characters of a line, without the blanks at its ends. -/
def NumberedLine.trimmed (line : NumberedLine) : List Char := Text.trim line.content

theorem length_cells (line : NumberedLine) :
    (Style.picture.cells line.content).length = line.trimmed.length := List.length_map _

/-- A draft that has gained what marks show. -/
def Draft.Shows (draft : Draft) (shown : List (List Char)) : Prop :=
  ∃ rows, ShowsMarks rows shown ∧
    Draft.Gains {} (entries 0 (rows.map (·.map Mark.ground))) (arrowsFrom 0 rows) draft

/-- The last row of characters shows the last row of marks. -/
theorem ShowsMarks.exists_concat (shows : ShowsMarks rows (shown ++ [line])) :
    ∃ others marks, rows = others ++ [marks] ∧ ShowsMarks others shown ∧
      List.Forall₂ (fun mark character => pictureMark? [character] = some mark) marks line := by
  have front := List.forall₂_take_append rows shown [line] shows
  have last := List.forall₂_drop_append rows shown [line] shows
  obtain ⟨marks, others, first, none, split⟩ := List.forall₂_cons_right_iff.mp last
  obtain rfl := List.forall₂_nil_right_iff.mp none
  exact ⟨_, marks, by rw [← split, List.take_append_drop], front, first⟩

/-- Rows of one width are read as what their characters show. -/
theorem readRows_eq_ok_iff_shows :
    readRows .picture true width 0 lines {} = .ok draft ↔
      (∀ line ∈ lines, line.trimmed.length = width) ∧
        draft.Shows (lines.map NumberedLine.trimmed) := by
  have shows_iff : ∀ rows : List (List Mark), ShowsMarks rows (lines.map NumberedLine.trimmed) ↔
      List.Forall₂ (fun marks line => Depicts marks line.content) rows lines :=
    fun rows => List.forall₂_map_right_iff
  rw [readRows_eq_ok_iff]
  constructor
  · rintro ⟨rows, depicts, even, gains⟩
    have shows := (shows_iff rows).mpr depicts
    exact ⟨List.forall_mem_map.mp ((forall_length_eq_iff shows).mp even), rows, shows, gains⟩
  · rintro ⟨even, rows, shows, gains⟩
    exact ⟨rows, (shows_iff rows).mp shows,
      (forall_length_eq_iff shows).mpr (List.forall_mem_map.mpr even), gains⟩

/-- So are rows with the start of another one. -/
theorem readCells_eq_ok_iff_shows (number : Nat) {front : List Char} :
    (∃ middle, readRows .picture true width 0 lines {} = .ok middle ∧
      readCells .picture true number lines.length 0 (front.map ([·])) middle = .ok draft) ↔
      (∀ line ∈ lines, line.trimmed.length = width) ∧
        draft.Shows (lines.map NumberedLine.trimmed ++ [front]) := by
  have joined : ∀ (rows : List (List Mark)) (marks : List Mark),
      entries 0 ((rows ++ [marks]).map (·.map Mark.ground)) =
          entries 0 (rows.map (·.map Mark.ground)) ++
            rowEntries rows.length 0 (marks.map Mark.ground) ∧
        arrowsFrom 0 (rows ++ [marks]) = arrowsFrom 0 rows ++ rowArrows rows.length 0 marks := by
    intro rows marks
    rw [List.map_append, entries_append, arrowsFrom_append]
    simp [entries, arrowsFrom]
  simp only [readRows_eq_ok_iff_shows, readCells_eq_ok_iff]
  constructor
  · rintro ⟨middle, ⟨even, rows, shows, first⟩, marks, last, second⟩
    obtain ⟨tiles, arrows⟩ := joined rows marks
    have count : rows.length = lines.length := shows.length_eq.trans (List.length_map _)
    refine ⟨even, rows ++ [marks], List.rel_append shows (.cons last .nil), ?_⟩
    rw [tiles, arrows, count]
    exact Draft.gains_append_iff.mpr ⟨middle, first, second⟩
  · rintro ⟨even, all, shows, gains⟩
    obtain ⟨rows, marks, rfl, shows, last⟩ := shows.exists_concat
    obtain ⟨tiles, arrows⟩ := joined rows marks
    have count : rows.length = lines.length := shows.length_eq.trans (List.length_map _)
    rw [tiles, arrows, count] at gains
    obtain ⟨middle, first, second⟩ := Draft.gains_append_iff.mp gains
    exact ⟨middle, ⟨even, rows, shows, first⟩, marks, last, second⟩

/-- Characters can be entered in an empty draft exactly if they are legible. -/
theorem exists_shows_iff : (∃ draft : Draft, draft.Shows shown) ↔ Legible shown := by
  constructor
  · rintro ⟨draft, rows, shows, gains⟩
    refine ⟨exists_showsMarks_iff.mp ⟨rows, shows⟩, ?_⟩
    have placed : draft.placed.toList = arrowsFrom 0 rows := gains.placed
    rw [← length_arrowsFrom 0 shows, ← placed, Option.length_toList]
    cases draft.placed with
    | none => exact Nat.zero_le 1
    | some robot => exact Nat.le_refl 1
  · rintro ⟨spelled, arrows⟩
    obtain ⟨rows, shows⟩ := exists_showsMarks_iff.mpr spelled
    rw [← length_arrowsFrom 0 shows] at arrows
    refine ⟨⟨(arrowsFrom 0 rows).head?, _⟩, rows, shows, ⟨(List.append_nil _).symm, ?_⟩⟩
    change (arrowsFrom 0 rows).head?.toList = arrowsFrom 0 rows
    generalize arrowsFrom 0 rows = robots at arrows ⊢
    rcases robots with _ | ⟨first, _ | ⟨second, rest⟩⟩
    · rfl
    · rfl
    · simp at arrows

/-- Where the first arrow of a draft stands. -/
theorem Draft.Shows.placed_eq_some_iff {draft : Draft} (shows : draft.Shows shown) :
    draft.placed = some robot ↔ ∃ column row,
      cellAt? shown column row = some robot.facing.glyph ∧
        robot.position = ⟨.ofNat column, .ofNat row⟩ ∧ robot.bag = .unlimited := by
  obtain ⟨rows, shows, gains⟩ := shows
  have placed : draft.placed.toList = arrowsFrom 0 rows := gains.placed
  rw [← shows.mem_arrowsFrom_iff, ← placed, Option.mem_toList]

theorem Draft.Shows.placed_eq_none_iff {draft : Draft} (shows : draft.Shows shown) :
    draft.placed = none ↔ ∀ line ∈ shown, ∀ character ∈ line, character ∉ arrowCharacters := by
  obtain ⟨rows, shows, gains⟩ := shows
  have placed : draft.placed.toList = arrowsFrom 0 rows := gains.placed
  rw [← Option.toList_eq_nil_iff, placed, ← List.length_eq_zero_iff, length_arrowsFrom 0 shows,
    List.countP_eq_zero]
  simp only [List.mem_flatten, decide_eq_true_eq]
  exact ⟨fun none line member character inLine => none character ⟨line, member, inLine⟩,
    fun none character ⟨line, member, inLine⟩ => none line member character inLine⟩

/-! ## The first fault of a picture -/

/-- The first fault of lines that are no picture: there is none, or one is not as long as the first,
or has another character, or a second arrow, or there is no arrow at all. All above and before the
fault is in order. -/
inductive PictureFault (lines : List NumberedLine) : Fault → Prop
  | empty (none : lines = []) : PictureFault lines .empty
  | ragged {first : NumberedLine} {before after : List NumberedLine} {bad : NumberedLine}
      (split : lines = first :: before ++ bad :: after)
      (even : ∀ line ∈ before, line.trimmed.length = first.trimmed.length)
      (legible : Legible ((first :: before).map NumberedLine.trimmed))
      (uneven : bad.trimmed.length ≠ first.trimmed.length) :
      PictureFault lines (.ragged bad.number first.trimmed.length bad.trimmed.length)
  | token {before after : List NumberedLine} {bad : NumberedLine} {front back : List Char}
      {character : Char} (split : lines = before ++ bad :: after)
      (even : ∀ line ∈ before, line.trimmed.length = bad.trimmed.length)
      (cells : bad.trimmed = front ++ character :: back)
      (legible : Legible (before.map NumberedLine.trimmed ++ [front]))
      (unknown : character ∉ pictureCharacters) :
      PictureFault lines
        (.invalidToken bad.number (front.length + 1) (String.ofList [character]))
  | arrow {before after : List NumberedLine} {bad : NumberedLine} {front back : List Char}
      {character : Char} {column row : Nat} {facing : Direction}
      (split : lines = before ++ bad :: after)
      (even : ∀ line ∈ before, line.trimmed.length = bad.trimmed.length)
      (cells : bad.trimmed = front ++ character :: back)
      (legible : Legible (before.map NumberedLine.trimmed ++ [front]))
      (second : character ∈ arrowCharacters)
      (first : cellAt? (before.map NumberedLine.trimmed ++ [front]) column row =
        some facing.glyph) :
      PictureFault lines
        (.duplicateRobot bad.number (front.length + 1) ⟨.ofNat column, .ofNat row⟩)
  | missing (some : lines ≠ [])
      (even : ∃ width, ∀ line ∈ lines, line.trimmed.length = width)
      (legible : Legible (lines.map NumberedLine.trimmed))
      (none : ∀ line ∈ lines, ∀ character ∈ line.trimmed, character ∉ arrowCharacters) :
      PictureFault lines .missingRobot

variable {fault : Fault}

/-- The characters of a row are its cells. -/
theorem exists_cells_iff {line : NumberedLine} {before after : List (List Char)}
    {token : List Char} :
    Style.picture.cells line.content = before ++ token :: after ↔
      ∃ front character back, line.trimmed = front ++ character :: back ∧
        before = front.map ([·]) ∧ token = [character] ∧ after = back.map ([·]) := by
  unfold Style.cells NumberedLine.trimmed
  dsimp only
  rw [List.map_eq_append_iff]
  constructor
  · rintro ⟨front, rest, split, rfl, cells⟩
    obtain ⟨character, back, rfl, rfl, rfl⟩ := List.map_eq_cons_iff.mp cells
    exact ⟨front, character, back, split, rfl, rfl, rfl⟩
  · rintro ⟨front, character, back, split, rfl, rfl, rfl⟩
    exact ⟨front, character :: back, split, rfl, rfl⟩

/-- The first fault in the rows of a picture is that of the length of a row or of a character. -/
theorem FirstFault.pictureFault (fails : FirstFault .picture true lines fault) :
    PictureFault lines fault := by
  cases fails with
  | @ragged first bad _ _ middle split read uneven =>
      simp only [length_cells] at read uneven ⊢
      obtain ⟨even, shows⟩ := readRows_eq_ok_iff_shows.mp read
      exact .ragged split (List.forall_mem_cons.mp even).2 (exists_shows_iff.mp ⟨middle, shows⟩)
        uneven
  | @cell bad before _ middle last _ _ _ _ split read cut entered fails =>
      obtain ⟨front, character, back, cells, rfl, rfl, rfl⟩ := exists_cells_iff.mp cut
      rw [length_cells] at read
      obtain ⟨even, shows⟩ := (readCells_eq_ok_iff_shows _).mp ⟨middle, read, entered⟩
      have legible := exists_shows_iff.mp ⟨last, shows⟩
      rw [List.length_map] at fails
      cases fails with
      | token unknown =>
          exact .token split even cells legible (pictureMark?_eq_none_iff.mp unknown)
      | @arrow facing first shown _ placed =>
          have second : character ∈ arrowCharacters :=
            (mem_arrowCharacters_of_mark shown).mpr ⟨facing, rfl⟩
          obtain ⟨column, row, there, position, -⟩ := shows.placed_eq_some_iff.mp placed
          rw [position]
          exact .arrow split even cells legible second there

/-- A bad character after legible ones is the first fault of rows. -/
theorem FirstFault.of_character {before after : List NumberedLine} {bad : NumberedLine}
    {front back : List Char} (split : lines = before ++ bad :: after)
    (even : ∀ line ∈ before, line.trimmed.length = bad.trimmed.length)
    (cells : bad.trimmed = front ++ character :: back)
    (legible : Legible (before.map NumberedLine.trimmed ++ [front]))
    (fails : ∀ draft : Draft, draft.Shows (before.map NumberedLine.trimmed ++ [front]) →
      CellFault .picture true bad.number before.length front.length [character] draft fault) :
    FirstFault .picture true lines fault := by
  obtain ⟨last, shows⟩ := exists_shows_iff.mpr legible
  obtain ⟨middle, read, entered⟩ :=
    (readCells_eq_ok_iff_shows bad.number).mpr ⟨even, shows⟩
  rw [← length_cells] at read
  refine .cell split read (exists_cells_iff.mpr ⟨front, character, back, cells, rfl, rfl, rfl⟩)
    entered ?_
  rw [List.length_map]
  exact fails last shows

/-- So is a row of another length than the first one. -/
theorem FirstFault.of_ragged {before after : List NumberedLine} {first bad : NumberedLine}
    (split : lines = first :: before ++ bad :: after)
    (even : ∀ line ∈ before, line.trimmed.length = first.trimmed.length)
    (legible : Legible ((first :: before).map NumberedLine.trimmed))
    (uneven : bad.trimmed.length ≠ first.trimmed.length) :
    FirstFault .picture true lines
      (.ragged bad.number first.trimmed.length bad.trimmed.length) := by
  obtain ⟨middle, shows⟩ := exists_shows_iff.mpr legible
  have read := readRows_eq_ok_iff_shows.mpr ⟨List.forall_mem_cons.mpr ⟨rfl, even⟩, shows⟩
  rw [← length_cells first] at read uneven ⊢
  rw [← length_cells bad] at uneven ⊢
  exact .ragged split read uneven

/-- The fault of a text that is no picture. -/
theorem readBody_eq_error_iff_pictureFault :
    readBody .picture none true lines = .error fault ↔ PictureFault lines fault := by
  rw [readBody_eq_error_iff]
  constructor
  · rintro (⟨none, rfl⟩ | bad | ⟨some, rfl, draft, read, -, unplaced⟩)
    · exact .empty none
    · exact bad.pictureFault
    · obtain ⟨even, shows⟩ := readRows_eq_ok_iff_shows.mp read
      refine .missing some ⟨_, even⟩ (exists_shows_iff.mp ⟨draft, shows⟩) ?_
      exact List.forall_mem_map.mp (shows.placed_eq_none_iff.mp unplaced)
  · intro bad
    cases bad with
    | empty none => exact .inl ⟨none, rfl⟩
    | ragged split even legible uneven =>
        exact .inr (.inl (.of_ragged split even legible uneven))
    | token split even cells legible unknown =>
        refine .inr (.inl (.of_character split even cells legible fun draft shows => ?_))
        exact .token (pictureMark?_eq_none_iff.mpr unknown)
    | @arrow before after bad front back character column row facing split even cells legible second
        there =>
        refine .inr (.inl (.of_character split even cells legible fun draft shows => ?_))
        obtain ⟨other, arrow⟩ := mem_arrowCharacters_iff.mp second
        have placed : draft.placed = some ⟨⟨.ofNat column, .ofNat row⟩, facing, .unlimited⟩ :=
          shows.placed_eq_some_iff.mpr ⟨column, row, there, rfl, rfl⟩
        have shown : Style.picture.mark? [character] = some (.robot other) :=
          pictureMark?_eq_robot_iff.mpr arrow
        exact .arrow shown rfl placed
    | missing some even legible none =>
        obtain ⟨width, even⟩ := even
        obtain ⟨draft, shows⟩ := exists_shows_iff.mpr legible
        have first : firstLength .picture lines = width := by
          obtain ⟨first, rest, rfl⟩ := List.exists_cons_of_ne_nil some
          exact (length_cells first).trans (even first List.mem_cons_self)
        refine .inr (.inr ⟨some, rfl, draft, ?_, rfl, ?_⟩)
        · rw [first]
          exact readRows_eq_ok_iff_shows.mpr ⟨even, shows⟩
        · exact shows.placed_eq_none_iff.mpr (List.forall_mem_map.mpr none)

/-! ## Pictures and what they tell -/

variable {text : String} {scene : Scene}

/-- Rows of characters that make a picture: there are some, they have one length and no other
characters than those of pictures, and one of these is an arrow. -/
structure SpellsPicture (shown : List (List Char)) : Prop where
  some : shown ≠ []
  even : ∃ width, ∀ line ∈ shown, line.length = width
  spelled : ∀ line ∈ shown, ∀ character ∈ line, character ∈ pictureCharacters
  arrow : shown.flatten.countP (· ∈ arrowCharacters) = 1

theorem map_trimmed_contentLines (text : String) :
    (contentLines text.toList).map NumberedLine.trimmed = contentRows text := by
  unfold contentRows
  rw [← content_contentLines, List.map_map]
  rfl

/-- A picture is read as the marks that its characters show, with one arrow. -/
theorem read_picture_eq_ok_iff_shows :
    read .picture none text = .ok scene ↔ ∃ width rows robot, ShowsMarks rows (contentRows text) ∧
      (∀ line ∈ contentRows text, line.length = width) ∧ arrowsFrom 0 rows = [robot] ∧
        scene = pictured width rows robot := by
  have body : read .picture none text = readBody .picture none true (contentLines text.toList) :=
    rfl
  have shows_iff : ∀ rows : List (List Mark), ShowsMarks rows (contentRows text) ↔
      List.Forall₂ (fun marks line => Depicts marks line.content) rows
        (contentLines text.toList) := by
    intro rows
    rw [← map_trimmed_contentLines]
    exact List.forall₂_map_right_iff
  rw [body, readBody_eq_ok_iff]
  constructor
  · rintro ⟨width, rows, robot, depicts, even, told⟩
    have shows := (shows_iff rows).mpr depicts
    exact ⟨width, rows, robot, shows, (forall_length_eq_iff shows).mp even, told⟩
  · rintro ⟨width, rows, robot, shows, even, told⟩
    exact ⟨width, rows, robot, (shows_iff rows).mp shows, (forall_length_eq_iff shows).mpr even,
      told⟩

/-- The texts that are read as pictures. -/
theorem exists_read_picture_iff :
    (∃ scene, read .picture none text = .ok scene) ↔ SpellsPicture (contentRows text) := by
  simp only [read_picture_eq_ok_iff_shows]
  constructor
  · rintro ⟨scene, width, rows, robot, shows, even, arrows, -⟩
    have single := length_arrowsFrom 0 shows
    rw [arrows] at single
    refine ⟨fun none => ?_, ⟨width, even⟩, exists_showsMarks_iff.mp ⟨rows, shows⟩, single.symm⟩
    rw [none] at single
    cases single
  · rintro ⟨some, ⟨width, even⟩, spelled, arrow⟩
    obtain ⟨rows, shows⟩ := exists_showsMarks_iff.mpr spelled
    rw [← length_arrowsFrom 0 shows, List.length_eq_one_iff] at arrow
    obtain ⟨robot, arrows⟩ := arrow
    exact ⟨_, width, rows, robot, shows, even, arrows, rfl⟩

/-- The tiles of a picture are those of its characters. -/
theorem get_pictured {rows : List (List Mark)} (shows : ShowsMarks rows shown)
    (even : ∀ line ∈ shown, line.length = width) (narrow : width ≤ Coordinate.greatest)
    (low : shown.length ≤ Coordinate.greatest)
    (there : cellAt? shown column row = some character) :
    (pictured width rows robot).grid.get ⟨.ofNat column, .ofNat row⟩ = characterTile character := by
  have grounds : ∀ tiles ∈ rows.map (·.map Mark.ground), tiles.length = width := by
    simpa using (forall_length_eq_iff shows).mpr even
  have count : (rows.map (·.map Mark.ground)).length = shown.length := by
    rw [List.length_map, shows.length_eq]
  have entry := cellAt?_rel shows column row
  rw [there] at entry
  generalize marked : cellAt? rows column row = mark at entry
  cases entry with
  | @some mark character shown =>
      have ground : cellAt? (rows.map (·.map Mark.ground)) column row = some mark.ground := by
        rw [cellAt?_map, marked, Option.map_some]
      rw [← ground_eq shown, ← get_entries grounds narrow (count ▸ low) ground, List.length_map]
      rfl

/-- The texts that are read as pictures, and what they tell: Karel stands where the arrow is, the size
is that of the rows, and each character tells the tile of its cell, as far as coordinates can count
the rows and the columns. Of any other text the first fault is found. -/
theorem read_picture_grammar (text : String) :
    ((∃ scene, read .picture none text = .ok scene) ↔ SpellsPicture (contentRows text)) ∧
    (∀ scene, read .picture none text = .ok scene →
      (∃ column row,
        cellAt? (contentRows text) column row = some scene.robot.facing.glyph ∧
          scene.robot.position = ⟨.ofNat column, .ofNat row⟩ ∧ scene.robot.bag = .unlimited) ∧
      scene.height = .ofNat (contentRows text).length ∧
      (∀ line ∈ contentRows text, scene.width = .ofNat line.length) ∧
      scene.grid.bounds = .finite scene.width scene.height ∧
      (Measurable text ↔
        scene.height.toInt = (contentRows text).length ∧
        (∀ line ∈ contentRows text, scene.width.toInt = line.length) ∧
        ∀ column row character, cellAt? (contentRows text) column row = some character →
          scene.grid.get ⟨.ofNat column, .ofNat row⟩ = characterTile character)) ∧
    ∀ fault, read .picture none text = .error fault ↔
      PictureFault (contentLines text.toList) fault := by
  refine ⟨exists_read_picture_iff, fun scene accepted => ?_, fun fault =>
    readBody_eq_error_iff_pictureFault⟩
  have some := (exists_read_picture_iff.mp ⟨scene, accepted⟩).some
  obtain ⟨width, rows, robot, shows, even, arrows, rfl⟩ := read_picture_eq_ok_iff_shows.mp accepted
  have count : rows.length = (contentRows text).length := shows.length_eq
  have placed : robot ∈ arrowsFrom 0 rows := by simp [arrows]
  have height : (pictured width rows robot).height = .ofNat (contentRows text).length :=
    congrArg Int32.ofNat count
  have sides : ∀ line ∈ contentRows text, (pictured width rows robot).width = .ofNat line.length :=
    fun line member => congrArg Int32.ofNat (even line member).symm
  have high_iff := height ▸ Coordinate.toInt_ofNat_iff
  have wide_iff : ∀ line ∈ contentRows text,
      (pictured width rows robot).width.toInt = line.length ↔ line.length ≤ Coordinate.greatest :=
    fun line member => sides line member ▸ Coordinate.toInt_ofNat_iff
  refine ⟨shows.mem_arrowsFrom_iff.mp placed, height, sides, Grid.bounds_ofList _ _, ?_, ?_⟩
  · rintro ⟨high, wide⟩
    refine ⟨high_iff.mpr high, fun line member => (wide_iff line member).mpr (wide line member), ?_⟩
    obtain ⟨line, member⟩ := List.exists_mem_of_ne_nil _ some
    exact fun _ _ _ => get_pictured shows even (even line member ▸ wide line member) high
  · rintro ⟨high, wide, -⟩
    exact ⟨high_iff.mp high, fun line member => (wide_iff line member).mp (wide line member)⟩

/-- Nine beepers lie in the last column of the garden, and the second of two arrows is a fault of its
line. -/
theorem read_picture_grammar_garden :
    (∃ scene, read .picture none gardenText = .ok scene ∧
      scene.grid.get ⟨.ofNat 2, .ofNat 0⟩ = .ofCount 9) ∧
    PictureFault (contentLines ".>\n\nv$\n".toList) (.duplicateRobot 3 1 ⟨1, 0⟩) := by
  obtain ⟨scene, accepted⟩ : ∃ scene, read .picture none gardenText = .ok scene := ⟨_, rfl⟩
  have told := (read_picture_grammar gardenText).2.1 scene accepted
  have tiles := (told.2.2.2.2.mp ⟨by decide, by decide⟩).2.2
  refine ⟨⟨scene, accepted, tiles 2 0 '9' (by decide)⟩, ?_⟩
  exact ((read_picture_grammar ".>\n\nv$\n").2.2 _).mp (by rfl)

end Karel.MapText
