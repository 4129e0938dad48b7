import Karel.Proofs.MapText.Rows
import Mathlib.Data.List.Forall2

/-!
# Reading a picture

Each character of a picture shows a mark, and a zero shows what a point shows. A line is read as the
marks of its characters, and a draft gains their tiles and their arrows. Since a draft has room for
one robot, rows can be read exactly if no second arrow is among them: `read_picture_eq_ok_iff` says
which texts are read and as what.
-/

namespace Karel

namespace MapText

/-- The character that shows a mark. -/
def Mark.glyph : Mark → Char
  | .robot facing => facing.glyph
  | .tile content => content.glyph

/-- The tile that a mark leaves on its cell. There is none under Karel. -/
def Mark.ground : Mark → Tile
  | .robot _ => .empty
  | .tile content => content

/-- Whether the character of a mark tells all of it: digits count no further than nine. -/
def Mark.Drawable (mark : Mark) : Prop := mark.ground.count.toNat ≤ 9

/-- The character of a cell as it is written. A zero is read, but never written. -/
def pointed (character : Char) : Char := if character = '0' then '.' else character

variable {character : Char} {mark : Mark} {value : Nat}

/-! ## Marks -/

theorem pictureMark?_pointed (character : Char) :
    pictureMark? [pointed character] = pictureMark? [character] := by
  unfold pointed
  split
  next zero =>
    rw [zero]
    rfl
  next => rfl

/-- One digit is read as the number that it shows. -/
theorem natural?_eq_some_iff : Text.Numeral.natural? [character] = some value ↔
    value < 10 ∧ character = Nat.digitChar value := by
  constructor
  · intro read
    unfold Text.Numeral.natural? at read
    split at read
    next digit =>
      have isDigit : character.isDigit = true := by simpa using digit
      obtain ⟨zero, nine⟩ := Char.isDigit_iff_toNat.mp isDigit
      have zeroth : '0'.toNat = 48 := rfl
      have ninth : '9'.toNat = 57 := rfl
      obtain rfl : character.toNat - 48 = value := by simpa [Nat.ofDigitChars] using read
      have small : character.toNat - 48 < 10 := by omega
      refine ⟨small, Char.toNat_inj.mp ?_⟩
      rw [Nat.toNat_digitChar_of_lt_ten small]
      omega
    next => cases read
  · rintro ⟨small, rfl⟩
    rw [← Nat.toDigits_of_lt_base small]
    exact Text.Numeral.natural?_toDigits value

/-- Digits are read as piles that are written by these digits, and a zero is read as no pile. -/
theorem pictureMark?_digitChar : ∀ value < 10,
    pictureMark? [Nat.digitChar value] = some (.tile (.ofCount (.ofNat value))) ∧
      (Tile.ofCount (.ofNat value)).glyph = pointed (Nat.digitChar value) ∧
        (Tile.ofCount (.ofNat value)).count.toNat = value := by
  decide

theorem pictureMark?_glyph (drawable : mark.Drawable) : pictureMark? [mark.glyph] = some mark := by
  cases mark with
  | robot facing => cases facing <;> rfl
  | tile content =>
      cases content with
      | empty => rfl
      | wall => rfl
      | treasure => rfl
      | beepers pile =>
          have small : pile.count.toNat < 10 := Nat.lt_succ_of_le drawable
          have shown : (Mark.tile (.beepers pile)).glyph = Nat.digitChar pile.count.toNat :=
            if_pos (UInt32.lt_iff_toNat_lt.mpr small)
          rw [shown, (pictureMark?_digitChar _ small).1, UInt32.ofNat_toNat]
          simp [Tile.ofCount, Pile.ofCount?, pile.count_ne_zero]

/-- The characters of a picture are those that show a mark, and the zero. -/
theorem pictureMark?_eq_some_iff :
    pictureMark? [character] = some mark ↔ mark.Drawable ∧ mark.glyph = pointed character := by
  constructor
  · intro read
    unfold pictureMark? at read
    dsimp only at read
    split at read
    next facing arrow =>
      obtain rfl := Direction.ofGlyph?_eq_some_iff.mp arrow
      cases read
      cases facing <;> exact ⟨Nat.zero_le 9, rfl⟩
    next =>
      obtain ⟨tile, found, rfl⟩ := Option.map_eq_some_iff.mp read
      rw [Option.orElse_eq_orElse, Option.orElse_eq_or] at found
      rcases Option.or_eq_some_iff.mp found with plain | ⟨-, pile⟩
      · unfold plainTile? at plain
        split at plain
        case h_1 same | h_2 same | h_3 same | h_4 same =>
          cases same
          cases plain
          exact ⟨Nat.zero_le 9, rfl⟩
        case h_5 => cases plain
      · obtain ⟨value, digit, kept⟩ := Option.bind_eq_some_iff.mp pile
        obtain ⟨small, rfl⟩ := natural?_eq_some_iff.mp digit
        obtain ⟨-, shown, count⟩ := pictureMark?_digitChar value small
        split at kept
        next =>
          cases kept
          exact ⟨Nat.le_of_lt_succ (count.symm ▸ small), shown⟩
        next => cases kept
  · rintro ⟨drawable, shown⟩
    rw [← pictureMark?_pointed, ← shown]
    exact pictureMark?_glyph drawable

/-! ## Rows of marks -/

variable {draft middle next other : Draft} {tiles later : List (Point × Tile)}
  {arrows others : List Robot} {marks : List Mark} {rows : List (List Mark)} {line : List Char}
  {number row column width height : Nat} {style : Style} {arrowsPlace : Bool}

/-- Karel as the mark of a cell shows it, with a bottomless bag. -/
def Mark.robotAt? (mark : Mark) (point : Point) : Option Robot :=
  match mark with
  | .robot facing => some ⟨point, facing, .unlimited⟩
  | .tile _ => none

/-- The robots that a row shows, from the given column on. -/
def rowArrows (row column : Nat) (marks : List Mark) : List Robot :=
  (marks.zipIdx column).filterMap fun (mark, column) =>
    mark.robotAt? ⟨.ofNat column, .ofNat row⟩

/-- The robots that rows show, from the given row on. -/
def arrowsFrom (row : Nat) (rows : List (List Mark)) : List Robot :=
  (rows.zipIdx row).flatMap fun (marks, row) => rowArrows row 0 marks

theorem rowArrows_cons : rowArrows row column (mark :: marks) =
    rowArrows row column [mark] ++ rowArrows row (column + 1) marks := by
  unfold rowArrows
  rw [← List.filterMap_append]
  rfl

theorem entries_cons {tiles : List Tile} {rows : List (List Tile)} :
    entries row (tiles :: rows) = rowEntries row 0 tiles ++ entries (row + 1) rows := rfl

theorem arrowsFrom_cons :
    arrowsFrom row (marks :: rows) = rowArrows row 0 marks ++ arrowsFrom (row + 1) rows := rfl

/-- What becomes of a draft when tiles and arrows are entered. Since it has room for one robot, this
can only be if there is at most one arrow in all. -/
structure Draft.Gains (draft : Draft) (tiles : List (Point × Tile)) (arrows : List Robot)
    (next : Draft) : Prop where
  tiles : next.tiles = tiles.reverse ++ draft.tiles
  placed : next.placed.toList = draft.placed.toList ++ arrows

theorem Draft.gains_iff_eq (gains : draft.Gains tiles arrows next) :
    draft.Gains tiles arrows other ↔ other = next := by
  constructor
  · intro same
    have placed : other.placed = next.placed := by
      rw [← @Option.head?_toList _ other.placed, same.placed, ← gains.placed, Option.head?_toList]
    exact (Draft.mk.injEq _ _ _ _).mpr ⟨placed, same.tiles.trans gains.tiles.symm⟩
  · rintro rfl
    exact gains

theorem Draft.gains_nil_iff : draft.Gains [] [] next ↔ next = draft :=
  gains_iff_eq ⟨rfl, (List.append_nil _).symm⟩

/-- Of a list with room for one entry, any part from the start has room for one. -/
theorem toList_head?_of_append {α : Type} {option : Option α} {front back : List α}
    (whole : option.toList = front ++ back) : front.head?.toList = front := by
  cases front with
  | nil => rfl
  | cons first rest =>
      cases option with
      | none => cases whole
      | some value =>
          obtain ⟨-, none⟩ := List.cons.inj whole
          rw [(List.append_eq_nil_iff.mp none.symm).1]
          rfl

theorem Draft.gains_append_iff : draft.Gains (tiles ++ later) (arrows ++ others) next ↔
    ∃ middle, draft.Gains tiles arrows middle ∧ middle.Gains later others next := by
  constructor
  · intro gains
    have placed := gains.placed
    rw [← List.append_assoc] at placed
    have room := toList_head?_of_append placed
    refine ⟨⟨(draft.placed.toList ++ arrows).head?, tiles.reverse ++ draft.tiles⟩, ⟨rfl, room⟩,
      ?_, ?_⟩
    · rw [gains.tiles, List.reverse_append, List.append_assoc]
    · rw [placed, room]
  · rintro ⟨middle, first, second⟩
    constructor
    · rw [second.tiles, first.tiles, List.reverse_append, List.append_assoc]
    · rw [second.placed, first.placed, List.append_assoc]

/-- The arrows that place Karel: all, or none if it comes from elsewhere. -/
def placing : Bool → List Robot → List Robot
  | true, arrows => arrows
  | false, _ => []

theorem placing_append : placing arrowsPlace (arrows ++ others) =
    placing arrowsPlace arrows ++ placing arrowsPlace others := by
  cases arrowsPlace <;> rfl

/-- A mark is entered unless it is a second arrow that places Karel. -/
theorem enter_eq_ok_iff : draft.enter arrowsPlace number column row mark = .ok next ↔
    draft.Gains (rowEntries row column [mark.ground])
      (placing arrowsPlace (rowArrows row column [mark])) next := by
  cases mark with
  | tile content =>
      have entered : draft.enter arrowsPlace number column row (.tile content) =
          .ok (draft.add (rowEntries row column [content])) := by
        cases content <;> rfl
      have none : placing arrowsPlace (rowArrows row column [.tile content]) = [] := by
        cases arrowsPlace <;> rfl
      have gains : draft.Gains (rowEntries row column [content]) []
          (draft.add (rowEntries row column [content])) := ⟨rfl, (List.append_nil _).symm⟩
      rw [entered, Except.ok.injEq, eq_comm, none]
      exact (Draft.gains_iff_eq gains).symm
  | robot facing =>
      obtain ⟨placed, tiles⟩ := draft
      cases arrowsPlace with
      | false =>
          show Except.ok _ = Except.ok next ↔ _
          rw [Except.ok.injEq, eq_comm]
          exact Draft.gains_nil_iff.symm
      | true =>
          cases placed with
          | none =>
              show Except.ok _ = Except.ok next ↔ _
              rw [Except.ok.injEq, eq_comm]
              exact (Draft.gains_iff_eq ⟨rfl, rfl⟩).symm
          | some first =>
              refine ⟨fun entered => (by cases entered), fun gains => ?_⟩
              have single := congrArg List.length gains.placed
              cases placed : next.placed <;>
                simp [placed, placing, rowArrows, Mark.robotAt?] at single

theorem readCells_cons_eq_ok_iff {token : List Char} {rest : List (List Char)} :
    readCells style arrowsPlace number row column (token :: rest) draft = .ok next ↔
      ∃ mark middle, style.mark? token = some mark ∧
        draft.enter arrowsPlace number column row mark = .ok middle ∧
          readCells style arrowsPlace number row (column + 1) rest middle = .ok next := by
  rw [readCells]
  cases style.mark? token with
  | none => simp
  | some mark => cases entered : draft.enter arrowsPlace number column row mark <;> simp [entered]

/-- The characters of a row are read as the marks that they show. -/
theorem readCells_eq_ok_iff :
    readCells .picture arrowsPlace number row column (line.map ([·])) draft = .ok next ↔
      ∃ marks, List.Forall₂ (fun mark character => pictureMark? [character] = some mark) marks line ∧
        draft.Gains (rowEntries row column (marks.map Mark.ground))
          (placing arrowsPlace (rowArrows row column marks)) next := by
  induction line generalizing column draft with
  | nil =>
      have read : readCells .picture arrowsPlace number row column [] draft = .ok draft := rfl
      have none : placing arrowsPlace (rowArrows row column []) = [] := by cases arrowsPlace <;> rfl
      simp only [List.forall₂_nil_right_iff, exists_eq_left, List.map_nil, read, Except.ok.injEq, none]
      exact eq_comm.trans Draft.gains_nil_iff.symm
  | cons character rest inductionHypothesis =>
      simp only [List.map_cons, readCells_cons_eq_ok_iff, inductionHypothesis, enter_eq_ok_iff]
      constructor
      · rintro ⟨mark, middle, shown, entered, marks, others, gains⟩
        refine ⟨mark :: marks, .cons shown others, ?_⟩
        rw [List.map_cons, rowEntries_cons, rowArrows_cons, placing_append]
        exact Draft.gains_append_iff.mpr ⟨middle, entered, gains⟩
      · rintro ⟨_, _ | ⟨shown, others⟩, gains⟩
        rw [List.map_cons, rowEntries_cons, rowArrows_cons, placing_append] at gains
        obtain ⟨middle, entered, gains⟩ := Draft.gains_append_iff.mp gains
        exact ⟨_, middle, shown, entered, _, others, gains⟩

/-- Whether a line shows the marks of a row. -/
def Depicts (marks : List Mark) (line : List Char) : Prop :=
  List.Forall₂ (fun mark character => pictureMark? [character] = some mark) marks (Text.trim line)

theorem Depicts.length_eq (depicts : Depicts marks line) :
    (Style.picture.cells line).length = marks.length :=
  (List.length_map _).trans (List.Forall₂.length_eq depicts).symm

theorem depicts_iff : Depicts marks line ↔ (∀ mark ∈ marks, mark.Drawable) ∧
    marks.map Mark.glyph = (Text.trim line).map pointed := by
  unfold Depicts
  simp only [pictureMark?_eq_some_iff, List.forall₂_and_left, ← List.forall₂_eq_eq_eq,
    List.forall₂_map_left_iff, List.forall₂_map_right_iff]

theorem readRows_cons_eq_ok_iff {first : NumberedLine} {rest : List NumberedLine} :
    readRows style arrowsPlace width row (first :: rest) draft = .ok next ↔
      (style.cells first.content).length = width ∧ ∃ middle,
        readCells style arrowsPlace first.number row 0 (style.cells first.content) draft =
            .ok middle ∧
          readRows style arrowsPlace width (row + 1) rest middle = .ok next := by
  rw [readRows]
  by_cases even : (style.cells first.content).length = width
  · cases readCells style arrowsPlace first.number row 0 (style.cells first.content) draft <;>
      simp [even]
  · simp [even]

/-- Rows of one width are read as the marks that they show. -/
theorem readRows_eq_ok_iff {lines : List NumberedLine} :
    readRows .picture arrowsPlace width row lines draft = .ok next ↔
      ∃ rows, List.Forall₂ (fun marks line => Depicts marks line.content) rows lines ∧
        (∀ marks ∈ rows, marks.length = width) ∧
          draft.Gains (entries row (rows.map (·.map Mark.ground)))
            (placing arrowsPlace (arrowsFrom row rows)) next := by
  induction lines generalizing row draft with
  | nil =>
      have read : readRows .picture arrowsPlace width row [] draft = .ok draft := rfl
      have none : placing arrowsPlace (arrowsFrom row []) = [] := by cases arrowsPlace <;> rfl
      simp only [List.forall₂_nil_right_iff, exists_eq_left, List.map_nil, read, Except.ok.injEq,
        List.not_mem_nil, false_implies, implies_true, true_and, none]
      exact eq_comm.trans Draft.gains_nil_iff.symm
  | cons line rest inductionHypothesis =>
      simp only [readRows_cons_eq_ok_iff, inductionHypothesis]
      constructor
      · rintro ⟨even, middle, entered, rows, others, evens, gains⟩
        obtain ⟨marks, depicts, entered⟩ := readCells_eq_ok_iff.mp entered
        refine ⟨marks :: rows, .cons depicts others, List.forall_mem_cons.mpr
          ⟨(Depicts.length_eq depicts).symm.trans even, evens⟩, ?_⟩
        rw [List.map_cons, entries_cons, arrowsFrom_cons, placing_append]
        exact Draft.gains_append_iff.mpr ⟨middle, entered, gains⟩
      · rintro ⟨_, _ | ⟨depicts, others⟩, evens, gains⟩
        obtain ⟨even, evens⟩ := List.forall_mem_cons.mp evens
        rw [List.map_cons, entries_cons, arrowsFrom_cons, placing_append] at gains
        obtain ⟨middle, entered, gains⟩ := Draft.gains_append_iff.mp gains
        exact ⟨depicts.length_eq.trans even, middle, readCells_eq_ok_iff.mpr ⟨_, depicts, entered⟩,
          _, others, evens, gains⟩

/-- Rows of marks that make a picture: they have one length, each mark has a character, and exactly
one of them is Karel. -/
structure IsPicture (width : Nat) (rows : List (List Mark)) (robot : Robot) : Prop where
  even : ∀ marks ∈ rows, marks.length = width
  drawable : ∀ marks ∈ rows, ∀ mark ∈ marks, mark.Drawable
  arrows : arrowsFrom 0 rows = [robot]

/-- What a picture tells. -/
def pictured (width : Nat) (rows : List (List Mark)) (robot : Robot) : Scene where
  robot := robot
  grid := .ofList (.finite (.ofNat width) (.ofNat rows.length))
    (entries 0 (rows.map (·.map Mark.ground))).reverse
  width := .ofNat width
  height := .ofNat rows.length

/-- Lines are read as rows of one length with one arrow in all. -/
theorem readBody_eq_ok_iff {lines : List NumberedLine} {scene : Scene} :
    readBody .picture none true lines = .ok scene ↔ ∃ width rows robot,
      List.Forall₂ (fun marks line => Depicts marks line.content) rows lines ∧
        (∀ marks ∈ rows, marks.length = width) ∧ arrowsFrom 0 rows = [robot] ∧
          scene = pictured width rows robot := by
  cases lines with
  | nil =>
      constructor
      · intro read
        cases read
      · rintro ⟨width, rows, robot, shown, -, arrows, -⟩
        obtain rfl := List.forall₂_nil_right_iff.mp shown
        cases arrows
  | cons first rest =>
      unfold readBody
      constructor
      · intro read
        dsimp only at read
        split at read
        next => cases read
        next draft body =>
          obtain ⟨rows, shown, even, gains⟩ := readRows_eq_ok_iff.mp body
          have arrows : draft.placed.toList = arrowsFrom 0 rows := gains.placed
          have tiles := gains.tiles.trans (List.append_nil _)
          split at read
          next => cases read
          next robot placed =>
            obtain rfl := Except.ok.inj read
            refine ⟨_, rows, robot, shown, even, ?_, ?_⟩
            · rw [← arrows, show draft.placed = some robot from placed, Option.toList_some]
            · rw [tiles, ← shown.length_eq]
              rfl
      · rintro ⟨width, rows, robot, shown, even, arrows, rfl⟩
        have across : (Style.picture.cells first.content).length = width := by
          cases shown with
          | cons depicts others => exact depicts.length_eq.trans (List.forall_mem_cons.mp even).1
        have gains : Draft.Gains {} (entries 0 (rows.map (·.map Mark.ground))) (arrowsFrom 0 rows)
            ⟨some robot, (entries 0 (rows.map (·.map Mark.ground))).reverse⟩ :=
          ⟨(List.append_nil _).symm, arrows.symm⟩
        dsimp only
        rw [across, readRows_eq_ok_iff.mpr ⟨rows, shown, even, gains⟩, ← shown.length_eq]
        rfl

/-! ## Pictures -/

/-- The rows of a map: its lines without the blank ones and without the blanks at their ends. -/
def contentRows (text : String) : List (List Char) :=
  ((Text.lines text.toList).filter fun line => !line.all Text.isBlank).map Text.trim

/-- The text of these lines. -/
def textOf (lines : List (List Char)) : String := String.ofList (lines.flatMap (· ++ ['\n']))

/-- The same map without blank lines, blanks at the ends of lines and zeros. -/
def tidied (text : String) : String := textOf ((contentRows text).map (·.map pointed))

/-- A text is read as the picture whose characters are in its rows. -/
theorem read_picture_eq_ok_iff {text : String} {scene : Scene} :
    read .picture none text = .ok scene ↔ ∃ width rows robot, IsPicture width rows robot ∧
      rows.map (·.map Mark.glyph) = (contentRows text).map (·.map pointed) ∧
        scene = pictured width rows robot := by
  have body : read .picture none text = readBody .picture none true (contentLines text.toList) :=
    rfl
  have shown : ∀ {rows},
      List.Forall₂ (fun marks (line : NumberedLine) => Depicts marks line.content) rows
        (contentLines text.toList) ↔
      (∀ marks ∈ rows, ∀ mark ∈ marks, mark.Drawable) ∧
        rows.map (·.map Mark.glyph) = (contentRows text).map (·.map pointed) := by
    intro rows
    unfold contentRows
    rw [← content_contentLines]
    simp only [depicts_iff, List.forall₂_and_left, ← List.forall₂_eq_eq_eq, List.map_map,
      List.forall₂_map_left_iff, List.forall₂_map_right_iff, Function.comp_def]
  rw [body, readBody_eq_ok_iff]
  constructor
  · rintro ⟨width, rows, robot, depicts, even, arrows, same⟩
    obtain ⟨drawable, glyphs⟩ := shown.mp depicts
    exact ⟨width, rows, robot, ⟨even, drawable, arrows⟩, glyphs, same⟩
  · rintro ⟨width, rows, robot, ⟨even, drawable, arrows⟩, glyphs, same⟩
    exact ⟨width, rows, robot, shown.mpr ⟨drawable, glyphs⟩, even, arrows, same⟩

end MapText

end Karel
