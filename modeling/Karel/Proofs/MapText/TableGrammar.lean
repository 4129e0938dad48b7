import Karel.Proofs.MapText.Faults
import Karel.Proofs.Text.Numerals

/-!
# The grammar of tables

Which texts are tables, and what a table tells, said of the words of the text. The first line with
content is a header for Karel. The lines below have one number of words, each of which writes a tile.
Of any other text the first fault is found, which is `TableFault`.
-/

namespace Karel.MapText

open Text.Numeral (WritesNatural WritesInteger WritesUnsigned)

/-! ## The header -/

/-- A bag in a header: the letter of a bottomless bag, or a number of beepers. -/
inductive WritesBag : List Char → Bag → Prop
  | bottomless {word : List Char} (letter : word = ['N'] ∨ word = ['n']) :
      WritesBag word .unlimited
  | counted {word : List Char} {count : BeeperCount} (writes : WritesUnsigned word count.toNat) :
      WritesBag word (.counted count)

/-- A header for Karel: five words, which are the keyword in either case of letters, two numbers in
the range of coordinates, the tip of an arrow and a bag. -/
inductive IsHeader (line : List Char) : Robot → Prop
  | intro {keyword x y bagWord : List Char} {robot : Robot}
      (words : Text.words line = [keyword, x, y, [robot.facing.glyph], bagWord])
      (spelled : Text.SpellsKeyword "KAREL".toList keyword)
      (column : WritesInteger x robot.position.x.toInt)
      (row : WritesInteger y robot.position.y.toInt)
      (bag : WritesBag bagWord robot.bag) : IsHeader line robot

/-- What is wrong with a header: the number of its words, or its first bad word. -/
inductive BadHeader (line : List Char) : HeaderFault → Prop
  | fieldCount (uneven : (Text.words line).length ≠ 5) : BadHeader line .fieldCount
  | keyword {keyword x y direction bag : List Char}
      (words : Text.words line = [keyword, x, y, direction, bag])
      (other : ¬ Text.SpellsKeyword "KAREL".toList keyword) :
      BadHeader line (.keyword (String.ofList keyword))
  | column {keyword x y direction bag : List Char}
      (words : Text.words line = [keyword, x, y, direction, bag])
      (spelled : Text.SpellsKeyword "KAREL".toList keyword)
      (none : ∀ column : Coordinate, ¬ WritesInteger x column.toInt) : BadHeader line .column
  | row {keyword x y direction bag : List Char} {column : Coordinate}
      (words : Text.words line = [keyword, x, y, direction, bag])
      (spelled : Text.SpellsKeyword "KAREL".toList keyword)
      (first : WritesInteger x column.toInt)
      (none : ∀ row : Coordinate, ¬ WritesInteger y row.toInt) : BadHeader line .row
  | direction {keyword x y direction bag : List Char} {column row : Coordinate}
      (words : Text.words line = [keyword, x, y, direction, bag])
      (spelled : Text.SpellsKeyword "KAREL".toList keyword)
      (first : WritesInteger x column.toInt) (second : WritesInteger y row.toInt)
      (none : ∀ facing : Direction, direction ≠ [facing.glyph]) : BadHeader line .direction
  | bag {keyword x y bag : List Char} {column row : Coordinate} {facing : Direction}
      (words : Text.words line = [keyword, x, y, [facing.glyph], bag])
      (spelled : Text.SpellsKeyword "KAREL".toList keyword)
      (first : WritesInteger x column.toInt) (second : WritesInteger y row.toInt)
      (none : ∀ content : Bag, ¬ WritesBag bag content) : BadHeader line .bag

variable {word line : List Char} {coordinate : Coordinate} {facing : Direction} {bag : Bag}
  {robot : Robot} {reason : HeaderFault}

theorem coordinate?_eq_some_iff :
    coordinate? word = some coordinate ↔ WritesInteger word coordinate.toInt := by
  unfold coordinate?
  simp only [Option.bind_eq_bind, Option.bind_eq_some_iff, Coordinate.ofInt?_eq_some_iff,
    Text.Numeral.integer?_eq_some_iff_writes]
  constructor
  · rintro ⟨value, writes, rfl⟩
    exact writes
  · exact fun writes => ⟨_, writes, rfl⟩

theorem coordinate?_eq_none_iff :
    coordinate? word = none ↔ ∀ coordinate : Coordinate, ¬ WritesInteger word coordinate.toInt := by
  simp only [Option.eq_none_iff_forall_ne_some, ne_eq, coordinate?_eq_some_iff]

theorem direction?_eq_some_iff : direction? word = some facing ↔ word = [facing.glyph] := by
  unfold direction?
  split
  next character => simp [Direction.ofGlyph?_eq_some_iff]
  next other => exact ⟨nofun, fun tip => absurd tip (other _)⟩

theorem direction?_eq_none_iff :
    direction? word = none ↔ ∀ facing : Direction, word ≠ [facing.glyph] := by
  simp only [Option.eq_none_iff_forall_ne_some, ne_eq, direction?_eq_some_iff]

/-- The letter of a bottomless bag writes no number. -/
theorem ne_letter_of_writes {value : Nat} (writes : WritesUnsigned word value) :
    ¬ (word = ['N'] ∨ word = ['n']) := by
  have read := Text.Numeral.unsigned?_eq_some_iff_writes.mpr writes
  rintro (rfl | rfl) <;> cases read

theorem bag?_eq_some_iff : bag? word = some bag ↔ WritesBag word bag := by
  unfold bag?
  constructor
  · intro read
    split at read
    next letter =>
      cases read
      exact .bottomless letter
    next =>
      obtain ⟨value, writes, kept⟩ := Option.bind_eq_some_iff.mp read
      split at kept <;> cases kept
      next small =>
        refine .counted (Text.Numeral.unsigned?_eq_some_iff_writes.mp ?_)
        rw [writes, UInt32.toNat_ofNat_of_lt' small]
  · intro writes
    cases writes with
    | bottomless letter => exact if_pos letter
    | @counted count writes =>
        have read := Text.Numeral.unsigned?_eq_some_iff_writes.mpr writes
        rw [if_neg (ne_letter_of_writes writes), Option.bind_eq_bind, read, Option.bind_some,
          if_pos count.toNat_lt, UInt32.ofNat_toNat]
        rfl

theorem bag?_eq_none_iff : bag? word = none ↔ ∀ bag : Bag, ¬ WritesBag word bag := by
  simp only [Option.eq_none_iff_forall_ne_some, ne_eq, bag?_eq_some_iff]

theorem keyword_iff : Text.SpellsKeyword "KAREL".toList word ↔
    word.map Char.toLower = ['k', 'a', 'r', 'e', 'l'] := by
  have upper : "KAREL".toList.all
      (fun letter => decide (65 ≤ letter.toNat ∧ letter.toNat ≤ 90)) = true := by decide
  exact Text.spellsKeyword_iff fun letter member =>
    of_decide_eq_true (List.all_eq_true.mp upper letter member)

theorem readHeader_eq_ok_iff : readHeader line = .ok robot ↔ IsHeader line robot := by
  constructor
  · intro read
    unfold readHeader at read
    split at read
    next keyword x y direction bag words =>
      split at read
      next => cases read
      next spelled =>
        have spelled := keyword_iff.mpr (not_not.mp spelled)
        split at read <;> cases read
        next column row facing content first second third fourth =>
          obtain rfl := direction?_eq_some_iff.mp third
          exact .intro words spelled (coordinate?_eq_some_iff.mp first)
            (coordinate?_eq_some_iff.mp second) (bag?_eq_some_iff.mp fourth)
    next => cases read
  · rintro ⟨words, spelled, column, row, bag⟩
    unfold readHeader
    rw [words]
    simp only [keyword_iff.mp spelled, coordinate?_eq_some_iff.mpr column,
      coordinate?_eq_some_iff.mpr row, direction?_eq_some_iff.mpr rfl, bag?_eq_some_iff.mpr bag,
      ne_eq, not_true_eq_false, if_false]

theorem readHeader_eq_error_iff : readHeader line = .error reason ↔ BadHeader line reason := by
  constructor
  · intro read
    unfold readHeader at read
    split at read
    next keyword x y direction bag words =>
      split at read
      next other =>
        cases read
        exact .keyword words (mt keyword_iff.mp other)
      next spelled =>
        have spelled := keyword_iff.mpr (not_not.mp spelled)
        split at read <;> cases read
        next first => exact .column words spelled (coordinate?_eq_none_iff.mp first)
        next second first =>
          obtain ⟨column, first⟩ := Option.ne_none_iff_exists'.mp first
          exact .row words spelled (coordinate?_eq_some_iff.mp first)
            (coordinate?_eq_none_iff.mp second)
        next third first second =>
          obtain ⟨column, first⟩ := Option.ne_none_iff_exists'.mp first
          obtain ⟨row, second⟩ := Option.ne_none_iff_exists'.mp second
          exact .direction words spelled (coordinate?_eq_some_iff.mp first)
            (coordinate?_eq_some_iff.mp second) (direction?_eq_none_iff.mp third)
        next fourth first second third =>
          obtain ⟨column, first⟩ := Option.ne_none_iff_exists'.mp first
          obtain ⟨row, second⟩ := Option.ne_none_iff_exists'.mp second
          obtain ⟨facing, third⟩ := Option.ne_none_iff_exists'.mp third
          obtain rfl := direction?_eq_some_iff.mp third
          exact .bag words spelled (coordinate?_eq_some_iff.mp first)
            (coordinate?_eq_some_iff.mp second) (bag?_eq_none_iff.mp fourth)
    next other =>
      cases read
      refine .fieldCount fun five => ?_
      generalize Text.words line = words at other five
      match words, five with
      | [keyword, x, y, direction, bag], _ => exact other keyword x y direction bag rfl
  · intro bad
    unfold readHeader
    cases bad with
    | fieldCount uneven =>
        split
        next words =>
          rw [words] at uneven
          exact absurd rfl uneven
        next => rfl
    | keyword words other =>
        rw [words]
        exact if_pos (mt keyword_iff.mpr other)
    | column words spelled none =>
        rw [words]
        simp only [keyword_iff.mp spelled, coordinate?_eq_none_iff.mpr none, ne_eq,
          not_true_eq_false, if_false]
    | row words spelled first none =>
        rw [words]
        simp only [keyword_iff.mp spelled, coordinate?_eq_some_iff.mpr first,
          coordinate?_eq_none_iff.mpr none, ne_eq, not_true_eq_false, if_false]
    | direction words spelled first second none =>
        rw [words]
        simp only [keyword_iff.mp spelled, coordinate?_eq_some_iff.mpr first,
          coordinate?_eq_some_iff.mpr second, direction?_eq_none_iff.mpr none, ne_eq,
          not_true_eq_false, if_false]
    | bag words spelled first second none =>
        rw [words]
        simp only [keyword_iff.mp spelled, coordinate?_eq_some_iff.mpr first,
          coordinate?_eq_some_iff.mpr second, direction?_eq_some_iff.mpr rfl,
          bag?_eq_none_iff.mpr none, ne_eq, not_true_eq_false, if_false]

/-- No line is a header and a bad one. -/
theorem BadHeader.not_isHeader (bad : BadHeader line reason) : ¬ IsHeader line robot := by
  intro told
  have read := readHeader_eq_error_iff.mpr bad
  rw [readHeader_eq_ok_iff.mpr told] at read
  cases read

/-! ## Rows -/

/-- A word of a table: that of a tile without beepers, or the digits of a pile. -/
inductive WritesTile : List Char → Tile → Prop
  | point : WritesTile ['.'] .empty
  | zero : WritesTile ['0'] .empty
  | wall : WritesTile ['#'] .wall
  | treasure : WritesTile ['$'] .treasure
  | beepers {word : List Char} {pile : Pile} (writes : WritesNatural word pile.count.toNat) :
      WritesTile word (.beepers pile)

/-- Whether words write tiles, row by row. -/
def WritesTiles (rows : List (List Tile)) (shown : List (List (List Char))) : Prop :=
  List.Forall₂ (List.Forall₂ fun tile word => WritesTile word tile) rows shown

/-- The words of a line. -/
def NumberedLine.words (line : NumberedLine) : List (List Char) := Text.words line.content

/-- Whether all words of a line write tiles. -/
def NumberedLine.Legible (line : NumberedLine) : Prop :=
  ∀ word ∈ line.words, ∃ tile, WritesTile word tile

variable {tile : Tile} {mark : Mark} {number : Option Nat} {tiles : List Tile}
  {rows : List (List Tile)} {words : List (List Char)} {shown : List (List (List Char))}
  {draft next : Draft} {lines : List NumberedLine} {row column width index : Nat} {fault : Fault}

theorem ofCount_count (pile : Pile) : Tile.ofCount pile.count = .beepers pile := by
  simp [Tile.ofCount, Pile.ofCount?, pile.count_ne_zero]

theorem pile?_eq_some_iff :
    pile? number = some tile ↔
      ∃ pile : Pile, number = some pile.count.toNat ∧ tile = .beepers pile := by
  unfold pile?
  constructor
  · intro read
    obtain ⟨value, rfl, kept⟩ := Option.bind_eq_some_iff.mp read
    split at kept <;> cases kept
    next bounds =>
      have count : (UInt32.ofNat value).toNat = value := UInt32.toNat_ofNat_of_lt' bounds.2
      have some : UInt32.ofNat value ≠ 0 := by
        intro zero
        rw [zero, UInt32.toNat_zero] at count
        omega
      exact ⟨⟨.ofNat value, some⟩, congrArg _ count.symm, ofCount_count ⟨.ofNat value, some⟩⟩
  · rintro ⟨pile, rfl, rfl⟩
    have positive : 0 < pile.count.toNat :=
      Nat.pos_of_ne_zero fun zero => pile.count_ne_zero (UInt32.toNat_inj.mp zero)
    rw [Option.bind_eq_bind, Option.bind_some, if_pos ⟨positive, pile.count.toNat_lt⟩,
      UInt32.ofNat_toNat, ofCount_count]
    rfl

/-- The digits of a pile are no word of a tile without beepers. -/
theorem plainTile?_of_writes {word : List Char} {pile : Pile}
    (writes : WritesNatural word pile.count.toNat) : plainTile? word = none := by
  have noDigit : ∀ character : Char, character.isDigit = false → word ≠ [character] := by
    rintro character other rfl
    have digit := writes.each character List.mem_cons_self
    rw [other] at digit
    cases digit
  unfold plainTile?
  split
  next => exact absurd rfl (noDigit '.' rfl)
  next => exact absurd (UInt32.toNat_inj.mp writes.value_eq.symm) pile.count_ne_zero
  next => exact absurd rfl (noDigit '#' rfl)
  next => exact absurd rfl (noDigit '$' rfl)
  next => rfl

theorem tableMark?_eq_some_iff {word : List Char} :
    tableMark? word = some mark ↔ ∃ tile, mark = .tile tile ∧ WritesTile word tile := by
  unfold tableMark?
  constructor
  · intro read
    obtain ⟨tile, found, rfl⟩ := Option.map_eq_some_iff.mp read
    refine ⟨tile, rfl, ?_⟩
    rw [Option.orElse_eq_orElse, Option.orElse_eq_or] at found
    rcases Option.or_eq_some_iff.mp found with plain | ⟨-, counted⟩
    · unfold plainTile? at plain
      split at plain <;> cases plain
      · exact .point
      · exact .zero
      · exact .wall
      · exact .treasure
    · obtain ⟨pile, digits, rfl⟩ := pile?_eq_some_iff.mp counted
      exact .beepers (Text.Numeral.natural?_eq_some_iff_writes.mp digits)
  · rintro ⟨tile, rfl, writes⟩
    cases writes with
    | point | zero | wall | treasure => rfl
    | @beepers _ pile writes =>
        have digits := Text.Numeral.natural?_eq_some_iff_writes.mpr writes
        rw [plainTile?_of_writes writes, pile?_eq_some_iff.mpr ⟨pile, digits, rfl⟩]
        rfl

theorem tableMark?_eq_none_iff {word : List Char} :
    tableMark? word = none ↔ ∀ tile, ¬ WritesTile word tile := by
  simp only [Option.eq_none_iff_forall_ne_some, ne_eq, tableMark?_eq_some_iff, not_exists, not_and]
  exact ⟨fun none tile => none (.tile tile) tile rfl, fun none _ tile _ => none tile⟩

/-- The words of a row are read as the tiles that they write. -/
theorem readCells_table_eq_ok_iff :
    readCells .table false index row column words draft = .ok next ↔
      ∃ tiles, List.Forall₂ (fun tile word => WritesTile word tile) tiles words ∧
        next = draft.add (rowEntries row column tiles) := by
  induction words generalizing column draft with
  | nil =>
      have read : readCells .table false index row column [] draft = .ok draft := rfl
      simp only [List.forall₂_nil_right_iff, exists_eq_left, read, Except.ok.injEq]
      exact eq_comm
  | cons word rest inductionHypothesis =>
      simp only [readCells_cons_eq_ok_iff, inductionHypothesis, Style.mark?, tableMark?_eq_some_iff]
      constructor
      · rintro ⟨_, middle, ⟨tile, rfl, writes⟩, entered, tiles, others, rfl⟩
        rw [enter_tile] at entered
        cases entered
        exact ⟨tile :: tiles, .cons writes others, by rw [Draft.add_add, ← rowEntries_cons]⟩
      · rintro ⟨_, @⟨⟩ | @⟨tile, _, tiles, _, writes, others⟩, rfl⟩
        exact ⟨_, _, ⟨tile, rfl, writes⟩, enter_tile, tiles, others, by
          rw [Draft.add_add, ← rowEntries_cons]⟩

/-- Rows of one width are read as the tiles that their words write. -/
theorem readRows_table_eq_ok_iff :
    readRows .table false width row lines draft = .ok next ↔
      (∀ line ∈ lines, line.words.length = width) ∧ ∃ rows,
        WritesTiles rows (lines.map NumberedLine.words) ∧
          next = draft.add (entries row rows) := by
  unfold WritesTiles
  induction lines generalizing row draft with
  | nil =>
      have read : readRows .table false width row [] draft = .ok draft := rfl
      simp only [List.map_nil, List.forall₂_nil_right_iff, exists_eq_left, read, Except.ok.injEq,
        List.not_mem_nil, false_implies, implies_true, true_and]
      exact eq_comm
  | cons line rest inductionHypothesis =>
      simp only [readRows_cons_eq_ok_iff, inductionHypothesis, readCells_table_eq_ok_iff,
        List.forall_mem_cons, List.map_cons, List.forall₂_cons_right_iff]
      constructor
      · rintro ⟨even, _, ⟨tiles, writes, rfl⟩, others, rows, shown, rfl⟩
        exact ⟨⟨even, others⟩, tiles :: rows, ⟨tiles, rows, writes, shown, rfl⟩, by
          rw [Draft.add_add, ← entries_cons]⟩
      · rintro ⟨⟨even, others⟩, _, ⟨tiles, rows, writes, shown, rfl⟩, rfl⟩
        exact ⟨even, _, ⟨tiles, writes, rfl⟩, others, rows, shown, by
          rw [Draft.add_add, ← entries_cons]⟩

/-- Words write tiles if each of them writes one. -/
theorem exists_writesTiles_iff : (∃ rows, WritesTiles rows (lines.map NumberedLine.words)) ↔
    ∀ line ∈ lines, line.Legible := by
  unfold WritesTiles NumberedLine.Legible
  simp only [exists_forall₂_iff, List.forall_mem_map]

/-! ## The first fault of a table -/

/-- The first fault of lines that are no table: there is none, or the header is bad, or no row follows
it, or a row is not as long as the first, or has a word that writes no tile. All above and before the
fault is in order. -/
inductive TableFault (lines : List NumberedLine) : Fault → Prop
  | empty (none : lines = []) : TableFault lines .empty
  | header {header : NumberedLine} {rows : List NumberedLine} {reason : HeaderFault}
      (split : lines = header :: rows) (bad : BadHeader header.content reason) :
      TableFault lines (.header header.number reason)
  | bare {header : NumberedLine} {robot : Robot} (split : lines = [header])
      (told : IsHeader header.content robot) : TableFault lines .empty
  | ragged {header first bad : NumberedLine} {before after : List NumberedLine} {robot : Robot}
      (split : lines = header :: first :: before ++ bad :: after)
      (told : IsHeader header.content robot)
      (even : ∀ line ∈ before, line.words.length = first.words.length)
      (legible : ∀ line ∈ first :: before, line.Legible)
      (uneven : bad.words.length ≠ first.words.length) :
      TableFault lines (.ragged bad.number first.words.length bad.words.length)
  | token {header bad : NumberedLine} {before after : List NumberedLine} {robot : Robot}
      {front back : List (List Char)} {word : List Char}
      (split : lines = header :: before ++ bad :: after) (told : IsHeader header.content robot)
      (even : ∀ line ∈ before, line.words.length = bad.words.length)
      (legible : ∀ line ∈ before, line.Legible)
      (cells : bad.words = front ++ word :: back)
      (written : ∀ other ∈ front, ∃ tile, WritesTile other tile)
      (unknown : ∀ tile, ¬ WritesTile word tile) :
      TableFault lines (.invalidToken bad.number (front.length + 1) (String.ofList word))

/-- Rows can be read from the start if they have one length and their words write tiles. -/
theorem exists_readRows_table_iff :
    (∃ next, readRows .table false width row lines draft = .ok next) ↔
      (∀ line ∈ lines, line.words.length = width) ∧ ∀ line ∈ lines, line.Legible := by
  simp only [readRows_table_eq_ok_iff, ← exists_writesTiles_iff]
  constructor
  · rintro ⟨_, even, rows, shown, -⟩
    exact ⟨even, rows, shown⟩
  · rintro ⟨even, rows, shown⟩
    exact ⟨_, even, rows, shown, rfl⟩

theorem exists_readCells_table_iff :
    (∃ next, readCells .table false index row column words draft = .ok next) ↔
      ∀ word ∈ words, ∃ tile, WritesTile word tile := by
  simp only [readCells_table_eq_ok_iff, ← exists_forall₂_iff]
  constructor
  · rintro ⟨_, tiles, shown, -⟩
    exact ⟨tiles, shown⟩
  · rintro ⟨tiles, shown⟩
    exact ⟨_, tiles, shown, rfl⟩

/-- A cell is bad if its word writes no tile. There is no second arrow in a table. -/
theorem cellFault_table_iff {word : List Char} :
    CellFault .table false index row column word draft fault ↔
      (∀ tile, ¬ WritesTile word tile) ∧
        fault = .invalidToken index (column + 1) (String.ofList word) := by
  rw [← tableMark?_eq_none_iff]
  constructor
  · rintro (unknown | ⟨-, places, -⟩)
    · exact ⟨unknown, rfl⟩
    · cases places
  · rintro ⟨unknown, rfl⟩
    exact .token unknown

/-- Nothing but its fault is said of a bad header. -/
theorem tableFault_of_badHeader {header : NumberedLine} {reason : HeaderFault}
    (bad : BadHeader header.content reason) :
    TableFault (header :: lines) fault ↔ fault = .header header.number reason := by
  constructor
  · intro fails
    cases fails with
    | empty none => cases none
    | header split other =>
        cases split
        have same := (readHeader_eq_error_iff.mpr other).symm.trans (readHeader_eq_error_iff.mpr bad)
        rw [Except.error.inj same]
    | bare split told | ragged split told | token split told =>
        cases split
        exact absurd told bad.not_isHeader
  · rintro rfl
    exact .header rfl bad

/-- The rows of a table have a fault below a good header. -/
theorem tableFault_cons_iff {header : NumberedLine} {robot : Robot}
    (told : IsHeader header.content robot) :
    TableFault (header :: lines) fault ↔
      (lines = [] ∧ fault = .empty) ∨ FirstFault .table false lines fault := by
  constructor
  · intro bad
    cases bad with
    | empty none => cases none
    | header split bad =>
        cases split
        exact absurd told bad.not_isHeader
    | bare split =>
        cases split
        exact .inl ⟨rfl, rfl⟩
    | ragged split told even legible uneven =>
        cases split
        obtain ⟨middle, read⟩ := exists_readRows_table_iff.mpr
          ⟨List.forall_mem_cons.mpr ⟨rfl, even⟩, legible⟩
        exact .inr (.ragged rfl read uneven)
    | token split told even legible cells written unknown =>
        cases split
        obtain ⟨middle, read⟩ := exists_readRows_table_iff.mpr ⟨even, legible⟩
        obtain ⟨last, entered⟩ := exists_readCells_table_iff.mpr written
        exact .inr (.cell rfl read cells entered (cellFault_table_iff.mpr ⟨unknown, rfl⟩))
  · rintro (⟨rfl, rfl⟩ | ⟨rfl, read, uneven⟩ | ⟨rfl, read, cells, entered, fails⟩)
    · exact .bare rfl told
    · obtain ⟨even, legible⟩ := exists_readRows_table_iff.mp ⟨_, read⟩
      exact .ragged rfl told (List.forall_mem_cons.mp even).2 legible uneven
    · obtain ⟨even, legible⟩ := exists_readRows_table_iff.mp ⟨_, read⟩
      obtain ⟨unknown, rfl⟩ := cellFault_table_iff.mp fails
      exact .token rfl told even legible cells
        (exists_readCells_table_iff.mp ⟨_, entered⟩) unknown

/-! ## Tables and what they tell -/

variable {text : String} {scene : Scene} {header : NumberedLine}

/-- Lines that make a table: a header for Karel, and rows of one length whose words write tiles. -/
inductive IsTable : List NumberedLine → Prop
  | intro {header : NumberedLine} {rows : List NumberedLine} {robot : Robot} {width : Nat}
      (told : IsHeader header.content robot) (some : rows ≠ [])
      (even : ∀ line ∈ rows, line.words.length = width)
      (legible : ∀ line ∈ rows, line.Legible) : IsTable (header :: rows)

/-- What a table tells. -/
def tabled (width : Nat) (rows : List (List Tile)) (robot : Robot) : Scene where
  robot := robot
  grid := .ofList (.finite (.ofNat width) (.ofNat rows.length)) (entries 0 rows).reverse
  width := .ofNat width
  height := .ofNat rows.length

/-- The words of a table write the tiles of its cells. -/
theorem writesTile_tabled {word : List Char}
    (shown : WritesTiles rows (lines.map NumberedLine.words))
    (even : ∀ line ∈ lines, line.words.length = width) (narrow : width ≤ Coordinate.greatest)
    (low : lines.length ≤ Coordinate.greatest)
    (there : cellAt? (lines.map NumberedLine.words) column row = some word) :
    WritesTile word ((tabled width rows robot).grid.get ⟨.ofNat column, .ofNat row⟩) := by
  have evens := (forall_length_eq_iff shown).mpr (List.forall_mem_map.mpr even)
  have count : rows.length = lines.length := by
    rw [List.Forall₂.length_eq shown, List.length_map]
  have entry := cellAt?_rel shown column row
  rw [there] at entry
  generalize marked : cellAt? rows column row = tile at entry
  cases entry with
  | some writes =>
      have found := get_entries evens narrow (count ▸ low) marked
      exact found.symm ▸ writes

/-- Lines are read as the tiles that their words write. -/
theorem readBody_table_eq_ok_iff :
    readBody .table (some robot) false lines = .ok scene ↔ lines ≠ [] ∧ ∃ width rows,
      (∀ line ∈ lines, line.words.length = width) ∧
        WritesTiles rows (lines.map NumberedLine.words) ∧ scene = tabled width rows robot := by
  cases lines with
  | nil =>
      constructor
      · intro read
        cases read
      · rintro ⟨some, -⟩
        exact absurd rfl some
  | cons first rest =>
      have told : ∀ {width rows},
          WritesTiles rows ((first :: rest).map NumberedLine.words) →
            (⟨robot, .ofList (.finite (.ofNat width) (.ofNat (first :: rest).length))
              (Draft.add {} (entries 0 rows)).tiles, .ofNat width,
              .ofNat (first :: rest).length⟩ : Scene) = tabled width rows robot := by
        intro width rows shown
        have count : rows.length = (first :: rest).length := by
          rw [List.Forall₂.length_eq shown, List.length_map]
        unfold tabled Draft.add
        rw [count, List.append_nil]
      unfold readBody
      dsimp only
      constructor
      · intro read
        split at read
        next => cases read
        next draft body =>
          obtain ⟨even, rows, shown, rfl⟩ := readRows_table_eq_ok_iff.mp body
          cases read
          exact ⟨List.cons_ne_nil _ _, _, rows, even, shown, told shown⟩
      · rintro ⟨-, width, rows, even, shown, rfl⟩
        have across : (Style.table.cells first.content).length = width :=
          even first List.mem_cons_self
        rw [across, readRows_table_eq_ok_iff.mpr ⟨even, rows, shown, rfl⟩]
        exact congrArg Except.ok (told shown)

/-- A bad header is a fault, and below a good one are the rows of Karel. -/
theorem read_table_eq (content : contentLines text.toList = header :: lines) :
    read .table none text = match readHeader header.content with
      | .error reason => .error (.header header.number reason)
      | .ok robot => readBody .table (some robot) false lines := by
  unfold read
  rw [content]
  rfl

/-- A text is read as a table if its first line with content is a header and the others are rows. -/
theorem read_table_eq_ok_iff (content : contentLines text.toList = header :: lines) :
    read .table none text = .ok scene ↔ IsHeader header.content scene.robot ∧ lines ≠ [] ∧
      ∃ width rows, (∀ line ∈ lines, line.words.length = width) ∧
        WritesTiles rows (lines.map NumberedLine.words) ∧ scene = tabled width rows scene.robot := by
  rw [read_table_eq content, ← readHeader_eq_ok_iff]
  cases readHeader header.content with
  | error reason => simp
  | ok robot =>
      rw [Except.ok.injEq]
      dsimp only
      rw [readBody_table_eq_ok_iff]
      constructor
      · rintro ⟨some, width, rows, even, shown, rfl⟩
        exact ⟨rfl, some, width, rows, even, shown, rfl⟩
      · rintro ⟨rfl, rest⟩
        exact rest

/-- The texts that are read as tables. -/
theorem exists_read_table_iff :
    (∃ scene, read .table none text = .ok scene) ↔ IsTable (contentLines text.toList) := by
  constructor
  · rintro ⟨scene, accepted⟩
    cases content : contentLines text.toList with
    | nil =>
        unfold read at accepted
        rw [content] at accepted
        cases accepted
    | cons header lines =>
        obtain ⟨told, some, width, rows, even, shown, -⟩ :=
          (read_table_eq_ok_iff content).mp accepted
        exact .intro told some even (exists_writesTiles_iff.mp ⟨rows, shown⟩)
  · intro table
    generalize content : contentLines text.toList = all at table
    obtain ⟨told, some, even, legible⟩ := table
    obtain ⟨rows, shown⟩ := exists_writesTiles_iff.mpr legible
    exact ⟨tabled _ rows _,
      (read_table_eq_ok_iff content).mpr ⟨told, some, _, rows, even, shown, rfl⟩⟩

/-- The fault of a text that is no table. -/
theorem read_table_eq_error_iff :
    read .table none text = .error fault ↔ TableFault (contentLines text.toList) fault := by
  cases content : contentLines text.toList with
  | nil =>
      unfold read
      rw [content]
      constructor
      · intro read
        cases read
        exact .empty rfl
      · intro bad
        cases bad with
        | empty => rfl
        | header split | bare split | ragged split | token split => cases split
  | cons header lines =>
      rw [read_table_eq content]
      cases read : readHeader header.content with
      | error reason =>
          rw [tableFault_of_badHeader (readHeader_eq_error_iff.mp read)]
          dsimp only
          rw [Except.error.injEq, eq_comm]
      | ok robot =>
          rw [tableFault_cons_iff (readHeader_eq_ok_iff.mp read)]
          dsimp only
          rw [readBody_eq_error_iff]
          simp

/-- The texts that are read as tables, and what they tell: Karel is that of the header, the size is
that of the rows, and each word writes the tile of its cell, as far as coordinates can count the rows
and the columns. Of any other text the first fault is found. -/
theorem read_table_grammar (text : String) :
    ((∃ scene, read .table none text = .ok scene) ↔ IsTable (contentLines text.toList)) ∧
    (∀ header rows scene, contentLines text.toList = header :: rows →
      read .table none text = .ok scene →
        IsHeader header.content scene.robot ∧
        scene.height = .ofNat rows.length ∧
        (∀ row ∈ rows, scene.width = .ofNat row.words.length) ∧
        scene.grid.bounds = .finite scene.width scene.height ∧
        ((rows.length ≤ Coordinate.greatest ∧
            ∀ row ∈ rows, row.words.length ≤ Coordinate.greatest) ↔
          scene.height.toInt = rows.length ∧
          (∀ row ∈ rows, scene.width.toInt = row.words.length) ∧
          ∀ column row word, cellAt? (rows.map NumberedLine.words) column row = some word →
            WritesTile word (scene.grid.get ⟨.ofNat column, .ofNat row⟩))) ∧
    ∀ fault, read .table none text = .error fault ↔ TableFault (contentLines text.toList) fault := by
  refine ⟨exists_read_table_iff, fun header rows scene content accepted => ?_, fun fault =>
    read_table_eq_error_iff⟩
  obtain ⟨told, some, width, tiles, even, shown, same⟩ := (read_table_eq_ok_iff content).mp accepted
  have count : tiles.length = rows.length := by
    rw [List.Forall₂.length_eq shown, List.length_map]
  have height : scene.height = .ofNat rows.length := by
    rw [same, ← count]
    rfl
  have sides : ∀ row ∈ rows, scene.width = .ofNat row.words.length := by
    intro row member
    rw [same, even row member]
    rfl
  have bounds : scene.grid.bounds = .finite scene.width scene.height := by
    rw [same]
    exact Grid.bounds_ofList _ _
  have high_iff := height ▸ Coordinate.toInt_ofNat_iff
  have wide_iff : ∀ row ∈ rows,
      scene.width.toInt = row.words.length ↔ row.words.length ≤ Coordinate.greatest :=
    fun row member => sides row member ▸ Coordinate.toInt_ofNat_iff
  refine ⟨told, height, sides, bounds, ?_, ?_⟩
  · rintro ⟨high, wide⟩
    refine ⟨high_iff.mpr high, fun row member => (wide_iff row member).mpr (wide row member), ?_⟩
    obtain ⟨row, member⟩ := List.exists_mem_of_ne_nil _ some
    rw [same]
    exact fun _ _ _ => writesTile_tabled shown even (even row member ▸ wide row member) high
  · rintro ⟨high, wide, -⟩
    exact ⟨high_iff.mp high, fun row member => (wide_iff row member).mp (wide row member)⟩

/-- Twelve beepers lie in the last column of this table, and two zeros are no word of a tile. -/
theorem read_table_grammar_twelve :
    (∃ scene, read .table none "\n karel -1 +0 v 007\n. # 012\n" = .ok scene ∧
      WritesTile "012".toList (scene.grid.get ⟨.ofNat 2, .ofNat 0⟩)) ∧
    TableFault (contentLines "KAREL 0 0 > N\n\n. 0\n# 00\n".toList) (.invalidToken 4 2 "00") := by
  have content : contentLines "\n karel -1 +0 v 007\n. # 012\n".toList =
      [⟨2, " karel -1 +0 v 007".toList⟩, ⟨3, ". # 012".toList⟩] := by rfl
  obtain ⟨scene, accepted⟩ :
      ∃ scene, read .table none "\n karel -1 +0 v 007\n. # 012\n" = .ok scene := ⟨_, rfl⟩
  have told := (read_table_grammar _).2.1 _ _ scene content accepted
  have tiles := (told.2.2.2.2.mp ⟨by decide, by decide⟩).2.2
  refine ⟨⟨scene, accepted, tiles 2 0 "012".toList (by decide)⟩, ?_⟩
  exact ((read_table_grammar _).2.2 _).mp (by rfl)

end Karel.MapText
