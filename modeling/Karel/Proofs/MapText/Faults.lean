import Karel.Proofs.MapText.Picture

/-!
# The first fault of a map

Rows are read in order, and so are the cells of a row. A fault is that of one cell or one row: all
before it was read, and what follows does not matter. This is so in both styles, and the grammars of
pictures and of tables start from it.
-/

namespace Karel.MapText

/-! ## Lists side by side -/

section

variable {α β : Type} {relation : α → β → Prop} {values : List α} {others : List β}

/-- A list has partners if each of its entries has one. -/
theorem exists_forall₂_iff : (∃ values, List.Forall₂ relation values others) ↔
    ∀ other ∈ others, ∃ value, relation value other := by
  induction others with
  | nil => simp
  | cons other rest inductionHypothesis =>
      rw [List.forall_mem_cons, ← inductionHypothesis]
      constructor
      · rintro ⟨_, _ | ⟨first, others⟩⟩
        exact ⟨⟨_, first⟩, _, others⟩
      · rintro ⟨⟨_, first⟩, _, others⟩
        exact ⟨_, .cons first others⟩

/-- What two lists have at one index corresponds. -/
theorem getElem?_rel (related : List.Forall₂ relation values others) (index : Nat) :
    Option.Rel relation values[index]? others[index]? := by
  induction related generalizing index with
  | nil => exact .none
  | cons first _ inductionHypothesis =>
      cases index with
      | zero => exact .some first
      | succ index => exact inductionHypothesis index

/-- What rows have at one place corresponds. -/
theorem cellAt?_rel {rows : List (List α)} {shown : List (List β)}
    (related : List.Forall₂ (List.Forall₂ relation) rows shown) (column row : Nat) :
    Option.Rel relation (cellAt? rows column row) (cellAt? shown column row) := by
  unfold cellAt?
  have entry := getElem?_rel related row
  generalize rows[row]? = values at entry ⊢
  generalize shown[row]? = others at entry ⊢
  cases entry with
  | none => exact .none
  | some related => exact getElem?_rel related column

/-- Rows that correspond have the same lengths. -/
theorem forall_length_eq_iff {rows : List (List α)} {shown : List (List β)} {width : Nat}
    (related : List.Forall₂ (List.Forall₂ relation) rows shown) :
    (∀ values ∈ rows, values.length = width) ↔ ∀ others ∈ shown, others.length = width := by
  have lengths : rows.map List.length = shown.map List.length := by
    rw [← List.forall₂_eq_eq_eq, List.forall₂_map_left_iff, List.forall₂_map_right_iff]
    exact related.imp fun _ _ => List.Forall₂.length_eq
  rw [← List.forall_mem_map (P := (· = width)), lengths, List.forall_mem_map]

end

/-! ## The first bad cell and the first bad row -/

variable {draft middle : Draft} {fault : Fault} {style : Style} {arrowsPlace : Bool}
  {number row column width : Nat} {cells : List (List Char)} {lines : List NumberedLine}
  {scene : Scene} {robot : Option Robot}

/-- What is wrong with a cell, when this is the draft before it: it shows nothing, or a second
arrow. -/
inductive CellFault (style : Style) (arrowsPlace : Bool) (number row column : Nat)
    (token : List Char) (draft : Draft) : Fault → Prop
  | token (unknown : style.mark? token = none) :
      CellFault style arrowsPlace number row column token draft
        (.invalidToken number (column + 1) (String.ofList token))
  | arrow {facing first} (shown : style.mark? token = some (.robot facing))
      (places : arrowsPlace = true) (placed : draft.placed = some first) :
      CellFault style arrowsPlace number row column token draft
        (.duplicateRobot number (column + 1) first.position)

/-- Only a second arrow can not be entered. -/
theorem enter_eq_error_iff {mark : Mark} :
    draft.enter arrowsPlace number column row mark = .error fault ↔
      ∃ facing first, mark = .robot facing ∧ arrowsPlace = true ∧ draft.placed = some first ∧
        fault = .duplicateRobot number (column + 1) first.position := by
  obtain ⟨placed, tiles⟩ := draft
  cases mark with
  | tile content => cases content <;> simp [Draft.enter]
  | robot facing => cases arrowsPlace <;> cases placed <;> simp [Draft.enter, eq_comm]

/-- A cell is bad if it can not be read or not be entered. -/
theorem cellFault_iff {token : List Char} :
    CellFault style arrowsPlace number row column token draft fault ↔
      (style.mark? token = none ∧
          fault = .invalidToken number (column + 1) (String.ofList token)) ∨
        ∃ mark, style.mark? token = some mark ∧
          draft.enter arrowsPlace number column row mark = .error fault := by
  constructor
  · rintro (unknown | ⟨shown, places, placed⟩)
    · exact .inl ⟨unknown, rfl⟩
    · exact .inr ⟨_, shown, enter_eq_error_iff.mpr ⟨_, _, rfl, places, placed, rfl⟩⟩
  · rintro (⟨unknown, rfl⟩ | ⟨_, shown, refused⟩)
    · exact .token unknown
    · obtain ⟨facing, first, rfl, places, placed, rfl⟩ := enter_eq_error_iff.mp refused
      exact .arrow shown places placed

theorem readCells_cons_eq_error_iff {token : List Char} :
    readCells style arrowsPlace number row column (token :: cells) draft = .error fault ↔
      CellFault style arrowsPlace number row column token draft fault ∨
        ∃ mark middle, style.mark? token = some mark ∧
          draft.enter arrowsPlace number column row mark = .ok middle ∧
            readCells style arrowsPlace number row (column + 1) cells middle = .error fault := by
  rw [cellFault_iff, readCells]
  cases style.mark? token with
  | none => simp [eq_comm]
  | some mark =>
      cases entered : draft.enter arrowsPlace number column row mark <;> simp [entered]

/-- The fault of a row is that of its first bad cell. -/
theorem readCells_eq_error_iff :
    readCells style arrowsPlace number row column cells draft = .error fault ↔
      ∃ front token back middle, cells = front ++ token :: back ∧
        readCells style arrowsPlace number row column front draft = .ok middle ∧
          CellFault style arrowsPlace number row (column + front.length) token middle fault := by
  induction cells generalizing column draft with
  | nil => simp [readCells]
  | cons token rest inductionHypothesis =>
      rw [readCells_cons_eq_error_iff]
      constructor
      · rintro (bad | ⟨mark, entered, shown, enters, later⟩)
        · exact ⟨[], token, rest, draft, rfl, rfl, bad⟩
        · obtain ⟨front, other, back, middle, rfl, read, bad⟩ := inductionHypothesis.mp later
          refine ⟨token :: front, other, back, middle, rfl, ?_, ?_⟩
          · exact readCells_cons_eq_ok_iff.mpr ⟨mark, entered, shown, enters, read⟩
          · rwa [List.length_cons, Nat.add_comm front.length, ← Nat.add_assoc]
      · rintro ⟨front, other, back, middle, split, read, bad⟩
        cases front with
        | nil =>
            cases split
            cases read
            exact .inl bad
        | cons _ front =>
            cases split
            obtain ⟨mark, entered, shown, enters, read⟩ := readCells_cons_eq_ok_iff.mp read
            refine .inr ⟨mark, entered, shown, enters, inductionHypothesis.mpr
              ⟨front, other, back, middle, rfl, read, ?_⟩⟩
            rwa [List.length_cons, Nat.add_comm front.length, ← Nat.add_assoc] at bad

/-- What is wrong with a row, when this is the draft before it: its length, or a cell. -/
inductive RowFault (style : Style) (arrowsPlace : Bool) (width row : Nat) (line : NumberedLine)
    (draft : Draft) : Fault → Prop
  | ragged (uneven : (style.cells line.content).length ≠ width) :
      RowFault style arrowsPlace width row line draft
        (.ragged line.number width (style.cells line.content).length)
  | cell {cause : Fault} (even : (style.cells line.content).length = width)
      (bad : readCells style arrowsPlace line.number row 0 (style.cells line.content) draft =
        .error cause) : RowFault style arrowsPlace width row line draft cause

theorem readRows_cons_eq_error_iff {line : NumberedLine} :
    readRows style arrowsPlace width row (line :: lines) draft = .error fault ↔
      RowFault style arrowsPlace width row line draft fault ∨
        (style.cells line.content).length = width ∧ ∃ middle,
          readCells style arrowsPlace line.number row 0 (style.cells line.content) draft =
              .ok middle ∧
            readRows style arrowsPlace width (row + 1) lines middle = .error fault := by
  have fault_iff : RowFault style arrowsPlace width row line draft fault ↔
      ((style.cells line.content).length ≠ width ∧
          fault = .ragged line.number width (style.cells line.content).length) ∨
        (style.cells line.content).length = width ∧
          readCells style arrowsPlace line.number row 0 (style.cells line.content) draft =
            .error fault := by
    constructor
    · rintro (uneven | ⟨even, bad⟩)
      · exact .inl ⟨uneven, rfl⟩
      · exact .inr ⟨even, bad⟩
    · rintro (⟨uneven, rfl⟩ | ⟨even, bad⟩)
      · exact .ragged uneven
      · exact .cell even bad
  rw [fault_iff, readRows]
  by_cases even : (style.cells line.content).length = width
  · cases readCells style arrowsPlace line.number row 0 (style.cells line.content) draft <;>
      simp [even]
  · simp [even, eq_comm]

/-- The fault of rows is that of the first bad row. -/
theorem readRows_eq_error_iff :
    readRows style arrowsPlace width row lines draft = .error fault ↔
      ∃ before bad after middle, lines = before ++ bad :: after ∧
        readRows style arrowsPlace width row before draft = .ok middle ∧
          RowFault style arrowsPlace width (row + before.length) bad middle fault := by
  induction lines generalizing row draft with
  | nil => simp [readRows]
  | cons line rest inductionHypothesis =>
      rw [readRows_cons_eq_error_iff]
      constructor
      · rintro (bad | ⟨even, entered, cells, later⟩)
        · exact ⟨[], line, rest, draft, rfl, rfl, bad⟩
        · obtain ⟨before, other, after, middle, rfl, read, bad⟩ := inductionHypothesis.mp later
          refine ⟨line :: before, other, after, middle, rfl, ?_, ?_⟩
          · exact readRows_cons_eq_ok_iff.mpr ⟨even, entered, cells, read⟩
          · rwa [List.length_cons, Nat.add_comm before.length, ← Nat.add_assoc]
      · rintro ⟨before, other, after, middle, split, read, bad⟩
        cases before with
        | nil =>
            cases split
            cases read
            exact .inl bad
        | cons _ before =>
            cases split
            obtain ⟨even, entered, cells, read⟩ := readRows_cons_eq_ok_iff.mp read
            refine .inr ⟨even, entered, cells, inductionHypothesis.mpr
              ⟨before, other, after, middle, rfl, read, ?_⟩⟩
            rwa [List.length_cons, Nat.add_comm before.length, ← Nat.add_assoc] at bad

/-- The length of the first row, which is that of all rows. -/
def firstLength (style : Style) : List NumberedLine → Nat
  | [] => 0
  | first :: _ => (style.cells first.content).length

/-- The first fault of rows that should all be as long as the first one: the length of a row below it,
or a cell. All above and before it is read. -/
inductive FirstFault (style : Style) (arrowsPlace : Bool) (lines : List NumberedLine) : Fault → Prop
  | ragged {first bad : NumberedLine} {before after : List NumberedLine} {middle : Draft}
      (split : lines = first :: before ++ bad :: after)
      (read : readRows style arrowsPlace (style.cells first.content).length 0 (first :: before) {} =
        .ok middle)
      (uneven : (style.cells bad.content).length ≠ (style.cells first.content).length) :
      FirstFault style arrowsPlace lines
        (.ragged bad.number (style.cells first.content).length (style.cells bad.content).length)
  | cell {bad : NumberedLine} {before after : List NumberedLine} {middle last : Draft}
      {front back : List (List Char)} {token : List Char} {fault : Fault}
      (split : lines = before ++ bad :: after)
      (read : readRows style arrowsPlace (style.cells bad.content).length 0 before {} = .ok middle)
      (cells : style.cells bad.content = front ++ token :: back)
      (entered : readCells style arrowsPlace bad.number before.length 0 front middle = .ok last)
      (fails : CellFault style arrowsPlace bad.number before.length front.length token last fault) :
      FirstFault style arrowsPlace lines fault

theorem firstFault_iff : FirstFault style arrowsPlace lines fault ↔
    readRows style arrowsPlace (firstLength style lines) 0 lines {} = .error fault := by
  rw [readRows_eq_error_iff]
  simp only [Nat.zero_add]
  constructor
  · rintro (⟨rfl, read, uneven⟩ | @⟨bad, before, after, middle, _, _, _, _, _, rfl, read, cells,
      entered, fails⟩)
    · exact ⟨_, _, _, _, rfl, read, .ragged uneven⟩
    · have width : firstLength style (before ++ bad :: after) =
          (style.cells bad.content).length := by
        cases before with
        | nil => rfl
        | cons first before => exact (readRows_cons_eq_ok_iff.mp read).1
      refine ⟨before, bad, after, middle, rfl, width ▸ read, .cell width.symm ?_⟩
      refine readCells_eq_error_iff.mpr ⟨_, _, _, _, cells, entered, ?_⟩
      rwa [Nat.zero_add]
  · rintro ⟨before, bad, after, middle, rfl, read, uneven | ⟨even, unread⟩⟩
    · cases before with
      | nil => exact absurd rfl uneven
      | cons first before => exact .ragged rfl read uneven
    · obtain ⟨front, token, back, last, cells, entered, fails⟩ := readCells_eq_error_iff.mp unread
      rw [Nat.zero_add] at fails
      exact .cell rfl (even ▸ read) cells entered fails

/-- A map is bad if it has no row, or a bad row, or if nothing places Karel in it. -/
theorem readBody_eq_error_iff :
    readBody style robot arrowsPlace lines = .error fault ↔
      (lines = [] ∧ fault = .empty) ∨ FirstFault style arrowsPlace lines fault ∨
        lines ≠ [] ∧ fault = .missingRobot ∧ ∃ draft : Draft,
          readRows style arrowsPlace (firstLength style lines) 0 lines {} = .ok draft ∧
            robot = none ∧ draft.placed = none := by
  rw [firstFault_iff]
  cases lines with
  | nil => simp [readBody, readRows, eq_comm]
  | cons first rest =>
      unfold readBody firstLength
      dsimp only
      cases readRows style arrowsPlace (style.cells first.content).length 0 (first :: rest) {} with
      | error cause => simp
      | ok draft =>
          obtain ⟨placed, tiles⟩ := draft
          cases robot <;> cases placed <;> simp [eq_comm]

end Karel.MapText
